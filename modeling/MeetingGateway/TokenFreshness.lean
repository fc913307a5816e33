import MeetingGateway.TokenCache
import MeetingGateway.Availability
import Mathlib.Tactic.NormNum
import Mathlib.Tactic.Ring

/-!
# No token close to its expiry

Three places decide whether a token may be handed out: the TTL of a new one, the comparison
of a stored expiry, and the refusal of a new token that is too short-lived. All of them are
about the same safety window, so a token with a known expiry is outside it whenever
the call looked, and one without an expiry is at most a minute old.
-/

namespace MeetingGateway

open LabelledRuns

def minuteAfter (instant : Int) : Int := instant + 60 * secondMicroseconds

/-- An entry can be read, and without an expiry it lasts a minute. -/
def CacheEntry.Sound (cfg : TokenSettings) (entry : CacheEntry) : Prop :=
  ∃ item, readItem cfg.toSettings entry.raw = .ok item ∧
    (item.expiry = none → entry.deadline = minuteAfter entry.storedAt)

/-- The expiry lay outside the safety window when it was compared with the clock. -/
def TokenCall.Decided (cfg : TokenSettings) (call : TokenCall) (expiry : Option Int) : Prop :=
  ∀ e, expiry = some e → ∃ t, call.decidedAt = some t ∧ cfg.skew < e - t

/-- What is known of a token that is handed out. -/
structure TokenCall.Fresh (cfg : TokenSettings) (call : TokenCall) (expiry : Option Int) :
    Prop where
  decided : call.Decided cfg expiry
  lastRead : call.served.isSome = true → call.lastRead = call.decidedAt
  young : ∀ s, call.served = some s → expiry = none → s.readAt ≤ minuteAfter s.storedAt

/-- What is known of a call at each of its statements. -/
def TokenCall.Vouched (cfg : TokenSettings) (call : TokenCall) : Prop :=
  match call.stage with
  | .comparing item => call.lastRead = call.decidedAt ∧
      ∃ s, call.served = some s ∧ (item.expiry = none → s.readAt ≤ minuteAfter s.storedAt)
  | .storing result ttl => call.served = none ∧ 0 < ttl ∧ (result.expiresAt = none → ttl = 60) ∧
      call.Decided cfg result.expiresAt
  | .stamping result => call.served = none ∧ call.Decided cfg result.expiresAt
  | .leaving (.issued result) => call.Fresh cfg result.expiresAt
  | .returned (.issued result) => call.Fresh cfg result.expiresAt
  | .leaving _ => True
  | .returned _ => True
  | _ => call.served = none ∧ call.lastRead = call.decidedAt

structure TokenView.Sound (cfg : TokenSettings) (v : TokenView) : Prop where
  entry : ∀ entry, v.entry = some entry → entry.Sound cfg
  call : v.call.Vouched cfg

section Moves
variable {cfg : TokenSettings} {c : TokenCallId} {v v' : TokenView} {op : TokenOp}

theorem vouched_of_failed {call : TokenCall} (h : call.stage.failed = true) :
    call.Vouched cfg := by
  unfold TokenCall.Vouched
  cases hstage : call.stage with
  | leaving outcome =>
    cases outcome with
    | issued result =>
      rw [hstage] at h
      cases h
    | refused code statusCode => trivial
    | escaped e => trivial
  | returned outcome =>
    cases outcome with
    | issued result =>
      rw [hstage] at h
      cases h
    | refused code statusCode => trivial
    | escaped e => trivial
  | _ =>
    rw [hstage] at h
    cases h

theorem decided_compare {call : TokenCall} {expiry : Option Int} {now : Int} {stage : TokenStage}
    (outside : ∀ e, expiry = some e → cfg.skew < e - now) :
    (call.compare expiry now stage).Decided cfg expiry := by
  intro e he
  subst he
  exact ⟨now, rfl, outside e rfl⟩

/-- An entry that is compared and kept is handed out fresh. -/
theorem fresh_of_kept {call : TokenCall} {expiry : Option Int} {now : Int} {stage : TokenStage}
    {s : Served} (hfresh : cfg.fresh expiry now = true) (same : call.lastRead = call.decidedAt)
    (hserved : call.served = some s)
    (young : expiry = none → s.readAt ≤ minuteAfter s.storedAt) :
    (call.compare expiry now stage).Fresh cfg expiry := by
  constructor
  · apply decided_compare
    intro e he
    rw [he] at hfresh
    exact skew_lt_of_fresh hfresh
  · intro _
    exact TokenCall.compare_reads _ _ _ _ same
  · intro s' hs' unknown
    rw [TokenCall.compare_served, hserved] at hs'
    cases hs'
    exact young unknown

/-- A new token that lasts is outside the window when its TTL is computed. -/
theorem decided_of_ttl {call : TokenCall} {expiresAt : Option Int} {now : Int} {stage : TokenStage}
    (httl : 0 < cfg.ttl expiresAt now) :
    (call.compare expiresAt now stage).Decided cfg expiresAt := by
  apply decided_compare
  intro e he
  rw [he] at httl
  exact skew_lt_of_ttl httl

theorem ttl_of_unknown {expiresAt : Option Int} (h : expiresAt = none) (now : Int) :
    cfg.ttl expiresAt now = 60 := by
  rw [h]
  rfl

theorem sound_of_stored {result : ProviderAuthResult} {ttl now : Int}
    (hminute : result.expiresAt = none → ttl = 60) :
    CacheEntry.Sound cfg
      ⟨encryptDumps cfg.keyring (.item ⟨result.accessToken, result.expiresAt⟩), now,
        now + ttl * secondMicroseconds⟩ := by
  refine ⟨⟨result.accessToken, result.expiresAt⟩, by simp [readItem], ?_⟩
  intro unknown
  rw [hminute unknown, minuteAfter]

/-- A token that was not read from the cache is fresh once it is decided on. -/
theorem fresh_of_unserved {call : TokenCall} {expiry : Option Int} (hserved : call.served = none)
    (decided : call.Decided cfg expiry) : call.Fresh cfg expiry := by
  refine ⟨decided, ?_, ?_⟩
  · intro some_served
    rw [hserved] at some_served
    cases some_served
  · intro s hs
    rw [hserved] at hs
    cases hs

theorem move_sound (h : TokenMove cfg c v op v') (sound : v.Sound cfg) : v'.Sound cfg := by
  have vouched := sound.call
  unfold TokenCall.Vouched at vouched
  cases h with
  | failed ended => exact ⟨sound.entry, vouched_of_failed ended⟩
  | entered hstage _ =>
    rw [hstage] at vouched
    refine ⟨sound.entry, ?_⟩
    by_cases hforce : v.call.force = true
    · simpa [TokenCall.Vouched, TokenCall.goto, hforce] using vouched
    · simpa [TokenCall.Vouched, TokenCall.goto, hforce] using vouched
  | missed hstage _ =>
    rw [hstage] at vouched
    exact ⟨sound.entry, vouched⟩
  | @hit entry item hstage hvisible hitem =>
    rw [hstage] at vouched
    obtain ⟨hentry, hclock⟩ := visible_some hvisible
    obtain ⟨item', hitem', hlasts⟩ := sound.entry entry hentry
    rw [hitem] at hitem'
    cases hitem'
    refine ⟨sound.entry, vouched.2, _, rfl, ?_⟩
    intro unknown
    rw [← hlasts unknown]
    exact hclock
  | discarded hstage _ =>
    rw [hstage] at vouched
    exact ⟨sound.entry, vouched⟩
  | @kept item hstage hfresh =>
    rw [hstage] at vouched
    obtain ⟨same, s, hserved, young⟩ := vouched
    refine ⟨sound.entry, ?_⟩
    have fresh : (v.call.compare item.expiry v.clock
        (.leaving (.issued ⟨item.token, item.expiry⟩))).Fresh cfg item.expiry :=
      fresh_of_kept hfresh same hserved young
    simpa [TokenCall.Vouched] using fresh
  | @stale item hstage _ =>
    rw [hstage] at vouched
    refine ⟨sound.entry, ?_⟩
    have same := TokenCall.compare_reads v.call item.expiry v.clock .authenticating vouched.1
    simpa [TokenCall.Vouched] using same
  | deleted hstage =>
    rw [hstage] at vouched
    refine ⟨?_, vouched⟩
    rintro entry ⟨⟩
  | authenticated hstage _ =>
    rw [hstage] at vouched
    exact ⟨sound.entry, vouched⟩
  | @tooShort result hstage =>
    exact ⟨sound.entry, vouched_of_failed (by simp [TokenStage.failed])⟩
  | @measured result hstage httl =>
    rw [hstage] at vouched
    refine ⟨sound.entry, ?_⟩
    have decided : (v.call.compare result.expiresAt v.clock
        (.storing result (cfg.ttl result.expiresAt v.clock))).Decided cfg result.expiresAt :=
      decided_of_ttl httl
    have unknown : result.expiresAt = none → cfg.ttl result.expiresAt v.clock = 60 :=
      fun hnone => ttl_of_unknown hnone v.clock
    simpa [TokenCall.Vouched, httl, vouched.1, decided] using unknown
  | @stored result ttl hstage =>
    rw [hstage] at vouched
    obtain ⟨hserved, _, hminute, decided⟩ := vouched
    refine ⟨?_, hserved, decided⟩
    rintro entry ⟨⟩
    exact sound_of_stored hminute
  | @stamped result hstage =>
    rw [hstage] at vouched
    obtain ⟨hserved, decided⟩ := vouched
    exact ⟨sound.entry, fresh_of_unserved hserved decided⟩
  | @left outcome lease hstage _ _ _ =>
    rw [hstage] at vouched
    refine ⟨sound.entry, ?_⟩
    cases outcome with
    | issued result => exact ⟨vouched.decided, vouched.lastRead, vouched.young⟩
    | refused code statusCode => trivial
    | escaped e => trivial

end Moves

structure TokenWorld.Sound (cfg : TokenSettings) (w : TokenWorld) : Prop where
  entries : ∀ key entry, w.cache key = some entry → entry.Sound cfg
  calls : ∀ c call, w.calls c = some call → call.Vouched cfg

theorem sound_initial_tokens (cfg : TokenSettings) (clock : Int) :
    (TokenWorld.initial clock).Sound cfg where
  entries := by
    rintro key entry ⟨⟩
  calls := by
    rintro c call ⟨⟩

theorem TokenWorld.Sound.view {cfg : TokenSettings} {w : TokenWorld} {c : TokenCallId}
    {call : TokenCall} (sound : w.Sound cfg) (hcall : w.calls c = some call) :
    (w.view call).Sound cfg :=
  ⟨fun entry hentry => sound.entries _ entry hentry, sound.calls c call hcall⟩

theorem TokenWorld.Sound.change {cfg : TokenSettings} {w w' : TokenWorld} {l : TokenLabel}
    (h : TokenChange cfg w l w') (sound : w.Sound cfg) : w'.Sound cfg := by
  constructor
  · intro key entry hentry
    cases h with
    | ticked _ => exact sound.entries key entry hentry
    | begun _ => exact sound.entries key entry hentry
    | @operated c op call v hcall hmove =>
      by_cases hkey : key = tokenKey call.room
      · subst hkey
        rw [settle_cache] at hentry
        exact (move_sound hmove (sound.view hcall)).entry entry hentry
      · rw [settle_cache_other hkey] at hentry
        exact sound.entries key entry hentry
    | invalidated => exact sound.entries key entry (invalidate_cache hentry).2
  · intro c call' hcall'
    rcases call_origin h hcall' with same | ⟨room, force, _, hbegun⟩ |
      ⟨op, moved, v, _, hmoved, hmove, rfl, _⟩
    · exact sound.calls c call' same
    · obtain ⟨stage, rfl, ⟨_, rfl⟩ | ⟨_, rfl⟩⟩ := begin_calls hbegun
      · exact ⟨rfl, rfl⟩
      · trivial
    · exact (move_sound hmove (sound.view hmoved)).call

theorem reached_sound_tokens {cfg : TokenSettings} {clock : Int} {w : TokenWorld}
    (h : Reachable (TokenWorld.step cfg) (TokenWorld.initial clock) w) : w.Sound cfg :=
  h.invariant (sound_initial_tokens cfg clock) fun _ _ _ _ sound hstep =>
    sound.change (step_tokenChange hstep)

/-- In every run: a token that a call returned with a known expiry lay outside the safety
window at the last clock value the call compared an expiry with, which for a token from
the cache is the last value it read at all; no TTL given to `setex` is zero or less; and a token
without an expiry was read from the cache within a minute of being stored there. -/
theorem no_near_expired_token {cfg : TokenSettings} {clock : Int} {w : TokenWorld}
    (reached : Reachable (TokenWorld.step cfg) (TokenWorld.initial clock) w) :
    (∀ c call result e, w.calls c = some call → call.stage = .returned (.issued result) →
      result.expiresAt = some e → ∃ t, call.decidedAt = some t ∧ cfg.skew < e - t ∧
        (call.served.isSome = true → call.lastRead = some t)) ∧
    (∀ c call result ttl, w.calls c = some call → call.stage = .storing result ttl → 0 < ttl) ∧
    (∀ c call result s, w.calls c = some call → call.stage = .returned (.issued result) →
      result.expiresAt = none → call.served = some s → s.readAt ≤ minuteAfter s.storedAt) := by
  have sound := reached_sound_tokens reached
  refine ⟨?_, ?_, ?_⟩
  · intro c call result e hcall hstage he
    have vouched := sound.calls c call hcall
    simp only [TokenCall.Vouched, hstage] at vouched
    obtain ⟨t, ht, outside⟩ := vouched.decided e he
    refine ⟨t, ht, outside, ?_⟩
    intro served
    rw [vouched.lastRead served, ht]
  · intro c call result ttl hcall hstage
    have vouched := sound.calls c call hcall
    simp only [TokenCall.Vouched, hstage] at vouched
    exact vouched.2.1
  · intro c call result s hcall hstage unknown served
    have vouched := sound.calls c call hcall
    simp only [TokenCall.Vouched, hstage] at vouched
    exact vouched.young s served unknown

def exampleTotalSeconds : TotalSeconds where
  seconds := fun delta => delta / 1000000
  mono := by
    intro a b hle
    have hcast : (a : Rat) ≤ b := by exact_mod_cast hle
    exact div_le_div_of_nonneg_right hcast (by norm_num)
  whole := by
    intro n
    push_cast
    ring

def exampleTokenSettings : TokenSettings :=
  { exampleSettings with
    convayTokenExpirySkewSeconds := 300
    totalSeconds := exampleTotalSeconds }

def exampleVersionedRoom : VersionedRoom := { exampleRoom with credentialVersion := 2 }

/-- The token expires in 301 seconds and the window is 300 seconds. Storing it takes half a
minute, so the stamp of the authentication is read inside the window. -/
def exampleTokenRun : List TokenLabel :=
  [.call 1 exampleVersionedRoom false, .on 1 .enter, .on 1 .read,
    .on 1 (.exchange (.issued ⟨"T-1", some 301000000⟩)), .on 1 .measure, .on 1 .store,
    .tick 30000000, .on 1 .stamp, .on 1 .leave]

/-- The expiry of the token a call returned, with the last clock values it read and decided by. -/
def TokenCall.returnedExpiry (call : TokenCall) : Option (Option Int × Option Int × Option Int) :=
  match call.stage with
  | .returned (.issued result) => some (result.expiresAt, call.lastRead, call.decidedAt)
  | _ => none

theorem returnedExpiry_some {call : TokenCall} {expiry lastRead decidedAt : Option Int}
    (h : call.returnedExpiry = some (expiry, lastRead, decidedAt)) :
    ∃ result, call.stage = .returned (.issued result) ∧ result.expiresAt = expiry ∧
      call.lastRead = lastRead ∧ call.decidedAt = decidedAt := by
  unfold TokenCall.returnedExpiry at h
  split at h
  · rename_i result hstage
    cases h
    exact ⟨result, hstage, rfl, rfl, rfl⟩
  · cases h

theorem exampleTokenRun_returns :
    ∃ w call result, run (TokenWorld.step exampleTokenSettings) (TokenWorld.initial 0)
        exampleTokenRun = some w ∧ w.calls 1 = some call ∧
      call.stage = .returned (.issued result) ∧ result.expiresAt = some 301000000 ∧
      call.lastRead = some 30000000 := by
  have outcome : ((run (TokenWorld.step exampleTokenSettings) (TokenWorld.initial 0)
      exampleTokenRun).bind fun w => w.calls 1).bind TokenCall.returnedExpiry =
        some (some 301000000, some 30000000, some 0) := by decide +kernel
  obtain ⟨call, hcall, hreturned⟩ := Option.bind_eq_some_iff.mp outcome
  obtain ⟨w, hrun, hcall⟩ := Option.bind_eq_some_iff.mp hcall
  obtain ⟨result, hstage, hexpiry, hread, _⟩ := returnedExpiry_some hreturned
  exact ⟨w, call, result, hrun, hcall, hstage, hexpiry, hread⟩

/-- The token was outside the window when its TTL was computed. -/
theorem no_near_expired_token_slow_write :
    ∃ w call result, Reachable (TokenWorld.step exampleTokenSettings) (TokenWorld.initial 0) w ∧
      w.calls 1 = some call ∧ call.stage = .returned (.issued result) ∧
      ∃ t, call.decidedAt = some t ∧ exampleTokenSettings.skew < 301000000 - t := by
  obtain ⟨w, call, result, hrun, hcall, hstage, hexpiry, _⟩ := exampleTokenRun_returns
  have reached := reachable_of_run hrun
  obtain ⟨t, ht, outside, _⟩ :=
    (no_near_expired_token reached).1 1 call result 301000000 hcall hstage hexpiry
  exact ⟨w, call, result, reached, hcall, hstage, t, ht, outside⟩

/-- At the last clock value the call read, its token was inside the window. -/
theorem slow_write_inside_window :
    ∃ w call result e t,
      Reachable (TokenWorld.step exampleTokenSettings) (TokenWorld.initial 0) w ∧
      w.calls 1 = some call ∧ call.stage = .returned (.issued result) ∧
      result.expiresAt = some e ∧ call.lastRead = some t ∧
      ¬ exampleTokenSettings.skew < e - t := by
  obtain ⟨w, call, result, hrun, hcall, hstage, hexpiry, hread⟩ := exampleTokenRun_returns
  exact ⟨w, call, result, _, _, reachable_of_run hrun, hcall, hstage, hexpiry, hread, by decide⟩

end MeetingGateway
