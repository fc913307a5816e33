import MeetingGateway.TokenOutcomes
import MeetingGateway.TokenFreshness

/-!
# One authentication for a cached token

Any number of unforced calls of `get_token` for one key. A call reads the cache after it has
taken the lock and writes its new token there before it leaves the lock, so the call after it
finds the token. Another authentication needs an event: the entry of the first token
ends, or the call that had obtained this token is over before it has stored it.
-/

namespace MeetingGateway

open LabelledRuns

/-- After the lock is taken and before it is left. -/
def TokenStage.locked : TokenStage → Bool
  | .entering | .returned _ => false
  | _ => true

/-- No lease runs out under its call, and no call for the key is forced. -/
def TokenWorld.orderly (key : TokenKey) (w : TokenWorld) : TokenLabel → Bool
  | .tick instant =>
    match w.lock key with
    | none => true
    | some lease =>
      match w.calls lease.holder with
      | none => true
      | some call => !call.stage.locked || instant ≤ lease.deadline
  | .call _ room force => tokenKey room ≠ key || !force
  | _ => true

def orderlyStep (cfg : TokenSettings) (key : TokenKey) :
    TokenWorld → TokenLabel → Option TokenWorld :=
  restrict (fun w l => w.orderly key l = true) (TokenWorld.step cfg)

/-- A token that a call obtained from the provider. -/
structure Issue where
  key : TokenKey
  caller : TokenCallId
  result : ProviderAuthResult

def Issue.item (issue : Issue) : CacheItem := ⟨issue.result.accessToken, issue.result.expiresAt⟩

/-- The step is an authentication that returns a token with life left above the skew. -/
structure Authenticates (cfg : TokenSettings) (issue : Issue) (w w' : TokenWorld) : Prop where
  step : TokenWorld.step cfg w (.on issue.caller (.exchange (.issued issue.result))) = some w'
  obtained : ∃ call, w'.calls issue.caller = some call ∧ tokenKey call.room = issue.key ∧
    call.stage = .measuring issue.result
  lasting : cfg.fresh issue.result.expiresAt w'.clock = true

/-- The token of a call that has not stored it yet. -/
def TokenStage.unstored : TokenStage → Option ProviderAuthResult
  | .measuring result | .storing result _ => some result
  | _ => none

def TokenWorld.Unstored (w : TokenWorld) (issue : Issue) : Prop :=
  ∃ call, w.calls issue.caller = some call ∧ tokenKey call.room = issue.key ∧
    call.stage.unstored = some issue.result

/-- The entry is that of the token. -/
structure TokenWorld.Stores (cfg : TokenSettings) (w : TokenWorld) (issue : Issue)
    (entry : CacheEntry) : Prop where
  cached : w.cache issue.key = some entry
  readable : readItem cfg.toSettings entry.raw = .ok issue.item
  stored : ¬ w.Unstored issue

/-- The entry of a token comes within the skew, expires or is invalidated. -/
inductive EntryEnds (cfg : TokenSettings) (issue : Issue) (w : TokenWorld) : TokenLabel → Prop
  | withinSkew {instant : Int} : cfg.fresh issue.result.expiresAt instant = false →
      EntryEnds cfg issue w (.tick instant)
  | expired {instant : Int} {entry : CacheEntry} : w.Stores cfg issue entry →
      entry.deadline < instant → EntryEnds cfg issue w (.tick instant)
  | invalidated {entry : CacheEntry} : w.Stores cfg issue entry →
      EntryEnds cfg issue w (.invalidate issue.key)

/-- The call that obtained a token is over before it has stored it: what is left of the
token's life is no whole second above the skew, an error is raised, or the process dies. -/
inductive TokenLost (cfg : TokenSettings) (issue : Issue) (w : TokenWorld) : TokenLabel → Prop
  | tooShort : w.Unstored issue → cfg.ttl issue.result.expiresAt w.clock ≤ 0 →
      TokenLost cfg issue w (.on issue.caller .measure)
  | failed {e : PyError} : w.Unstored issue → TokenLost cfg issue w (.on issue.caller (.fail e))
  | died : w.Unstored issue → TokenLost cfg issue w (.on issue.caller .die)

def TokenEnds (cfg : TokenSettings) (issue : Issue) (w : TokenWorld) (l : TokenLabel) : Prop :=
  EntryEnds cfg issue w l ∨ TokenLost cfg issue w l

/-- What a call gives back while a token is cached: this token, or the reason why the call
did not get as far. The errors are those that the call itself met. -/
inductive Answered (issue : Issue) (labels : List TokenLabel) (c : TokenCallId)
    (room : VersionedRoom) : TokenOutcome → Prop
  | token : Answered issue labels c room (.issued issue.result)
  | busy : Answered issue labels c room (.refused .providerAuthBusy none)
  | inactive : room.isActive = false → Answered issue labels c room (.refused .roomInactive none)
  | failed {e : PyError} : .on c (.fail e) ∈ labels → Answered issue labels c room (.escaped e)
  | died : .on c .die ∈ labels → Answered issue labels c room (.escaped .unexpected)

section Lock
variable {cfg : TokenSettings} {c : TokenCallId} {v v' : TokenView} {op : TokenOp}

/-- The call has the lock, and its lease has not run out. -/
def TokenView.HeldBy (c : TokenCallId) (v : TokenView) : Prop :=
  ∃ lease, v.lease = some lease ∧ lease.holder = c ∧ v.clock ≤ lease.deadline

theorem TokenView.HeldBy.held (h : v.HeldBy c) : v.held = true := by
  obtain ⟨lease, hlease, _, hclock⟩ := h
  simpa [TokenView.held, hlease] using hclock

theorem operate_returned {outcome : TokenOutcome} (hstage : v.call.stage = .returned outcome) :
    v.operate cfg c op = none := by
  cases op with
  | leave => simp [TokenView.operate, TokenView.leave, hstage]
  | _ =>
    simp [TokenView.operate, TokenView.enter, TokenView.timeout, TokenView.read,
      TokenView.compare, TokenView.delete, TokenView.exchange, TokenView.measure,
      TokenView.store, TokenView.stamp, TokenView.fail, TokenView.die, hstage]

/-- Only by taking the lock a call gets between its acquisition and its release. -/
theorem locked_operate (h : v.operate cfg c op = some v') (hlocked : v'.call.stage.locked = true) :
    op = .enter ∨ v.call.stage.locked = true := by
  cases hstage : v.call.stage with
  | entering =>
    cases op with
    | enter => exact Or.inl rfl
    | timeout =>
      simp only [TokenView.operate, TokenView.timeout, hstage, Option.some.injEq] at h
      subst h
      cases hlocked
    | fail e =>
      simp only [TokenView.operate, TokenView.fail, hstage, Option.some.injEq] at h
      subst h
      cases hlocked
    | die =>
      simp only [TokenView.operate, TokenView.die, hstage, Option.some.injEq] at h
      subst h
      cases hlocked
    | leave => simp [TokenView.operate, TokenView.leave, hstage] at h
    | _ =>
      simp [TokenView.operate, TokenView.read, TokenView.compare, TokenView.delete,
        TokenView.exchange, TokenView.measure, TokenView.store, TokenView.stamp, hstage] at h
  | returned outcome =>
    rw [operate_returned hstage] at h
    cases h
  | _ => exact Or.inr rfl

theorem heldBy_enter (h : v.enter c = some v') : v'.HeldBy c := by
  unfold TokenView.enter at h
  split at h
  · split at h
    · cases h
    · cases h
      refine ⟨_, rfl, rfl, ?_⟩
      simp only [secondMicroseconds]
      omega
  · cases h

/-- A call between the acquisition and the release has the lock. -/
theorem heldBy_operate (h : v.operate cfg c op = some v')
    (guarded : v.call.stage.locked = true → v.HeldBy c)
    (hlocked : v'.call.stage.locked = true) : v'.HeldBy c := by
  rcases locked_operate h hlocked with rfl | within
  · exact heldBy_enter h
  · cases operate_tokenMove h with
    | entered hstage _ =>
      rw [hstage] at within
      cases within
    | left _ _ _ _ => cases hlocked
    | _ => exact guarded within

/-- Another call keeps the lock. -/
theorem heldBy_other {d : TokenCallId} (hdc : d ≠ c) (h : TokenMove cfg c v op v')
    (held : v.HeldBy d) : v'.HeldBy d := by
  cases h with
  | entered _ free =>
    rw [held.held] at free
    cases free
  | @left outcome lease _ hlease hholder _ =>
    obtain ⟨lease', hlease', hd, _⟩ := held
    rw [hlease] at hlease'
    cases hlease'
    exact absurd (hd.symm.trans hholder) hdc
  | _ => exact held

end Lock

/-- The lock of a key belongs to a call. -/
def TokenWorld.HeldBy (w : TokenWorld) (key : TokenKey) (c : TokenCallId) : Prop :=
  ∃ lease, w.lock key = some lease ∧ lease.holder = c ∧ w.clock ≤ lease.deadline

/-- What the lock is for: one call at a time is between its acquisition and its release. -/
structure TokenWorld.Guarded (key : TokenKey) (w : TokenWorld) : Prop where
  unforced : ∀ c call, w.calls c = some call → tokenKey call.room = key → call.force = false
  held : ∀ c call, w.calls c = some call → tokenKey call.room = key →
    call.stage.locked = true → w.HeldBy key c

section Guarded
variable {cfg : TokenSettings} {key : TokenKey} {w w' : TokenWorld} {l : TokenLabel}
variable {c : TokenCallId} {call : TokenCall} {v : TokenView} {op : TokenOp}

theorem orderlyStep_some (h : orderlyStep cfg key w l = some w') :
    w.orderly key l = true ∧ TokenWorld.step cfg w l = some w' :=
  restrict_eq_some.mp h

theorem move_force {v v' : TokenView} (h : TokenMove cfg c v op v') :
    v'.call.force = v.call.force := by
  cases h with
  | kept _ _ => simp
  | stale _ _ => simp
  | tooShort _ => simp
  | measured _ _ => simp
  | _ => rfl

theorem move_clock {v v' : TokenView} (h : TokenMove cfg c v op v') : v'.clock = v.clock := by
  cases h <;> rfl

/-- After a statement of a call, the lock is held as the statement left it. -/
theorem heldBy_settle {d : TokenCallId} (h : TokenMove cfg c (w.view call) op v)
    (held : v.HeldBy d) : (w.settle c (tokenKey call.room) v).HeldBy (tokenKey call.room) d := by
  obtain ⟨lease, hlease, hholder, hclock⟩ := held
  rw [move_clock h] at hclock
  exact ⟨lease, by simpa using hlease, hholder, hclock⟩

theorem orderly_tick {instant : Int} (h : w.orderly key (.tick instant) = true) {lease : Lease}
    (hlease : w.lock key = some lease) (hcall : w.calls lease.holder = some call)
    (hlocked : call.stage.locked = true) : instant ≤ lease.deadline := by
  simpa [TokenWorld.orderly, hlease, hcall, hlocked] using h

theorem begin_unlocked {room : VersionedRoom} {force : Bool}
    (h : (w.begin c room force).calls c = some call) :
    call.room = room ∧ call.force = force ∧ call.stage.locked = false := by
  obtain ⟨stage, rfl, ⟨_, rfl⟩ | ⟨_, rfl⟩⟩ := TokenWorld.begin_calls h
  · exact ⟨rfl, rfl, rfl⟩
  · exact ⟨rfl, rfl, rfl⟩

theorem guarded_begin {room : VersionedRoom} {force : Bool}
    (allowed : w.orderly key (.call c room force) = true) (guarded : w.Guarded key) :
    (w.begin c room force).Guarded key := by
  constructor
  · intro d call hcall hkey
    by_cases hdc : d = c
    · subst hdc
      obtain ⟨rfl, rfl, _⟩ := begin_unlocked hcall
      simpa [TokenWorld.orderly, hkey] using allowed
    · rw [TokenWorld.begin_calls_other hdc] at hcall
      exact guarded.unforced d call hcall hkey
  · intro d call hcall hkey hlocked
    by_cases hdc : d = c
    · subst hdc
      rw [(begin_unlocked hcall).2.2] at hlocked
      cases hlocked
    · rw [TokenWorld.begin_calls_other hdc] at hcall
      exact guarded.held d call hcall hkey hlocked

theorem guarded_settle (hcall : w.calls c = some call)
    (h : (w.view call).operate cfg c op = some v) (guarded : w.Guarded key) :
    (w.settle c (tokenKey call.room) v).Guarded key := by
  have hmove := operate_tokenMove h
  have hroom : v.call.room = call.room := move_room hmove
  constructor
  · intro d call' hcall' hkey
    rcases TokenWorld.settle_calls_cases hcall' with ⟨rfl, rfl⟩ | ⟨_, same⟩
    · rw [hroom] at hkey
      rw [move_force hmove]
      exact guarded.unforced d call hcall hkey
    · exact guarded.unforced d call' same hkey
  · intro d call' hcall' hkey hlocked
    rcases TokenWorld.settle_calls_cases hcall' with ⟨rfl, rfl⟩ | ⟨hdc, same⟩
    · rw [hroom] at hkey
      subst hkey
      exact heldBy_settle hmove (heldBy_operate h (guarded.held d call hcall rfl) hlocked)
    · have before := guarded.held d call' same hkey hlocked
      by_cases hsame : key = tokenKey call.room
      · subst hsame
        exact heldBy_settle hmove (heldBy_other hdc hmove before)
      · obtain ⟨lease, hlease, hholder, hclock⟩ := before
        exact ⟨lease, (TokenWorld.settle_lock_other hsame).trans hlease, hholder, hclock⟩

theorem guarded_step (h : orderlyStep cfg key w l = some w') (guarded : w.Guarded key) :
    w'.Guarded key := by
  obtain ⟨allowed, hstep⟩ := orderlyStep_some h
  cases l with
  | tick instant =>
    obtain ⟨_, rfl⟩ := TokenWorld.step_tick hstep
    refine ⟨guarded.unforced, ?_⟩
    intro c call hcall hkey hlocked
    obtain ⟨lease, hlease, rfl, _⟩ := guarded.held c call hcall hkey hlocked
    exact ⟨lease, hlease, rfl, orderly_tick allowed hlease hcall hlocked⟩
  | call c room force =>
    obtain ⟨_, rfl⟩ := TokenWorld.step_call hstep
    exact guarded_begin allowed guarded
  | on c op =>
    obtain ⟨call, v, hcall, hv, rfl⟩ := TokenWorld.step_on hstep
    exact guarded_settle hcall hv guarded
  | invalidate key' =>
    cases hstep
    exact ⟨guarded.unforced, guarded.held⟩

theorem guarded_reached {clock : Int}
    (h : Reachable (orderlyStep cfg key) (TokenWorld.initial clock) w) : w.Guarded key := by
  apply h.invariant
  · constructor
    · rintro c call ⟨⟩
    · rintro c call ⟨⟩
  · intro a l b _ guarded hstep
    exact guarded_step hstep guarded

/-- At most one call of a key is between its acquisition and its release. -/
theorem TokenWorld.Guarded.one {d : TokenCallId} {call' : TokenCall} (guarded : w.Guarded key)
    (hc : w.calls c = some call) (hkey : tokenKey call.room = key)
    (hlocked : call.stage.locked = true) (hd : w.calls d = some call')
    (hkey' : tokenKey call'.room = key) (hlocked' : call'.stage.locked = true) : c = d := by
  obtain ⟨lease, hlease, rfl, _⟩ := guarded.held c call hc hkey hlocked
  obtain ⟨lease', hlease', rfl, _⟩ := guarded.held d call' hd hkey' hlocked'
  rw [hlease] at hlease'
  cases hlease'
  rfl

end Guarded

/-- The entry of an item is visible. -/
def TokenView.Keeps (cfg : TokenSettings) (item : CacheItem) (v : TokenView) : Prop :=
  ∃ entry, v.entry = some entry ∧ readItem cfg.toSettings entry.raw = .ok item ∧
    v.clock ≤ entry.deadline

/-- What a call does while the token lasts. A call that had returned before is left out. -/
def TokenCall.Serves (issue : Issue) (start : TokenWorld) (labels : List TokenLabel)
    (c : TokenCallId) (call : TokenCall) : Prop :=
  match call.stage with
  | .entering => True
  | .reading => True
  | .comparing item => item = issue.item
  | .deleting => False
  | .authenticating => False
  | .measuring result => c = issue.caller ∧ result = issue.result
  | .storing result ttl => c = issue.caller ∧ result = issue.result ∧ 0 < ttl
  | .stamping result => result = issue.result
  | .leaving outcome => Answered issue labels c call.room outcome
  | .returned outcome => start.calls c = some call ∨ Answered issue labels c call.room outcome

section Serving
variable {cfg : TokenSettings} {issue : Issue} {start : TokenWorld} {labels : List TokenLabel}
variable {c : TokenCallId} {v v' : TokenView} {op : TokenOp}

theorem Answered.mono {labels' : List TokenLabel} {room : VersionedRoom} {outcome : TokenOutcome}
    (sub : labels ⊆ labels') (h : Answered issue labels c room outcome) :
    Answered issue labels' c room outcome := by
  cases h with
  | token => exact .token
  | busy => exact .busy
  | inactive inactive => exact .inactive inactive
  | failed raised => exact .failed (sub raised)
  | died died => exact .died (sub died)

theorem serves_mono {labels' : List TokenLabel} {call : TokenCall} (sub : labels ⊆ labels')
    (h : call.Serves issue start labels c) : call.Serves issue start labels' c := by
  unfold TokenCall.Serves at h ⊢
  cases hstage : call.stage with
  | leaving outcome =>
    rw [hstage] at h
    exact Answered.mono sub h
  | returned outcome =>
    rw [hstage] at h
    exact Or.imp_right (Answered.mono sub) h
  | _ =>
    rw [hstage] at h
    exact h

theorem keeps_stored {call : TokenCall} {ttl : Int} (lasts : 0 < ttl) :
    TokenView.Keeps cfg issue.item { v with
      entry := some
        ⟨encryptDumps cfg.keyring (.item ⟨issue.result.accessToken, issue.result.expiresAt⟩),
          v.clock, v.clock + ttl * secondMicroseconds⟩
      call := call } := by
  refine ⟨_, rfl, by simp [readItem, Issue.item], ?_⟩
  simp only [secondMicroseconds]
  omega

theorem serves_returned {outcome : TokenOutcome}
    (h : Answered issue labels c v.call.room outcome) :
    (v.goto (.returned outcome)).call.Serves issue start labels c :=
  Or.inr h

theorem serves_enter (h : v.enter c = some v') (unforced : v.call.force = false) :
    v'.call.Serves issue start labels c := by
  unfold TokenView.enter at h
  split at h
  · split at h
    · cases h
    · cases h
      simp [TokenCall.Serves, unforced]
  · cases h

theorem serves_timeout (h : v.timeout = some v') : v'.call.Serves issue start labels c := by
  unfold TokenView.timeout at h
  split at h
  · cases h
    exact serves_returned .busy
  · cases h

/-- The cache is read where the entry of the token is visible. -/
theorem serves_read (h : v.read cfg = some v')
    (keeps : v.call.stage = .reading → v.Keeps cfg issue.item) :
    v'.call.Serves issue start labels c := by
  unfold TokenView.read at h
  split at h
  · rename_i hstage
    obtain ⟨entry, hentry, hitem, hclock⟩ := keeps hstage
    have hvisible : v.visible = some entry := by
      simp [TokenView.visible, hentry, hclock]
    simp only [hvisible, hitem, Option.some.injEq] at h
    subst h
    rfl
  · cases h

theorem serves_comparison (h : v.compare cfg = some v')
    (serves : v.call.Serves issue start labels c)
    (lasting : cfg.fresh issue.result.expiresAt v.clock = true) :
    v'.call.Serves issue start labels c := by
  unfold TokenView.compare at h
  unfold TokenCall.Serves at serves
  split at h
  · rename_i item hstage
    rw [hstage] at serves
    subst serves
    rw [Issue.item, if_pos lasting, Option.some.injEq] at h
    subst h
    have answered : Answered issue labels c v.call.room (.issued issue.result) := .token
    simpa [TokenCall.Serves] using answered
  · cases h

theorem serves_measure (h : v.measure cfg = some v')
    (serves : v.call.Serves issue start labels c)
    (lasts : 0 < cfg.ttl issue.result.expiresAt v.clock) :
    v'.call.Serves issue start labels c := by
  unfold TokenView.measure at h
  unfold TokenCall.Serves at serves
  split at h
  · rename_i result hstage
    rw [hstage] at serves
    obtain ⟨hcaller, rfl⟩ := serves
    rw [if_neg (by omega), Option.some.injEq] at h
    subst h
    simpa [TokenCall.Serves, hcaller] using lasts
  · cases h

theorem serves_store (h : v.store cfg = some v') (serves : v.call.Serves issue start labels c) :
    v'.call.Serves issue start labels c := by
  unfold TokenView.store at h
  unfold TokenCall.Serves at serves
  split at h
  · rename_i result ttl hstage
    rw [hstage] at serves
    cases h
    exact serves.2.1
  · cases h

theorem serves_stamp (h : v.stamp = some v') (serves : v.call.Serves issue start labels c) :
    v'.call.Serves issue start labels c := by
  unfold TokenView.stamp at h
  unfold TokenCall.Serves at serves
  split at h
  · rename_i result hstage
    rw [hstage] at serves
    subst serves
    cases h
    exact Answered.token
  · cases h

theorem serves_leave (h : v.leave c = some v') (serves : v.call.Serves issue start labels c) :
    v'.call.Serves issue start labels c := by
  unfold TokenView.leave at h
  unfold TokenCall.Serves at serves
  split at h
  · rename_i outcome lease hstage _
    rw [hstage] at serves
    split at h
    · cases h
      exact Or.inr serves
    · cases h
      exact serves_returned .busy
  · cases h
    exact serves_returned .busy
  · cases h

theorem serves_fail {e : PyError} (h : v.fail e = some v') (raised : .on c (.fail e) ∈ labels) :
    v'.call.Serves issue start labels c := by
  unfold TokenView.fail at h
  split at h
  · cases h
    exact serves_returned (.failed raised)
  · cases h
    exact serves_returned (.failed raised)
  · cases h
  · cases h
    exact Answered.failed raised

/-- No statement of a call ends its service, unless the call loses the token. -/
theorem serves_operate (h : v.operate cfg c op = some v') (done : .on c op ∈ labels)
    (serves : v.call.Serves issue start labels c) (unforced : v.call.force = false)
    (lasting : cfg.fresh issue.result.expiresAt v.clock = true)
    (keeps : v.call.stage = .reading → v.Keeps cfg issue.item)
    (lasts : op = .measure → 0 < cfg.ttl issue.result.expiresAt v.clock) :
    v'.call.Serves issue start labels c := by
  cases op with
  | enter => exact serves_enter h unforced
  | timeout => exact serves_timeout h
  | read => exact serves_read h keeps
  | compare => exact serves_comparison h serves lasting
  | delete =>
    simp only [TokenView.operate, TokenView.delete] at h
    split at h
    · rename_i hstage
      rw [TokenCall.Serves, hstage] at serves
      exact serves.elim
    · cases h
  | exchange outcome =>
    simp only [TokenView.operate, TokenView.exchange] at h
    split at h
    · rename_i hstage
      rw [TokenCall.Serves, hstage] at serves
      exact serves.elim
    · cases h
  | measure => exact serves_measure h serves (lasts rfl)
  | store => exact serves_store h serves
  | stamp => exact serves_stamp h serves
  | leave => exact serves_leave h serves
  | fail e => exact serves_fail h done
  | die =>
    simp only [TokenView.operate, TokenView.die] at h
    split at h
    · cases h
    · cases h
      exact serves_returned (.died done)

/-- The entry of the token is deleted by no call, and written again only for the token. -/
theorem keeps_move (h : TokenMove cfg c v op v') (serves : v.call.Serves issue start labels c)
    (keeps : v.Keeps cfg issue.item) : v'.Keeps cfg issue.item := by
  unfold TokenCall.Serves at serves
  cases h with
  | deleted hstage =>
    rw [hstage] at serves
    exact serves.elim
  | stored hstage =>
    rw [hstage] at serves
    obtain ⟨_, rfl, lasts⟩ := serves
    exact keeps_stored lasts
  | _ => exact keeps

/-- A call that has a token to store stores it, or loses it. -/
theorem unstored_operate (h : v.operate cfg c op = some v')
    (unstored : v.call.stage.unstored = some issue.result)
    (serves : v.call.Serves issue start labels c)
    (lasts : op = .measure → 0 < cfg.ttl issue.result.expiresAt v.clock)
    (raises : ∀ e, op ≠ .fail e) (lives : op ≠ .die) :
    v'.call.stage.unstored = some issue.result ∨ v'.Keeps cfg issue.item := by
  unfold TokenCall.Serves at serves
  cases hstage : v.call.stage with
  | measuring result =>
    rw [hstage] at serves
    obtain ⟨_, rfl⟩ := serves
    cases op with
    | measure =>
      have hlasts := lasts rfl
      simp only [TokenView.operate, TokenView.measure, hstage, if_neg (not_le.mpr hlasts),
        Option.some.injEq] at h
      subst h
      left
      simp [TokenStage.unstored]
    | fail e => exact absurd rfl (raises e)
    | die => exact absurd rfl lives
    | leave => simp [TokenView.operate, TokenView.leave, hstage] at h
    | _ =>
      simp [TokenView.operate, TokenView.enter, TokenView.timeout, TokenView.read,
        TokenView.compare, TokenView.delete, TokenView.exchange, TokenView.store,
        TokenView.stamp, hstage] at h
  | storing result ttl =>
    rw [hstage] at serves
    obtain ⟨_, rfl, hlasts⟩ := serves
    cases op with
    | store =>
      simp only [TokenView.operate, TokenView.store, hstage, Option.some.injEq] at h
      subst h
      exact Or.inr (keeps_stored hlasts)
    | fail e => exact absurd rfl (raises e)
    | die => exact absurd rfl lives
    | leave => simp [TokenView.operate, TokenView.leave, hstage] at h
    | _ =>
      simp [TokenView.operate, TokenView.enter, TokenView.timeout, TokenView.read,
        TokenView.compare, TokenView.delete, TokenView.exchange, TokenView.measure,
        TokenView.stamp, hstage] at h
  | _ =>
    rw [hstage] at unstored
    cases unstored

end Serving

/-- The entry of the token is visible. -/
def TokenWorld.Keeps (cfg : TokenSettings) (w : TokenWorld) (issue : Issue) : Prop :=
  ∃ entry, w.cache issue.key = some entry ∧ readItem cfg.toSettings entry.raw = .ok issue.item ∧
    w.clock ≤ entry.deadline

/-- The token lasts and is cached, or its call is going to store it. -/
structure TokenWorld.Secures (cfg : TokenSettings) (w : TokenWorld) (issue : Issue)
    (start : TokenWorld) (labels : List TokenLabel) : Prop where
  guarded : w.Guarded issue.key
  lasting : cfg.fresh issue.result.expiresAt w.clock = true
  token : w.Unstored issue ∨ w.Keeps cfg issue
  serves : ∀ c call, w.calls c = some call → tokenKey call.room = issue.key →
    call.Serves issue start labels c

section Securing
variable {cfg : TokenSettings} {issue : Issue} {start w w' : TokenWorld}
variable {labels : List TokenLabel} {l : TokenLabel}
variable {c : TokenCallId} {call : TokenCall} {v : TokenView} {op : TokenOp}

theorem unstored_locked {stage : TokenStage} {result : ProviderAuthResult}
    (h : stage.unstored = some result) : stage.locked = true := by
  cases stage with
  | measuring _ => rfl
  | storing _ _ => rfl
  | _ => cases h

theorem secures_tick {instant : Int} (secures : w.Secures cfg issue start labels)
    (later : w.clock ≤ instant) (allowed : w.orderly issue.key (.tick instant) = true)
    (kept : ¬ TokenEnds cfg issue w (.tick instant)) :
    TokenWorld.Secures cfg { w with clock := instant } issue start (labels ++ [.tick instant]) := by
  have lasting : cfg.fresh issue.result.expiresAt instant = true := by
    by_contra ended
    exact kept (Or.inl (.withinSkew (by simpa using ended)))
  have hstep : orderlyStep cfg issue.key w (.tick instant) = some { w with clock := instant } :=
    restrict_eq_some.mpr ⟨allowed, by simp [TokenWorld.step, later]⟩
  refine ⟨guarded_step hstep secures.guarded, lasting, ?_, ?_⟩
  · by_cases unstored : w.Unstored issue
    · exact Or.inl unstored
    · obtain ⟨entry, hentry, hitem, _⟩ := secures.token.resolve_left unstored
      refine Or.inr ⟨entry, hentry, hitem, ?_⟩
      by_contra expired
      exact kept (Or.inl (.expired ⟨hentry, hitem, unstored⟩ (not_le.mp expired)))
  · intro c call hcall hkey
    exact serves_mono (List.subset_append_left _ _) (secures.serves c call hcall hkey)

theorem unstored_begin {room : VersionedRoom} {force : Bool} (hnew : w.calls c = none)
    (unstored : w.Unstored issue) : (w.begin c room force).Unstored issue := by
  obtain ⟨call, hcall, hkey, hstage⟩ := unstored
  have hne : issue.caller ≠ c := by
    rintro rfl
    rw [hnew] at hcall
    cases hcall
  exact ⟨call, (TokenWorld.begin_calls_other hne).trans hcall, hkey, hstage⟩

/-- A call that begins waits for the lock, or its room is refused. -/
theorem serves_begin {room : VersionedRoom} {force : Bool}
    (h : (w.begin c room force).calls c = some call) : call.Serves issue start labels c := by
  obtain ⟨stage, rfl, ⟨_, rfl⟩ | ⟨inactive, rfl⟩⟩ := TokenWorld.begin_calls h
  · trivial
  · exact Or.inr (.inactive inactive)

theorem secures_begin {room : VersionedRoom} {force : Bool}
    (secures : w.Secures cfg issue start labels) (hnew : w.calls c = none)
    (allowed : w.orderly issue.key (.call c room force) = true) :
    (w.begin c room force).Secures cfg issue start (labels ++ [.call c room force]) := by
  refine ⟨guarded_begin allowed secures.guarded, secures.lasting,
    secures.token.imp_left (unstored_begin hnew), ?_⟩
  intro d call hcall hkey
  by_cases hdc : d = c
  · subst hdc
    exact serves_begin hcall
  · rw [TokenWorld.begin_calls_other hdc] at hcall
    exact serves_mono (List.subset_append_left _ _) (secures.serves d call hcall hkey)

theorem secures_invalidate {key : TokenKey} (secures : w.Secures cfg issue start labels)
    (kept : ¬ TokenEnds cfg issue w (.invalidate key)) :
    (w.invalidate key).Secures cfg issue start (labels ++ [.invalidate key]) := by
  refine ⟨⟨secures.guarded.unforced, secures.guarded.held⟩, secures.lasting, ?_, ?_⟩
  · by_cases unstored : w.Unstored issue
    · exact Or.inl unstored
    · obtain ⟨entry, hentry, hitem, hclock⟩ := secures.token.resolve_left unstored
      have other : issue.key ≠ key := by
        rintro rfl
        exact kept (Or.inl (.invalidated ⟨hentry, hitem, unstored⟩))
      refine Or.inr ⟨entry, ?_, hitem, hclock⟩
      simpa [TokenWorld.invalidate, Function.update_of_ne other] using hentry
  · intro c call hcall hkey
    exact serves_mono (List.subset_append_left _ _) (secures.serves c call hcall hkey)

/-- A call that reads the cache under the lock finds the entry of the token. -/
theorem keeps_reading (secures : w.Secures cfg issue start labels) (hcall : w.calls c = some call)
    (hkey : tokenKey call.room = issue.key) (hstage : call.stage = .reading) :
    w.Keeps cfg issue := by
  refine secures.token.resolve_left ?_
  rintro ⟨call', hcall', hkey', unstored⟩
  have hlocked : call.stage.locked = true := by rw [hstage]; rfl
  obtain rfl := secures.guarded.one hcall hkey hlocked hcall' hkey' (unstored_locked unstored)
  rw [hcall] at hcall'
  cases hcall'
  rw [hstage] at unstored
  cases unstored

/-- A call that measures a new token is the one that obtained it. -/
theorem unstored_measuring (secures : w.Secures cfg issue start labels)
    (hcall : w.calls c = some call) (hkey : tokenKey call.room = issue.key)
    (h : (w.view call).operate cfg c .measure = some v) : c = issue.caller ∧ w.Unstored issue := by
  have serves := secures.serves c call hcall hkey
  simp only [TokenView.operate, TokenView.measure] at h
  split at h
  · rename_i result hstage
    have hstage : call.stage = .measuring result := hstage
    rw [TokenCall.Serves, hstage] at serves
    obtain ⟨rfl, rfl⟩ := serves
    exact ⟨rfl, call, hcall, hkey, by rw [hstage]; rfl⟩
  · cases h

theorem keeps_settle (hclock : v.clock = w.clock) (keeps : v.Keeps cfg issue.item) :
    (w.settle c issue.key v).Keeps cfg issue := by
  obtain ⟨entry, hentry, hitem, hvisible⟩ := keeps
  rw [hclock] at hvisible
  exact ⟨entry, by simpa using hentry, hitem, hvisible⟩

/-- After a statement of a call the token is cached or still to be stored, unless it is lost. -/
theorem token_settle (secures : w.Secures cfg issue start labels) (hcall : w.calls c = some call)
    (hkey : tokenKey call.room = issue.key) (h : (w.view call).operate cfg c op = some v)
    (lasts : op = .measure → 0 < cfg.ttl issue.result.expiresAt w.clock)
    (kept : ¬ TokenEnds cfg issue w (.on c op)) :
    (w.settle c issue.key v).Unstored issue ∨ (w.settle c issue.key v).Keeps cfg issue := by
  have hmove := operate_tokenMove h
  have hclock : v.clock = w.clock := move_clock hmove
  have serves := secures.serves c call hcall hkey
  rcases secures.token with unstored | keeps
  · obtain ⟨call', hcall', hkey', hunstored⟩ := unstored
    by_cases hc : issue.caller = c
    · subst hc
      rw [hcall] at hcall'
      cases hcall'
      have pending : w.Unstored issue := ⟨call, hcall, hkey, hunstored⟩
      have raises : ∀ e, op ≠ .fail e := by
        rintro e rfl
        exact kept (Or.inr (.failed pending))
      have lives : op ≠ .die := by
        rintro rfl
        exact kept (Or.inr (.died pending))
      rcases unstored_operate h hunstored serves lasts raises lives with unstored' | keeps'
      · refine Or.inl ⟨v.call, TokenWorld.settle_calls, ?_, unstored'⟩
        rw [move_room hmove]
        exact hkey
      · exact Or.inr (keeps_settle hclock keeps')
    · exact Or.inl ⟨call', (TokenWorld.settle_calls_other hc).trans hcall', hkey', hunstored⟩
  · rw [TokenWorld.Keeps, ← hkey] at keeps
    exact Or.inr (keeps_settle hclock (keeps_move hmove serves keeps))

theorem secures_settle (secures : w.Secures cfg issue start labels) (hcall : w.calls c = some call)
    (hkey : tokenKey call.room = issue.key) (h : (w.view call).operate cfg c op = some v)
    (kept : ¬ TokenEnds cfg issue w (.on c op)) :
    (w.settle c issue.key v).Secures cfg issue start (labels ++ [.on c op]) := by
  have serves := secures.serves c call hcall hkey
  have lasts : op = .measure → 0 < cfg.ttl issue.result.expiresAt w.clock := by
    rintro rfl
    obtain ⟨rfl, unstored⟩ := unstored_measuring secures hcall hkey h
    by_contra short
    exact kept (Or.inr (.tooShort unstored (not_lt.mp short)))
  have guarded := guarded_settle hcall h secures.guarded
  rw [hkey] at guarded
  refine ⟨guarded, secures.lasting, token_settle secures hcall hkey h lasts kept, ?_⟩
  · intro d call' hcall' hkey'
    rcases TokenWorld.settle_calls_cases hcall' with ⟨rfl, rfl⟩ | ⟨_, same⟩
    · refine serves_operate h (by simp) (serves_mono (List.subset_append_left _ _) serves)
        (secures.guarded.unforced d call hcall hkey) secures.lasting ?_ lasts
      intro hstage
      have keeps := keeps_reading secures hcall hkey hstage
      rw [TokenWorld.Keeps, ← hkey] at keeps
      exact keeps
    · exact serves_mono (List.subset_append_left _ _) (secures.serves d call' same hkey')

/-- The calls of other keys leave everything as it is. -/
theorem secures_elsewhere (secures : w.Secures cfg issue start labels)
    (hcall : w.calls c = some call) (hkey : tokenKey call.room ≠ issue.key)
    (h : (w.view call).operate cfg c op = some v) :
    (w.settle c (tokenKey call.room) v).Secures cfg issue start (labels ++ [.on c op]) := by
  have hroom : v.call.room = call.room := move_room (operate_tokenMove h)
  refine ⟨guarded_settle hcall h secures.guarded, secures.lasting, ?_, ?_⟩
  · rcases secures.token with ⟨call', hcall', hkey', unstored⟩ | ⟨entry, hentry, hitem, hclock⟩
    · have hc : issue.caller ≠ c := by
        rintro rfl
        rw [hcall] at hcall'
        cases hcall'
        exact hkey hkey'
      exact Or.inl ⟨call', (TokenWorld.settle_calls_other hc).trans hcall', hkey', unstored⟩
    · exact Or.inr ⟨entry, (TokenWorld.settle_cache_other hkey.symm).trans hentry, hitem, hclock⟩
  · intro d call' hcall' hkey'
    rcases TokenWorld.settle_calls_cases hcall' with ⟨rfl, rfl⟩ | ⟨_, same⟩
    · rw [hroom] at hkey'
      exact absurd hkey' hkey
    · exact serves_mono (List.subset_append_left _ _) (secures.serves d call' same hkey')

theorem secures_step (secures : w.Secures cfg issue start labels)
    (kept : ¬ TokenEnds cfg issue w l) (h : orderlyStep cfg issue.key w l = some w') :
    w'.Secures cfg issue start (labels ++ [l]) := by
  obtain ⟨allowed, hstep⟩ := orderlyStep_some h
  cases l with
  | tick instant =>
    obtain ⟨later, rfl⟩ := TokenWorld.step_tick hstep
    exact secures_tick secures later allowed kept
  | call c room force =>
    obtain ⟨hnew, rfl⟩ := TokenWorld.step_call hstep
    exact secures_begin secures hnew allowed
  | on c op =>
    obtain ⟨call, v, hcall, hv, rfl⟩ := TokenWorld.step_on hstep
    by_cases hkey : tokenKey call.room = issue.key
    · rw [hkey]
      exact secures_settle secures hcall hkey hv kept
    · exact secures_elsewhere secures hcall hkey hv
  | invalidate key =>
    cases hstep
    exact secures_invalidate secures kept

/-- The token is secured from the moment its call obtains it. -/
theorem secures_authenticated (guarded : w.Guarded issue.key)
    (authenticates : Authenticates cfg issue w start) :
    start.Secures cfg issue start [] := by
  obtain ⟨first, hfirst, hkey, hstage⟩ := authenticates.obtained
  have hstep : orderlyStep cfg issue.key w (.on issue.caller (.exchange (.issued issue.result))) =
      some start := restrict_eq_some.mpr ⟨rfl, authenticates.step⟩
  have guarded' : start.Guarded issue.key := guarded_step hstep guarded
  have hlocked : first.stage.locked = true := by rw [hstage]; rfl
  refine ⟨guarded', authenticates.lasting, Or.inl ⟨first, hfirst, hkey, by rw [hstage]; rfl⟩, ?_⟩
  intro c call hcall hkey'
  by_cases hc : c = issue.caller
  · subst hc
    rw [hfirst] at hcall
    cases hcall
    rw [TokenCall.Serves, hstage]
    exact ⟨rfl, rfl⟩
  · -- the lock keeps all other calls out
    have outside : call.stage.locked = false := by
      by_contra within
      exact hc (guarded'.one hcall hkey' (by simpa using within) hfirst hkey hlocked)
    unfold TokenCall.Serves
    cases hstage' : call.stage with
    | entering => trivial
    | returned outcome => exact Or.inl hcall
    | _ =>
      rw [hstage'] at outside
      cases outside

end Securing

/-- While a call does what it does when the token lasts, it is not about to authenticate. -/
theorem serves_not_authenticating {issue : Issue} {start : TokenWorld} {labels : List TokenLabel}
    {c : TokenCallId} {call : TokenCall} (serves : call.Serves issue start labels c) :
    call.stage ≠ .authenticating := by
  intro hstage
  rw [TokenCall.Serves, hstage] at serves
  exact serves

theorem authenticating_of_authenticates {cfg : TokenSettings} {issue : Issue} {w w' : TokenWorld}
    (h : Authenticates cfg issue w w') :
    ∃ call, w.calls issue.caller = some call ∧ tokenKey call.room = issue.key ∧
      call.stage = .authenticating := by
  obtain ⟨call, v, hcall, hv, rfl⟩ := TokenWorld.step_on h.step
  obtain ⟨call', hcall', hkey, _⟩ := h.obtained
  have hcall' : v.call = call' := by simpa using hcall'
  subst hcall'
  rw [move_room (operate_tokenMove hv)] at hkey
  refine ⟨call, hcall, hkey, ?_⟩
  simp only [TokenView.operate, TokenView.exchange] at hv
  split at hv
  · assumption
  · cases hv

/-- Unforced calls for a key, with a lock that excludes and no lease that runs out under its
call: from the authentication that returns a token with life left above the skew, another one
comes only after the entry of this token has come within the skew, expired or been invalidated, or
its call has lost the token before storing it; and until then every call that returns
gives back this token, or says that the lock was busy, that its room is inactive, or which
error it met itself. -/
theorem one_authentication_per_token {cfg : TokenSettings} {clock : Int} {first : Issue}
    {w w₁ w₂ : TokenWorld} {labels : List TokenLabel}
    (reached : Reachable (orderlyStep cfg first.key) (TokenWorld.initial clock) w)
    (authenticated : Authenticates cfg first w w₁)
    (followed : run (orderlyStep cfg first.key) w₁ labels = some w₂) :
    (∀ second w₃, second.key = first.key → Authenticates cfg second w₂ w₃ →
      Occurs (TokenEnds cfg first) (orderlyStep cfg first.key) w₁ labels) ∧
    (Occurs (TokenEnds cfg first) (orderlyStep cfg first.key) w₁ labels ∨
      ∀ c call outcome, w₂.calls c = some call → tokenKey call.room = first.key →
        call.stage = .returned outcome → w₁.calls c ≠ some call →
        Answered first labels c call.room outcome) := by
  -- a step that ends nothing keeps the invariant, which grows with the labels
  have preserved : ∀ done a l b, TokenWorld.Secures cfg a first w₁ done →
      ¬ TokenEnds cfg first a l → orderlyStep cfg first.key a l = some b →
      b.Secures cfg first w₁ (done ++ [l]) :=
    fun _ _ _ _ secures kept hstep => secures_step secures kept hstep
  have secured : Occurs (TokenEnds cfg first) (orderlyStep cfg first.key) w₁ labels ∨
      w₂.Secures cfg first w₁ labels :=
    occurs_or_invariant followed (secures_authenticated (guarded_reached reached) authenticated)
      preserved
  constructor
  · intro second w₃ hkey authenticates
    refine secured.resolve_right ?_
    intro secures
    obtain ⟨call, hcall, hkey', hstage⟩ := authenticating_of_authenticates authenticates
    exact serves_not_authenticating (secures.serves _ call hcall (hkey'.trans hkey)) hstage
  · refine secured.imp_right ?_
    intro secures c call outcome hcall hkey hstage returned
    have serves := secures.serves c call hcall hkey
    rw [TokenCall.Serves, hstage] at serves
    exact serves.resolve_left returned

deriving instance DecidableEq for TokenOutcome

def TokenStage.obtained : TokenStage → Option ProviderAuthResult
  | .measuring result => some result
  | _ => none

/-- The key and the outcome of a call that has returned. -/
def TokenCall.answer (call : TokenCall) : Option (TokenKey × TokenOutcome) :=
  match call.stage with
  | .returned outcome => some (tokenKey call.room, outcome)
  | _ => none

/-- The authentication, where it returns the token with life left above the skew. -/
def Issue.obtain (cfg : TokenSettings) (issue : Issue) (w : TokenWorld) : Option TokenWorld :=
  (TokenWorld.step cfg w (.on issue.caller (.exchange (.issued issue.result)))).filter fun w' =>
    cfg.fresh issue.result.expiresAt w'.clock &&
      (w'.calls issue.caller).any fun call =>
        tokenKey call.room = issue.key && call.stage.obtained = some issue.result

theorem authenticates_of_obtain {cfg : TokenSettings} {issue : Issue} {w w' : TokenWorld}
    (h : issue.obtain cfg w = some w') : Authenticates cfg issue w w' := by
  obtain ⟨hstep, checks⟩ := Option.filter_eq_some_iff.mp h
  simp only [Bool.and_eq_true, Option.any_eq_true, decide_eq_true_eq] at checks
  obtain ⟨lasting, call, hcall, hkey, hobtained⟩ := checks
  refine ⟨hstep, ⟨call, hcall, hkey, ?_⟩, lasting⟩
  cases hstage : call.stage with
  | measuring result =>
    rw [hstage] at hobtained
    cases hobtained
    rfl
  | _ =>
    rw [hstage] at hobtained
    cases hobtained

theorem answer_some {call : TokenCall} {key : TokenKey} {outcome : TokenOutcome}
    (h : call.answer = some (key, outcome)) :
    tokenKey call.room = key ∧ call.stage = .returned outcome := by
  unfold TokenCall.answer at h
  split at h
  · rename_i hstage
    cases h
    exact ⟨rfl, hstage⟩
  · cases h

def TokenLabel.exchanges : TokenLabel → Bool
  | .on _ (.exchange _) => true
  | _ => false

/-- The statements of the calls, without the clock and without deletions from outside. -/
def TokenLabel.ofCalls : TokenLabel → Bool
  | .call _ _ _ | .on _ _ => true
  | _ => false

theorem entry_stands {cfg : TokenSettings} {issue : Issue} {labels : List TokenLabel}
    (h : ∀ l ∈ labels, l.ofCalls = true) (w : TokenWorld) :
    ¬ Occurs (EntryEnds cfg issue) (orderlyStep cfg issue.key) w labels := by
  apply not_occurs_of_forall
  rintro l hl w ends
  have ofCalls := h l hl
  cases ends <;> cases ofCalls

def exampleIssue (c : TokenCallId) (token : String) (expiry : Int) : Issue :=
  ⟨tokenKey exampleVersionedRoom, c, ⟨token, some expiry⟩⟩

def exampleStep : TokenWorld → TokenLabel → Option TokenWorld :=
  orderlyStep exampleTokenSettings (tokenKey exampleVersionedRoom)

/-- Call 1 obtains a token, and the calls go on with the labels. -/
def exampleSequel (expiry : Int) (labels : List TokenLabel) :
    Option (TokenWorld × TokenWorld × TokenWorld) :=
  (run exampleStep (TokenWorld.initial 0)
    [.call 1 exampleVersionedRoom false, .on 1 .enter, .on 1 .read]).bind fun w =>
      ((exampleIssue 1 "T-1" expiry).obtain exampleTokenSettings w).bind fun w₁ =>
        (run exampleStep w₁ labels).map fun w₂ => (w, w₁, w₂)

theorem exampleSequel_some {expiry : Int} {labels : List TokenLabel} {w w₁ w₂ : TokenWorld}
    (h : exampleSequel expiry labels = some (w, w₁, w₂)) :
    Reachable exampleStep (TokenWorld.initial 0) w ∧
      Authenticates exampleTokenSettings (exampleIssue 1 "T-1" expiry) w w₁ ∧
      run exampleStep w₁ labels = some w₂ := by
  obtain ⟨w, hw, h⟩ := Option.bind_eq_some_iff.mp h
  obtain ⟨w₁, hw₁, h⟩ := Option.bind_eq_some_iff.mp h
  obtain ⟨w₂, hw₂, h⟩ := Option.map_eq_some_iff.mp h
  cases h
  exact ⟨reachable_of_run hw, authenticates_of_obtain hw₁, hw₂⟩

/-- Another call asks for a token and reads the cache. -/
def exampleReading : List TokenLabel :=
  [.call 2 exampleVersionedRoom false, .on 2 .enter, .on 2 .read]

/-- Call 1 stores its token, and call 2 finds it. -/
def exampleHit : List TokenLabel :=
  [.on 1 .measure, .on 1 .store, .on 1 .stamp, .on 1 .leave] ++ exampleReading ++
    [.on 2 .compare, .on 2 .leave]

theorem one_authentication_per_token_hit :
    ∃ w w₁ w₂ call, Reachable exampleStep (TokenWorld.initial 0) w ∧
      Authenticates exampleTokenSettings (exampleIssue 1 "T-1" 1000000000) w w₁ ∧
      run exampleStep w₁ exampleHit = some w₂ ∧ w₂.calls 2 = some call ∧
      call.stage = .returned (.issued ⟨"T-1", some 1000000000⟩) ∧
      (Occurs (TokenEnds exampleTokenSettings (exampleIssue 1 "T-1" 1000000000)) exampleStep w₁
          exampleHit ∨
        Answered (exampleIssue 1 "T-1" 1000000000) exampleHit 2 call.room
          (.issued ⟨"T-1", some 1000000000⟩)) := by
  have returned : ((exampleSequel 1000000000 exampleHit).bind fun w => w.2.2.calls 2).bind
      TokenCall.answer =
        some (tokenKey exampleVersionedRoom, .issued ⟨"T-1", some 1000000000⟩) := by decide +kernel
  have unbegun : (exampleSequel 1000000000 exampleHit).all
      (fun w => (w.2.1.calls 2).isNone) = true := by decide +kernel
  obtain ⟨call, hcall, hanswer⟩ := Option.bind_eq_some_iff.mp returned
  obtain ⟨⟨w, w₁, w₂⟩, hsequel, hcall⟩ := Option.bind_eq_some_iff.mp hcall
  rw [hsequel] at unbegun
  have hnew : w₁.calls 2 = none := by simpa using unbegun
  obtain ⟨reached, authenticates, followed⟩ := exampleSequel_some hsequel
  obtain ⟨hkey, hstage⟩ := answer_some hanswer
  have answered := (@one_authentication_per_token exampleTokenSettings 0
    (exampleIssue 1 "T-1" 1000000000) w w₁ w₂ exampleHit reached authenticates followed).2
  refine ⟨w, w₁, w₂, call, reached, authenticates, followed, hcall, hstage, ?_⟩
  refine answered.imp_right fun answers => answers 2 call _ hcall hkey hstage ?_
  rw [hnew]
  exact nofun

/-- Two authentications, one after the other, and the entry of the first token does not end. -/
def ObtainedAgain (cfg : TokenSettings) (first second : Issue) : Prop :=
  ∃ clock w w₁ w₂ w₃ labels, Reachable (orderlyStep cfg first.key) (TokenWorld.initial clock) w ∧
    Authenticates cfg first w w₁ ∧ run (orderlyStep cfg first.key) w₁ labels = some w₂ ∧
    (∀ l ∈ labels, l.exchanges = false) ∧ second.key = first.key ∧ Authenticates cfg second w₂ w₃ ∧
    ¬ Occurs (EntryEnds cfg first) (orderlyStep cfg first.key) w₁ labels

theorem obtainedAgain_of_sequel {expiry : Int} {labels : List TokenLabel}
    (h : ((exampleSequel expiry labels).bind fun w =>
      (exampleIssue 2 "T-2" expiry).obtain exampleTokenSettings w.2.2).isSome = true)
    (quiet : ∀ l ∈ labels, l.exchanges = false ∧ l.ofCalls = true) :
    ObtainedAgain exampleTokenSettings (exampleIssue 1 "T-1" expiry)
      (exampleIssue 2 "T-2" expiry) := by
  obtain ⟨w₃, h⟩ := Option.isSome_iff_exists.mp h
  obtain ⟨⟨w, w₁, w₂⟩, hsequel, hagain⟩ := Option.bind_eq_some_iff.mp h
  obtain ⟨reached, authenticates, followed⟩ := exampleSequel_some hsequel
  exact ⟨0, w, w₁, w₂, w₃, labels, reached, authenticates, followed, fun l hl => (quiet l hl).1,
    rfl, authenticates_of_obtain hagain, entry_stands (fun l hl => (quiet l hl).2) w₁⟩

/-- The token lives half a second longer than the skew, and is refused. -/
def exampleTooShort : List TokenLabel := [.on 1 .measure, .on 1 .leave] ++ exampleReading

/-- Redis fails when the token is to be stored. -/
def exampleUnstored : List TokenLabel :=
  [.on 1 .measure, .on 1 (.fail .redisError), .on 1 .leave] ++ exampleReading

/-- The token is stored; then the database fails, and a call comes for a room made inactive. -/
def exampleStored : List TokenLabel :=
  [.on 1 .measure, .on 1 .store, .on 1 (.fail .unexpected), .on 1 .leave,
    .call 2 { exampleVersionedRoom with isActive := false } false]

/-- No entry ends in these runs, though a token is obtained again in two of them, and in the
third one calls return neither the token nor that the lock was busy. -/
theorem token_obtained_again :
    ObtainedAgain exampleTokenSettings (exampleIssue 1 "T-1" 300500000)
        (exampleIssue 2 "T-2" 300500000) ∧
      ObtainedAgain exampleTokenSettings (exampleIssue 1 "T-1" 1000000000)
        (exampleIssue 2 "T-2" 1000000000) ∧
      ∃ w w₁ w₂ call call', Reachable exampleStep (TokenWorld.initial 0) w ∧
        Authenticates exampleTokenSettings (exampleIssue 1 "T-1" 1000000000) w w₁ ∧
        run exampleStep w₁ exampleStored = some w₂ ∧
        ¬ Occurs (EntryEnds exampleTokenSettings (exampleIssue 1 "T-1" 1000000000)) exampleStep w₁
          exampleStored ∧
        w₂.calls 1 = some call ∧ tokenKey call.room = tokenKey exampleVersionedRoom ∧
        call.stage = .returned (.escaped .unexpected) ∧
        w₂.calls 2 = some call' ∧ tokenKey call'.room = tokenKey exampleVersionedRoom ∧
        call'.stage = .returned (.refused .roomInactive none) := by
  have short : ((exampleSequel 300500000 exampleTooShort).bind fun w =>
      (exampleIssue 2 "T-2" 300500000).obtain exampleTokenSettings w.2.2).isSome = true := by
    decide +kernel
  have unstored : ((exampleSequel 1000000000 exampleUnstored).bind fun w =>
      (exampleIssue 2 "T-2" 1000000000).obtain exampleTokenSettings w.2.2).isSome = true := by
    decide +kernel
  have failed : ((exampleSequel 1000000000 exampleStored).bind fun w => w.2.2.calls 1).bind
      TokenCall.answer = some (tokenKey exampleVersionedRoom, .escaped .unexpected) := by
    decide +kernel
  have refused : ((exampleSequel 1000000000 exampleStored).bind fun w => w.2.2.calls 2).bind
      TokenCall.answer = some (tokenKey exampleVersionedRoom, .refused .roomInactive none) := by
    decide +kernel
  refine ⟨obtainedAgain_of_sequel short (by simp [exampleTooShort, exampleReading,
      TokenLabel.exchanges, TokenLabel.ofCalls]),
    obtainedAgain_of_sequel unstored (by simp [exampleUnstored, exampleReading,
      TokenLabel.exchanges, TokenLabel.ofCalls]), ?_⟩
  obtain ⟨call, hcall, hanswer⟩ := Option.bind_eq_some_iff.mp failed
  obtain ⟨call', hcall', hanswer'⟩ := Option.bind_eq_some_iff.mp refused
  obtain ⟨⟨w, w₁, w₂⟩, hsequel, hcall⟩ := Option.bind_eq_some_iff.mp hcall
  rw [hsequel] at hcall'
  obtain ⟨reached, authenticates, followed⟩ := exampleSequel_some hsequel
  exact ⟨w, w₁, w₂, call, call', reached, authenticates, followed,
    entry_stands (by simp [exampleStored, TokenLabel.ofCalls]) w₁, hcall, answer_some hanswer |>.1,
    answer_some hanswer |>.2, hcall', answer_some hanswer' |>.1, answer_some hanswer' |>.2⟩

end MeetingGateway
