import MeetingGateway.Tokens
import MeetingGateway.Library.LabelledRuns
import Mathlib.Logic.Function.Basic

/-!
# The token cache in use

Calls of `get_token` by any number of processes, interleaved statement by statement with
deletions and with the clock. Redis keeps an entry and the lock of a key until their time
is over, so a call can lose its lock while it works. What the calls read from the clock
and where their tokens come from is recorded to state what must hold.
-/

namespace MeetingGateway

open LabelledRuns

abbrev TokenCallId := Nat

/-- An entry of the cache; it is visible until its deadline. -/
structure CacheEntry where
  raw : Stored CacheText
  storedAt : Int
  deadline : Int

structure Lease where
  holder : TokenCallId
  deadline : Int

/-- The next statement of a call, with the values it works on. -/
inductive TokenStage where
  | entering
  | reading
  | comparing (item : CacheItem)
  | deleting
  | authenticating
  | measuring (result : ProviderAuthResult)
  | storing (result : ProviderAuthResult) (ttl : Int)
  | stamping (result : ProviderAuthResult)
  | leaving (outcome : TokenOutcome)
  | returned (outcome : TokenOutcome)

/-- Where a token from the cache was found: the moment it was read and the moment its entry
had been stored. -/
structure Served where
  readAt : Int
  storedAt : Int

/-- A call: `lastRead` is the last value of the clock it read, `decidedAt` the last one it
compared an expiry with. -/
structure TokenCall where
  room : VersionedRoom
  force : Bool
  stage : TokenStage
  lastRead : Option Int
  decidedAt : Option Int
  served : Option Served

def TokenCall.goto (call : TokenCall) (stage : TokenStage) : TokenCall :=
  { call with stage := stage }

/-- A reading of the clock that decides whether a token is fresh. -/
def TokenCall.decide (call : TokenCall) (now : Int) (stage : TokenStage) : TokenCall :=
  { call with stage := stage, lastRead := some now, decidedAt := some now }

/-- `timezone.now()` is read only for an expiry. -/
def TokenCall.compare (call : TokenCall) (expiry : Option Int) (now : Int) (stage : TokenStage) :
    TokenCall :=
  if expiry.isSome then call.decide now stage else call.goto stage

section Reading
variable (call : TokenCall) (expiry : Option Int) (now : Int) (stage : TokenStage)

@[simp] theorem TokenCall.goto_stage : (call.goto stage).stage = stage := rfl

@[simp] theorem TokenCall.compare_stage : (call.compare expiry now stage).stage = stage := by
  cases expiry <;> rfl

@[simp] theorem TokenCall.compare_room : (call.compare expiry now stage).room = call.room := by
  cases expiry <;> rfl

@[simp] theorem TokenCall.compare_served :
    (call.compare expiry now stage).served = call.served := by
  cases expiry <;> rfl

theorem TokenCall.compare_reads (same : call.lastRead = call.decidedAt) :
    (call.compare expiry now stage).lastRead = (call.compare expiry now stage).decidedAt := by
  cases expiry with
  | none => exact same
  | some e => rfl

end Reading

/-- What a call sees of the world: the clock and the state of its own key. `issued` lists
the tokens the provider has given out for the key. -/
structure TokenView where
  clock : Int
  entry : Option CacheEntry
  lease : Option Lease
  issued : List String
  call : TokenCall

inductive TokenOp where
  | enter
  | timeout
  | read
  | compare
  | delete
  | exchange (outcome : TokenOutcome)
  | measure
  | store
  | stamp
  | leave
  | fail (e : PyError)
  | die

def secondMicroseconds : Int := 1000000

namespace TokenView

def goto (v : TokenView) (stage : TokenStage) : TokenView := { v with call := v.call.goto stage }

/-- The lock is taken for 60 seconds. -/
def held (v : TokenView) : Bool :=
  match v.lease with
  | none => false
  | some lease => v.clock ≤ lease.deadline

def visible (v : TokenView) : Option CacheEntry :=
  match v.entry with
  | none => none
  | some entry => if v.clock ≤ entry.deadline then some entry else none

def enter (c : TokenCallId) (v : TokenView) : Option TokenView :=
  match v.call.stage with
  | .entering =>
    if v.held then none
    else some { v with
      lease := some ⟨c, v.clock + 60 * secondMicroseconds⟩
      call := v.call.goto (if v.call.force then .authenticating else .reading) }
  | _ => none

/-- `blocking_timeout` is over: a `LockError`. -/
def timeout (v : TokenView) : Option TokenView :=
  match v.call.stage with
  | .entering => some (v.goto (.returned (.refused .providerAuthBusy none)))
  | _ => none

def read (cfg : TokenSettings) (v : TokenView) : Option TokenView :=
  match v.call.stage with
  | .reading =>
    match v.visible with
    | none => some (v.goto .authenticating)
    | some entry =>
      match readItem cfg.toSettings entry.raw with
      | .ok item => some { v with
          call := { v.call with
            stage := .comparing item
            served := some ⟨v.clock, entry.storedAt⟩ } }
      | .error e => some (v.goto (if e.discards then .deleting else .leaving (.escaped e)))
  | _ => none

def compare (cfg : TokenSettings) (v : TokenView) : Option TokenView :=
  match v.call.stage with
  | .comparing item =>
    if cfg.fresh item.expiry v.clock then some { v with
      call := v.call.compare item.expiry v.clock (.leaving (.issued ⟨item.token, item.expiry⟩)) }
    else some { v with
      call := { v.call.compare item.expiry v.clock .authenticating with served := none } }
  | _ => none

def delete (v : TokenView) : Option TokenView :=
  match v.call.stage with
  | .deleting => some { v with entry := none, call := v.call.goto .authenticating }
  | _ => none

def exchange (cfg : TokenSettings) (outcome : TokenOutcome) (v : TokenView) : Option TokenView :=
  match v.call.stage with
  | .authenticating =>
    match authenticate cfg.toSettings v.call.room.toRoom outcome with
    | .issued result => some { v with
        issued := result.accessToken :: v.issued
        call := v.call.goto (.measuring result) }
    | other => some (v.goto (.leaving other))
  | _ => none

def measure (cfg : TokenSettings) (v : TokenView) : Option TokenView :=
  match v.call.stage with
  | .measuring result => some { v with
      call := v.call.compare result.expiresAt v.clock
        (if cfg.ttl result.expiresAt v.clock ≤ 0 then
          .leaving (.refused .providerTokenExpired none)
        else .storing result (cfg.ttl result.expiresAt v.clock)) }
  | _ => none

/-- `setex`. -/
def store (cfg : TokenSettings) (v : TokenView) : Option TokenView :=
  match v.call.stage with
  | .storing result ttl => some { v with
      entry := some
        ⟨encryptDumps cfg.keyring (.item ⟨result.accessToken, result.expiresAt⟩), v.clock,
          v.clock + ttl * secondMicroseconds⟩
      call := v.call.goto (.stamping result) }
  | _ => none

/-- `last_auth_at=timezone.now()`. -/
def stamp (v : TokenView) : Option TokenView :=
  match v.call.stage with
  | .stamping result => some { v with
      call := { v.call with stage := .leaving (.issued result), lastRead := some v.clock } }
  | _ => none

/-- A lock whose lease has run out cannot be released: a `LockError` again. -/
def leave (c : TokenCallId) (v : TokenView) : Option TokenView :=
  match v.call.stage, v.lease with
  | .leaving outcome, some lease =>
    if lease.holder = c ∧ v.clock ≤ lease.deadline then some { v with
      lease := none
      call := v.call.goto (.returned outcome) }
    else some (v.goto (.returned (.refused .providerAuthBusy none)))
  | .leaving _, none => some (v.goto (.returned (.refused .providerAuthBusy none)))
  | _, _ => none

/-- A call to Redis or to the database raises. -/
def fail (e : PyError) (v : TokenView) : Option TokenView :=
  match v.call.stage with
  | .entering => some (v.goto (.returned (.escaped e)))
  | .leaving _ => some (v.goto (.returned (.escaped e)))
  | .returned _ => none
  | _ => some (v.goto (.leaving (.escaped e)))

/-- The process dies and releases nothing. -/
def die (v : TokenView) : Option TokenView :=
  match v.call.stage with
  | .returned _ => none
  | _ => some (v.goto (.returned (.escaped .unexpected)))

def operate (cfg : TokenSettings) (c : TokenCallId) (v : TokenView) : TokenOp → Option TokenView
  | .enter => v.enter c
  | .timeout => v.timeout
  | .read => v.read cfg
  | .compare => v.compare cfg
  | .delete => v.delete
  | .exchange outcome => v.exchange cfg outcome
  | .measure => v.measure cfg
  | .store => v.store cfg
  | .stamp => v.stamp
  | .leave => v.leave c
  | .fail e => v.fail e
  | .die => v.die

end TokenView

structure TokenWorld where
  clock : Int
  cache : TokenKey → Option CacheEntry
  lock : TokenKey → Option Lease
  issued : TokenKey → List String
  calls : TokenCallId → Option TokenCall

inductive TokenLabel where
  | tick (instant : Int)
  | call (c : TokenCallId) (room : VersionedRoom) (force : Bool)
  | on (c : TokenCallId) (op : TokenOp)
  | invalidate (key : TokenKey)

namespace TokenWorld

def initial (clock : Int) : TokenWorld :=
  ⟨clock, fun _ => none, fun _ => none, fun _ => [], fun _ => none⟩

def view (w : TokenWorld) (call : TokenCall) : TokenView :=
  ⟨w.clock, w.cache (tokenKey call.room), w.lock (tokenKey call.room),
    w.issued (tokenKey call.room), call⟩

def settle (w : TokenWorld) (c : TokenCallId) (key : TokenKey) (v : TokenView) : TokenWorld where
  clock := w.clock
  cache := Function.update w.cache key v.entry
  lock := Function.update w.lock key v.lease
  issued := Function.update w.issued key v.issued
  calls := Function.update w.calls c (some v.call)

/-- An inactive room is refused before anything is read. -/
def begin (w : TokenWorld) (c : TokenCallId) (room : VersionedRoom) (force : Bool) : TokenWorld :=
  { w with calls := Function.update w.calls c (some
      ⟨room, force,
        if room.isActive then .entering else .returned (.refused .roomInactive none),
        none, none, none⟩) }

def invalidate (w : TokenWorld) (key : TokenKey) : TokenWorld :=
  { w with cache := Function.update w.cache key none }

def step (cfg : TokenSettings) (w : TokenWorld) : TokenLabel → Option TokenWorld
  | .tick instant => if w.clock ≤ instant then some { w with clock := instant } else none
  | .call c room force => if (w.calls c).isSome then none else some (w.begin c room force)
  | .on c op =>
    match w.calls c with
    | none => none
    | some call => ((w.view call).operate cfg c op).map (w.settle c (tokenKey call.room))
  | .invalidate key => some (w.invalidate key)

section Updates
variable {w : TokenWorld} {c d : TokenCallId} {key other : TokenKey} {v : TokenView}
variable {call : TokenCall} {room : VersionedRoom} {force : Bool}

@[simp] theorem settle_clock : (w.settle c key v).clock = w.clock := rfl

@[simp] theorem settle_calls : (w.settle c key v).calls c = some v.call := by
  simp [settle]

@[simp] theorem settle_cache : (w.settle c key v).cache key = v.entry := by
  simp [settle]

@[simp] theorem settle_lock : (w.settle c key v).lock key = v.lease := by
  simp [settle]

@[simp] theorem settle_issued : (w.settle c key v).issued key = v.issued := by
  simp [settle]

theorem settle_calls_other (h : d ≠ c) : (w.settle c key v).calls d = w.calls d := by
  simp [settle, Function.update_of_ne h]

theorem settle_cache_other (h : other ≠ key) : (w.settle c key v).cache other = w.cache other := by
  simp [settle, Function.update_of_ne h]

theorem settle_lock_other (h : other ≠ key) : (w.settle c key v).lock other = w.lock other := by
  simp [settle, Function.update_of_ne h]

theorem settle_issued_other (h : other ≠ key) :
    (w.settle c key v).issued other = w.issued other := by
  simp [settle, Function.update_of_ne h]

/-- A call after a statement is the one that made it, or as it was. -/
theorem settle_calls_cases (h : (w.settle c key v).calls d = some call) :
    (d = c ∧ v.call = call) ∨ (d ≠ c ∧ w.calls d = some call) := by
  by_cases hdc : d = c
  · subst hdc
    exact Or.inl ⟨rfl, by simpa using h⟩
  · exact Or.inr ⟨hdc, by rwa [settle_calls_other hdc] at h⟩

theorem begin_calls_other (h : d ≠ c) : (w.begin c room force).calls d = w.calls d := by
  simp [begin, Function.update_of_ne h]

/-- A call that has just been made waits for the lock, unless its room is inactive. -/
theorem begin_calls (h : (w.begin c room force).calls c = some call) :
    ∃ stage, call = ⟨room, force, stage, none, none, none⟩ ∧
      (room.isActive = true ∧ stage = .entering ∨
        room.isActive = false ∧ stage = .returned (.refused .roomInactive none)) := by
  simp only [begin, Function.update_self, Option.some.injEq] at h
  subst h
  by_cases active : room.isActive = true
  · exact ⟨_, rfl, Or.inl ⟨active, if_pos active⟩⟩
  · exact ⟨_, rfl, Or.inr ⟨by simpa using active, if_neg active⟩⟩

theorem invalidate_cache {entry : CacheEntry} (h : (w.invalidate key).cache other = some entry) :
    other ≠ key ∧ w.cache other = some entry := by
  by_cases hkey : other = key
  · simp [hkey, invalidate] at h
  · exact ⟨hkey, by simpa [invalidate, Function.update_of_ne hkey] using h⟩

end Updates

section Steps
variable {cfg : TokenSettings} {w w' : TokenWorld} {c : TokenCallId}

theorem step_tick {instant : Int} (h : step cfg w (.tick instant) = some w') :
    w.clock ≤ instant ∧ w' = { w with clock := instant } := by
  simp only [step] at h
  split at h
  · rename_i later
    cases h
    exact ⟨later, rfl⟩
  · cases h

theorem step_call {room : VersionedRoom} {force : Bool}
    (h : step cfg w (.call c room force) = some w') :
    w.calls c = none ∧ w' = w.begin c room force := by
  simp only [step] at h
  split at h
  · cases h
  · rename_i hnew
    cases h
    exact ⟨by simpa using hnew, rfl⟩

theorem step_on {op : TokenOp} (h : step cfg w (.on c op) = some w') :
    ∃ call v, w.calls c = some call ∧ (w.view call).operate cfg c op = some v ∧
      w' = w.settle c (tokenKey call.room) v := by
  simp only [step] at h
  split at h
  · cases h
  · rename_i call hcall
    obtain ⟨v, hv, rfl⟩ := Option.map_eq_some_iff.mp h
    exact ⟨call, v, hcall, hv, rfl⟩

end Steps

end TokenWorld

/-- The call is ending without a token. -/
def TokenStage.failed : TokenStage → Bool
  | .leaving (.issued _) | .returned (.issued _) => false
  | .leaving _ | .returned _ => true
  | _ => false

inductive TokenMove (cfg : TokenSettings) (c : TokenCallId) (v : TokenView) :
    TokenOp → TokenView → Prop
  | failed {op : TokenOp} {stage : TokenStage} : stage.failed = true →
      TokenMove cfg c v op (v.goto stage)
  | entered : v.call.stage = .entering → v.held = false → TokenMove cfg c v .enter { v with
      lease := some ⟨c, v.clock + 60 * secondMicroseconds⟩
      call := v.call.goto (if v.call.force then .authenticating else .reading) }
  | missed : v.call.stage = .reading → v.visible = none →
      TokenMove cfg c v .read (v.goto .authenticating)
  | hit {entry : CacheEntry} {item : CacheItem} : v.call.stage = .reading →
      v.visible = some entry → readItem cfg.toSettings entry.raw = .ok item →
      TokenMove cfg c v .read { v with
        call := { v.call with stage := .comparing item, served := some ⟨v.clock, entry.storedAt⟩ } }
  | discarded {entry : CacheEntry} : v.call.stage = .reading → v.visible = some entry →
      TokenMove cfg c v .read (v.goto .deleting)
  | kept {item : CacheItem} : v.call.stage = .comparing item →
      cfg.fresh item.expiry v.clock = true → TokenMove cfg c v .compare { v with
        call := v.call.compare item.expiry v.clock (.leaving (.issued ⟨item.token, item.expiry⟩)) }
  | stale {item : CacheItem} : v.call.stage = .comparing item →
      cfg.fresh item.expiry v.clock = false → TokenMove cfg c v .compare { v with
        call := { v.call.compare item.expiry v.clock .authenticating with served := none } }
  | deleted : v.call.stage = .deleting → TokenMove cfg c v .delete { v with
      entry := none
      call := v.call.goto .authenticating }
  | authenticated {result : ProviderAuthResult} : v.call.stage = .authenticating →
      authenticate cfg.toSettings v.call.room.toRoom (.issued result) = .issued result →
      TokenMove cfg c v (.exchange (.issued result)) { v with
        issued := result.accessToken :: v.issued
        call := v.call.goto (.measuring result) }
  | tooShort {result : ProviderAuthResult} : v.call.stage = .measuring result →
      TokenMove cfg c v .measure { v with
        call := v.call.compare result.expiresAt v.clock
          (.leaving (.refused .providerTokenExpired none)) }
  | measured {result : ProviderAuthResult} : v.call.stage = .measuring result →
      0 < cfg.ttl result.expiresAt v.clock → TokenMove cfg c v .measure { v with
        call := v.call.compare result.expiresAt v.clock
          (.storing result (cfg.ttl result.expiresAt v.clock)) }
  | stored {result : ProviderAuthResult} {ttl : Int} : v.call.stage = .storing result ttl →
      TokenMove cfg c v .store { v with
        entry := some
          ⟨encryptDumps cfg.keyring (.item ⟨result.accessToken, result.expiresAt⟩), v.clock,
            v.clock + ttl * secondMicroseconds⟩
        call := v.call.goto (.stamping result) }
  | stamped {result : ProviderAuthResult} : v.call.stage = .stamping result →
      TokenMove cfg c v .stamp { v with
        call := { v.call with stage := .leaving (.issued result), lastRead := some v.clock } }
  | left {outcome : TokenOutcome} {lease : Lease} : v.call.stage = .leaving outcome →
      v.lease = some lease → lease.holder = c → v.clock ≤ lease.deadline →
      TokenMove cfg c v .leave { v with
        lease := none
        call := v.call.goto (.returned outcome) }

section Inversion
variable {cfg : TokenSettings} {c : TokenCallId} {v v' : TokenView}

theorem visible_some {entry : CacheEntry} (h : v.visible = some entry) :
    v.entry = some entry ∧ v.clock ≤ entry.deadline := by
  unfold TokenView.visible at h
  split at h
  · cases h
  · rename_i found hentry
    split at h
    · rename_i hle
      cases h
      exact ⟨hentry, hle⟩
    · cases h

theorem authenticate_issued {cfg : Settings} {room : Room} {outcome : TokenOutcome}
    {result : ProviderAuthResult} (h : authenticate cfg room outcome = .issued result) :
    outcome = .issued result := by
  unfold authenticate at h
  split at h
  · cases h
  · cases h
  · exact h

theorem read_move (h : v.read cfg = some v') : TokenMove cfg c v .read v' := by
  unfold TokenView.read at h
  split at h
  · rename_i hstage
    split at h
    · rename_i hvisible
      cases h
      exact .missed hstage hvisible
    · rename_i entry hvisible
      split at h
      · rename_i item hitem
        cases h
        exact .hit hstage hvisible hitem
      · rename_i e _
        cases h
        by_cases discards : e.discards = true
        · rw [if_pos discards]
          exact .discarded hstage hvisible
        · rw [if_neg discards]
          exact .failed rfl
  · cases h

theorem compare_move (h : v.compare cfg = some v') : TokenMove cfg c v .compare v' := by
  unfold TokenView.compare at h
  split at h
  · rename_i item hstage
    split at h
    · rename_i hfresh
      cases h
      exact .kept hstage hfresh
    · rename_i hstale
      cases h
      exact .stale hstage (by simpa using hstale)
  · cases h

theorem exchange_move {outcome : TokenOutcome} (h : v.exchange cfg outcome = some v') :
    TokenMove cfg c v (.exchange outcome) v' := by
  unfold TokenView.exchange at h
  split at h
  · rename_i hstage
    split at h
    · rename_i result hresult
      cases h
      obtain rfl := authenticate_issued hresult
      exact .authenticated hstage hresult
    · rename_i other hother
      cases h
      refine .failed ?_
      cases hauth : authenticate cfg.toSettings v.call.room.toRoom outcome with
      | issued result => exact absurd hauth (hother result)
      | refused code statusCode => rfl
      | escaped e => rfl
  · cases h

theorem measure_move (h : v.measure cfg = some v') : TokenMove cfg c v .measure v' := by
  unfold TokenView.measure at h
  split at h
  · rename_i result hstage
    cases h
    by_cases short : cfg.ttl result.expiresAt v.clock ≤ 0
    · rw [if_pos short]
      exact .tooShort hstage
    · rw [if_neg short]
      exact .measured hstage (by omega)
  · cases h

theorem leave_move (h : v.leave c = some v') : TokenMove cfg c v .leave v' := by
  unfold TokenView.leave at h
  split at h
  · rename_i hstage hlease
    split at h
    · rename_i hheld
      cases h
      exact .left hstage hlease hheld.1 hheld.2
    · cases h
      exact .failed rfl
  · cases h
    exact .failed rfl
  · cases h

theorem fail_move {e : PyError} (h : v.fail e = some v') : TokenMove cfg c v (.fail e) v' := by
  unfold TokenView.fail at h
  split at h
  · cases h
    exact .failed rfl
  · cases h
    exact .failed rfl
  · cases h
  · cases h
    exact .failed rfl

theorem move_room {op : TokenOp} (h : TokenMove cfg c v op v') : v'.call.room = v.call.room := by
  cases h with
  | kept _ _ => simp
  | stale _ _ => simp
  | tooShort _ => simp
  | measured _ _ => simp
  | _ => rfl

theorem operate_tokenMove {op : TokenOp} (h : v.operate cfg c op = some v') :
    TokenMove cfg c v op v' := by
  cases op with
  | enter =>
    simp only [TokenView.operate, TokenView.enter] at h
    split at h
    · rename_i hstage
      split at h
      · cases h
      · rename_i hfree
        cases h
        exact .entered hstage (by simpa using hfree)
    · cases h
  | timeout =>
    simp only [TokenView.operate, TokenView.timeout] at h
    split at h
    · cases h
      exact .failed rfl
    · cases h
  | read => exact read_move h
  | compare => exact compare_move h
  | delete =>
    simp only [TokenView.operate, TokenView.delete] at h
    split at h
    · rename_i hstage
      cases h
      exact .deleted hstage
    · cases h
  | exchange outcome => exact exchange_move h
  | measure => exact measure_move h
  | store =>
    simp only [TokenView.operate, TokenView.store] at h
    split at h
    · rename_i hstage
      cases h
      exact .stored hstage
    · cases h
  | stamp =>
    simp only [TokenView.operate, TokenView.stamp] at h
    split at h
    · rename_i hstage
      cases h
      exact .stamped hstage
    · cases h
  | leave => exact leave_move h
  | fail e => exact fail_move h
  | die =>
    simp only [TokenView.operate, TokenView.die] at h
    split at h
    · cases h
    · cases h
      exact .failed rfl

end Inversion

/-- What a step does to the world. -/
inductive TokenChange (cfg : TokenSettings) (w : TokenWorld) : TokenLabel → TokenWorld → Prop
  | ticked {instant : Int} : w.clock ≤ instant →
      TokenChange cfg w (.tick instant) { w with clock := instant }
  | begun {c : TokenCallId} {room : VersionedRoom} {force : Bool} : w.calls c = none →
      TokenChange cfg w (.call c room force) (w.begin c room force)
  | operated {c : TokenCallId} {op : TokenOp} {call : TokenCall} {v : TokenView} :
      w.calls c = some call → TokenMove cfg c (w.view call) op v →
      TokenChange cfg w (.on c op) (w.settle c (tokenKey call.room) v)
  | invalidated {key : TokenKey} : TokenChange cfg w (.invalidate key) (w.invalidate key)

theorem step_tokenChange {cfg : TokenSettings} {w w' : TokenWorld} {l : TokenLabel}
    (h : TokenWorld.step cfg w l = some w') : TokenChange cfg w l w' := by
  cases l with
  | tick instant =>
    obtain ⟨later, rfl⟩ := TokenWorld.step_tick h
    exact .ticked later
  | call c room force =>
    obtain ⟨hnew, rfl⟩ := TokenWorld.step_call h
    exact .begun hnew
  | on c op =>
    obtain ⟨call, v, hcall, hv, rfl⟩ := TokenWorld.step_on h
    exact .operated hcall (operate_tokenMove hv)
  | invalidate key =>
    cases h
    exact .invalidated

/-- Where a call comes from: it is as it was, it has just been made, or the step moved it. -/
theorem call_origin {cfg : TokenSettings} {w w' : TokenWorld} {l : TokenLabel} {c : TokenCallId}
    {call' : TokenCall} (h : TokenChange cfg w l w') (hcall' : w'.calls c = some call') :
    w.calls c = some call' ∨
      (∃ room force, l = .call c room force ∧ (w.begin c room force).calls c = some call') ∨
      ∃ op moved v, l = .on c op ∧ w.calls c = some moved ∧
        TokenMove cfg c (w.view moved) op v ∧ v.call = call' ∧
        w' = w.settle c (tokenKey moved.room) v := by
  cases h with
  | ticked _ => exact Or.inl hcall'
  | @begun d room force _ =>
    by_cases hcd : c = d
    · subst hcd
      exact Or.inr (Or.inl ⟨room, force, rfl, hcall'⟩)
    · exact Or.inl ((TokenWorld.begin_calls_other hcd).symm.trans hcall')
  | @operated d op moved v hmoved hmove =>
    rcases TokenWorld.settle_calls_cases hcall' with ⟨rfl, hv⟩ | ⟨_, same⟩
    · exact Or.inr (Or.inr ⟨op, moved, v, rfl, hmoved, hmove, hv, rfl⟩)
    · exact Or.inl same
  | invalidated => exact Or.inl hcall'

end MeetingGateway
