import MeetingGateway.Moves

/-!
# The life of one meeting

What holds of a row and of the work in progress on it, whatever the order of the
operations: the row still says what its creator asked for, one request at a time holds
the lock and one at a time calls the provider, at most one call is not known to have
been rejected, and room, slot and payload stay those of the first PROVISIONING commit.
Each move keeps all of it.
-/

namespace MeetingGateway

/-- The fields that identify a request. -/
structure Identity where
  client : ClientId
  classId : String
  title : String
  teacherId : String
  teacherName : String
  batchId : String
  batchName : String
  classDate : Int
  startAt : Option Int
  endAt : Option Int
  deriving DecidableEq

def Meeting.identity (m : Meeting) : Identity :=
  ⟨m.integrationClient, m.externalClassId, m.meetingTitle, m.teacherId, m.teacherName, m.batchId,
    m.batchName, m.classDate, m.startAt, m.endAt⟩

def CreateValues.identity (values : CreateValues) (client : ClientId) : Identity :=
  ⟨client, values.classInfo.id, values.meetingTitle, values.teacher.id, values.teacher.name,
    values.batch.id, values.batch.name, values.classInfo.date, some values.startAt.instant,
    some values.endAt.instant⟩

/-- The statuses that keep the reservation. -/
def Status.retains : Status → Bool
  | .reserved | .provisioning | .ready | .live | .retryableFailed | .providerResponseInvalid
  | .providerStateUnknown => true
  | _ => false

/-- The statuses a committed row can have while a request calls the provider for it. -/
def Status.inFlight : Status → Bool
  | .provisioning | .providerStateUnknown | .ready | .ended => true
  | _ => false

/-- The statuses in which no call can have created a meeting. -/
def Status.uncalled : Status → Bool
  | .draft | .retryableFailed | .nonRetryableFailed | .cancelled => true
  | _ => false

/-- The statuses this code commits; RESERVED is never committed, LIVE and FAILED are
written by nothing. -/
def Status.written : Status → Bool
  | .reserved | .live | .failed => false
  | _ => true

def Phase.locks : Phase → Bool
  | .allocating _ _ | .reserving _ _ => true
  | _ => false

def NoOpenCall (calls : CallId → Option Call) : Prop :=
  ∀ i c, calls i = some c → c.rejected = true

def StageSound (calls : CallId → Option Call) : Stage → Prop
  | .token _ => NoOpenCall calls
  | .start _ _ => NoOpenCall calls
  | .waiting _ _ id => ∀ i c, calls i = some c → c.rejected = false → i = id
  | .failed e => e.definite = true → NoOpenCall calls
  | .succeeded data _ => data.Complete

structure FlightSound (m : Meeting) (calls : CallId → Option Call) (h : History)
    (f : Flight) : Prop where
  status : m.status.inFlight = true
  provisioned : h.provisioned = some ⟨f.room, f.account, f.payload⟩
  stage : StageSound calls f.stage

/-- The uncommitted row of an open transaction: a reservation of the draft, or the
retained reservation itself. -/
def Pending (cfg : Settings) (m : Meeting) (values : CreateValues) (reserved : Meeting)
    (retrying : Bool) : Prop :=
  (m.status = .draft ∧ retrying = false ∧ ∃ room slot now,
      interval cfg values.startAt values.endAt = .ok slot ∧
        reservable cfg values.startAt values.endAt = true ∧
        reserved = m.reserve room values.startAt values.endAt slot now) ∨
    (m.status = .retryableFailed ∧ retrying = true ∧ reserved = m)

def PhaseSound (cfg : Settings) (m : Meeting) (calls : CallId → Option Call) (h : History)
    (values : CreateValues) : Phase → Prop
  | .registered => True
  | .allocating retrying _ => m.status = .draft ∧ retrying = false
  | .reserving reserved retrying => Pending cfg m values reserved retrying
  | .calling f => FlightSound m calls h f

structure RequestSound (cfg : Settings) (m : Meeting) (s : Session) (r : RequestId)
    (q : Request) : Prop where
  same : m.identity = q.values.identity m.integrationClient
  locks : q.phase.locks = true → s.lock = some r
  phase : PhaseSound cfg m s.calls s.history q.values q.phase

structure CallsSound (m : Meeting) (h : History) (calls : CallId → Option Call) : Prop where
  single : ∀ i j c d, calls i = some c → calls j = some d → c.rejected = false →
    d.rejected = false → i = j
  created : ∀ i c, calls i = some c → c.created = true → c.rejected = false
  key : ∀ i c, calls i = some c → c.client = m.integrationClient ∧ c.classId = m.externalClassId
  provisioned : ∀ i c, calls i = some c → h.provisioned = some ⟨c.room, c.account, c.payload⟩
  uncalled : m.status.uncalled = true → NoOpenCall calls

/-- The row still has the room, slot and payload of a PROVISIONING commit. -/
structure Booked (cfg : Settings) (accounts : RoomId → Option String) (m : Meeting)
    (p : Provisioned) : Prop where
  room : m.room = some p.room
  account : accounts p.room = some p.account
  slot : ∃ start end_ lower upper, m.startAt = some start ∧ m.endAt = some end_ ∧
    lower ≤ start ∧ start < end_ ∧ end_ ≤ upper ∧
    m.reservation = some (BoundedRange.halfOpen lower upper)
  snapshot : m.encryptedProviderPayload = some (encryptDumps cfg.keyring p.payload)
  titled : withTitle p.payload m.meetingTitle = p.payload

/-- The provider fields of a ready meeting. -/
structure Filled (m : Meeting) : Prop where
  calendarId : present m.providerCalendarId = true
  panel : present m.providerPanelAddress = true
  startUrl : m.encryptedProviderStartUrl.isSome = true

structure RowSound (cfg : Settings) (accounts : RoomId → Option String) (m : Meeting)
    (h : History) : Prop where
  written : m.status.written = true
  active : m.reservationActive = m.status.retains
  fresh : m.status = .draft → h.provisioned = none
  begun : m.status ≠ .draft → m.status ≠ .cancelled → h.provisioned.isSome = true
  booked : ∀ p, h.provisioned = some p → Booked cfg accounts m p
  ready : m.status = .ready → Filled m
  ended : m.status = .ended → h.confirmed = true

structure Sound (cfg : Settings) (accounts : RoomId → Option String) (m : Meeting)
    (s : Session) : Prop where
  origin : ∃ client values, s.history.origin = some (client, values) ∧
    m.identity = values.identity client
  requests : ∀ r q, s.requests r = some q → RequestSound cfg m s r q
  locked : ∀ r, s.lock = some r → ∃ q, s.requests r = some q ∧ q.phase.locks = true
  single : ∀ r r' v v' f f', s.requests r = some ⟨v, .calling f⟩ →
    s.requests r' = some ⟨v', .calling f'⟩ → r = r'
  calls : CallsSound m s.history s.calls
  row : RowSound cfg accounts m s.history

section Sessions
variable {cfg : Settings} {accounts : RoomId → Option String} {m : Meeting} {s : Session}
variable {r : RequestId} {q : Request}

theorem requests_put (s : Session) (r : RequestId) (q : Request) (r' : RequestId) :
    (s.put r q).requests r' = if r' = r then some q else s.requests r' := by
  by_cases h : r' = r
  · subst h
    simp [Session.put]
  · simp [Session.put, h]

theorem requests_drop (s : Session) (r r' : RequestId) :
    (s.drop r).requests r' = if r' = r then none else s.requests r' := by
  by_cases h : r' = r
  · subst h
    simp [Session.drop]
  · simp [Session.drop, h]

theorem requests_drop_some {r' : RequestId} (h : (s.drop r).requests r' = some q) :
    r' ≠ r ∧ s.requests r' = some q := by
  rw [requests_drop] at h
  by_cases he : r' = r
  · rw [if_pos he] at h
    cases h
  · rw [if_neg he] at h
    exact ⟨he, h⟩

theorem lock_drop_of_ne {r' : RequestId} (h : s.lock = some r') (hne : r' ≠ r) :
    (s.drop r).lock = some r' := by
  simp [Session.drop, h, hne]

theorem lock_drop {r' : RequestId} (h : (s.drop r).lock = some r') :
    s.lock = some r' ∧ r' ≠ r := by
  by_cases hr : s.lock = some r
  · simp [Session.drop, hr] at h
  · have hlock : s.lock = some r' := by simpa [Session.drop, hr] using h
    refine ⟨hlock, ?_⟩
    rintro rfl
    exact hr hlock

/-- While no other request calls the provider, at most one does after `put`. -/
theorem single_put (only : ∀ r' v f, r' ≠ r → s.requests r' ≠ some ⟨v, .calling f⟩) :
    ∀ r₁ r₂ v v' f f', (s.put r q).requests r₁ = some ⟨v, .calling f⟩ →
      (s.put r q).requests r₂ = some ⟨v', .calling f'⟩ → r₁ = r₂ := by
  have caller : ∀ r' v f, (s.put r q).requests r' = some ⟨v, .calling f⟩ → r' = r := by
    intro r' v f hq
    by_contra hne
    rw [requests_put, if_neg hne] at hq
    exact only r' v f hne hq
  intro r₁ r₂ v v' f f' h₁ h₂
  rw [caller r₁ v f h₁, caller r₂ v' f' h₂]

/-- A request can end at any time. -/
theorem Sound.drop (h : Sound cfg accounts m s) (r : RequestId) :
    Sound cfg accounts m (s.drop r) where
  origin := h.origin
  requests := by
    intro r' q' hq
    obtain ⟨hne, hold⟩ := requests_drop_some hq
    have hs := h.requests r' q' hold
    exact ⟨hs.same, fun hl => lock_drop_of_ne (hs.locks hl) hne, hs.phase⟩
  locked := by
    intro r' hl
    obtain ⟨hlock, hne⟩ := lock_drop hl
    obtain ⟨q', hq, hlocks⟩ := h.locked r' hlock
    refine ⟨q', ?_, hlocks⟩
    rw [requests_drop, if_neg hne]
    exact hq
  single := by
    intro r₁ r₂ v v' f f' h₁ h₂
    exact h.single _ _ _ _ _ _ (requests_drop_some h₁).2 (requests_drop_some h₂).2
  calls := h.calls
  row := h.row

/-- A request goes on to a phase that is sound, with the lock it needs. -/
theorem Sound.put (h : Sound cfg accounts m s) (lock : Option RequestId)
    (sound : RequestSound cfg m { s.put r q with lock := lock } r q)
    (holder : lock = some r → q.phase.locks = true)
    (others : ∀ r', r' ≠ r → (lock = some r' ↔ s.lock = some r'))
    (alone : ∀ f, q.phase = .calling f → ∀ r' v' f',
      s.requests r' = some ⟨v', .calling f'⟩ → r' = r) :
    Sound cfg accounts m { s.put r q with lock := lock } where
  origin := h.origin
  requests := by
    intro r' q' hq
    rw [requests_put] at hq
    by_cases he : r' = r
    · subst he
      rw [if_pos rfl] at hq
      cases hq
      exact sound
    · rw [if_neg he] at hq
      have hs := h.requests r' q' hq
      exact ⟨hs.same, fun hl => (others r' he).mpr (hs.locks hl), hs.phase⟩
  locked := by
    intro r' hl
    by_cases he : r' = r
    · subst he
      exact ⟨q, by simp [requests_put], holder hl⟩
    · obtain ⟨q', hq, hlocks⟩ := h.locked r' ((others r' he).mp hl)
      refine ⟨q', ?_, hlocks⟩
      rw [requests_put, if_neg he]
      exact hq
  single := by
    intro r₁ r₂ v v' f f' h₁ h₂
    rw [requests_put] at h₁ h₂
    by_cases e₁ : r₁ = r
    · rw [if_pos e₁] at h₁
      by_cases e₂ : r₂ = r
      · rw [e₁, e₂]
      · rw [if_neg e₂] at h₂
        have hphase : q.phase = .calling f := by
          cases h₁
          rfl
        exact e₁.trans (alone f hphase r₂ v' f' h₂).symm
    · rw [if_neg e₁] at h₁
      by_cases e₂ : r₂ = r
      · rw [if_pos e₂] at h₂
        have hphase : q.phase = .calling f' := by
          cases h₂
          rfl
        exact (alone f' hphase r₁ v f h₁).trans e₂.symm
      · rw [if_neg e₂] at h₂
        exact h.single _ _ _ _ _ _ h₁ h₂
  calls := h.calls
  row := h.row

/-- While no transaction is open, every request is registered or calls the provider. -/
theorem Sound.unlocked (h : Sound cfg accounts m s) (free : s.lock = none)
    (hq : s.requests r = some q) : q.phase.locks = false := by
  by_contra hc
  have hlock := (h.requests r q hq).locks (by simpa using hc)
  rw [free] at hlock
  cases hlock

theorem phase_of_unlocked (h : q.phase.locks = false) :
    q.phase = .registered ∨ ∃ f, q.phase = .calling f := by
  cases hp : q.phase with
  | registered => exact Or.inl rfl
  | allocating retrying untried =>
    rw [hp] at h
    cases h
  | reserving reserved retrying =>
    rw [hp] at h
    cases h
  | calling f => exact Or.inr ⟨f, rfl⟩

/-- A row with the same identity still says what the request asks for. -/
theorem same_of_identity {row : Meeting} {values : CreateValues} (same : row.identity = m.identity)
    (h : m.identity = values.identity m.integrationClient) :
    row.identity = values.identity row.integrationClient := by
  have hclient : row.integrationClient = m.integrationClient := congrArg Identity.client same
  rw [same, hclient]
  exact h

/-- A commit for the same meeting keeps its calls sound. -/
theorem CallsSound.rewrite {row : Meeting} {history history' : History}
    {calls : CallId → Option Call} (h : CallsSound m history calls)
    (same : row.identity = m.identity)
    (kept : ∀ p, history.provisioned = some p → history'.provisioned = some p)
    (uncalled : row.status.uncalled = true → NoOpenCall calls) :
    CallsSound row history' calls where
  single := h.single
  created := h.created
  key := by
    intro i c hi
    have hclient : row.integrationClient = m.integrationClient := congrArg Identity.client same
    have hclass : row.externalClassId = m.externalClassId := congrArg Identity.classId same
    rw [hclient, hclass]
    exact h.key i c hi
  provisioned := fun i c hi => kept _ (h.provisioned i c hi)
  uncalled := uncalled

/-- Save a row while no transaction is open. What a flight needs, what a call needs and
the row's own conditions are the new row's part. -/
theorem Sound.save (h : Sound cfg accounts m s) {row : Meeting} {history : History}
    (free : s.lock = none) (same : row.identity = m.identity)
    (origin : history.origin = s.history.origin)
    (provisioned : history.provisioned = s.history.provisioned)
    (flights : ∀ r v f, s.requests r = some ⟨v, .calling f⟩ → row.status.inFlight = true)
    (uncalled : row.status.uncalled = true → NoOpenCall s.calls)
    (rowSound : RowSound cfg accounts row history) :
    Sound cfg accounts row { s with history := history } where
  origin := by
    obtain ⟨client, values, ho, hid⟩ := h.origin
    exact ⟨client, values, origin.trans ho, same.trans hid⟩
  requests := by
    intro r q hq
    have hs := h.requests r q hq
    refine ⟨same_of_identity same hs.same, hs.locks, ?_⟩
    obtain ⟨values, phase⟩ := q
    rcases phase_of_unlocked (h.unlocked free hq) with hp | ⟨f, hp⟩
    · simp only at hp
      subst hp
      trivial
    · simp only at hp
      subst hp
      have hf : FlightSound m s.calls s.history f := hs.phase
      exact ⟨flights r values f hq, provisioned.trans hf.provisioned, hf.stage⟩
  locked := h.locked
  single := h.single
  calls := h.calls.rewrite same (fun _ hp => provisioned.trans hp) uncalled
  row := rowSound

end Sessions

section Calls
variable {calls : CallId → Option Call} {id : CallId} {call : Call}

theorem update_call {i : CallId} {c : Call}
    (h : Function.update calls id (some call) i = some c) :
    (i = id ∧ c = call) ∨ (i ≠ id ∧ calls i = some c) := by
  by_cases he : i = id
  · subst he
    rw [Function.update_self] at h
    cases h
    exact Or.inl ⟨rfl, rfl⟩
  · rw [Function.update_of_ne he] at h
    exact Or.inr ⟨he, h⟩

/-- Recording that a call created its meeting opens and closes nothing. -/
theorem NoOpenCall.record (h : NoOpenCall calls) (stored : calls id = some call)
    {call' : Call} (same : call'.rejected = call.rejected) :
    NoOpenCall (Function.update calls id (some call')) := by
  intro i c hc
  rcases update_call hc with ⟨_, rfl⟩ | ⟨_, hold⟩
  · rw [same]
    exact h id call stored
  · exact h i c hold

theorem StageSound.record {stage : Stage} (h : StageSound calls stage)
    (stored : calls id = some call) {call' : Call} (same : call'.rejected = call.rejected) :
    StageSound (Function.update calls id (some call')) stage := by
  cases stage with
  | token again => exact NoOpenCall.record h stored same
  | start again token => exact NoOpenCall.record h stored same
  | waiting again token id' =>
    intro i c hc hopen
    rcases update_call hc with ⟨rfl, rfl⟩ | ⟨_, hold⟩
    · rw [same] at hopen
      exact h i call stored hopen
    · exact h i c hold hopen
  | failed e =>
    intro definite
    exact NoOpenCall.record (h definite) stored same
  | succeeded data token => exact h

/-- Once the only open call is rejected, no call is open. -/
theorem NoOpenCall.reject (only : ∀ i c, calls i = some c → c.rejected = false → i = id)
    {call' : Call} (rejected : call'.rejected = true) :
    NoOpenCall (Function.update calls id (some call')) := by
  intro i c hc
  rcases update_call hc with ⟨_, rfl⟩ | ⟨hne, hold⟩
  · exact rejected
  · by_contra hopen
    exact hne (only i c hold (by simpa using hopen))

end Calls
end MeetingGateway
