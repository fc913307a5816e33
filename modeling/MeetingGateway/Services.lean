import MeetingGateway.Allocation
import MeetingGateway.Convay

/-!
# Creation and cancellation

`apps/meetings/services.py`, transaction by transaction: registration, the gate and the
payload snapshot of the first transaction, the two final transactions and `cancel`. Each
function computes the row its transaction saves from the row it holds under lock.
-/

namespace MeetingGateway

structure Reference where
  id : String
  name : String
  deriving DecidableEq

structure ClassInfo where
  id : String
  date : Int
  deriving DecidableEq

/-- `serializer.validated_data`: the times are aware and in order. -/
structure CreateValues where
  meetingTitle : String
  teacher : Reference
  batch : Reference
  classInfo : ClassInfo
  startAt : Datetime
  endAt : Datetime
  aware : startAt.isNaive = false ∧ endAt.isNaive = false
  ordered : startAt.lt endAt = true

/-- The row `get_or_create` inserts. The validated data has no `scheduleType`. -/
def CreateValues.draft (values : CreateValues) (pk : MeetingId) (client : ClientId)
    (now : Int) : Meeting where
  id := pk
  integrationClient := client
  externalClassId := values.classInfo.id
  teacherId := values.teacher.id
  teacherName := values.teacher.name
  batchId := values.batch.id
  batchName := values.batch.name
  meetingTitle := values.meetingTitle
  classDate := values.classInfo.date
  scheduleType := "SCHEDULED"
  startAt := some values.startAt.instant
  endAt := some values.endAt.instant
  room := none
  reservation := none
  reservationActive := false
  providerMeetingType := "INSTANT"
  providerCalendarId := none
  providerUniqueId := none
  providerPanelAddress := none
  encryptedProviderStartUrl := none
  encryptedProviderPayload := none
  status := .draft
  providerCreatedAt := none
  lastProviderError := none
  updatedAt := now
  cancelledAt := none

/-- A stored time is compared only if it is not null; it comes back from the database in UTC. -/
def sameTime (stored : Option Int) (requested : Datetime) : Bool :=
  match stored with
  | none => true
  | some t => (Datetime.utc t).eq requested

/-- One of the times is ambiguous: it equals no time of another zone. -/
def CreateValues.ambiguous (values : CreateValues) : Bool :=
  values.startAt.ambiguous || values.endAt.ambiguous

/-- No field of `expected` differs from the row. -/
def Meeting.sameRequest (m : Meeting) (values : CreateValues) : Bool :=
  decide (m.meetingTitle = values.meetingTitle) && decide (m.teacherId = values.teacher.id) &&
    decide (m.teacherName = values.teacher.name) && decide (m.batchId = values.batch.id) &&
    decide (m.batchName = values.batch.name) && decide (m.classDate = values.classInfo.date) &&
    sameTime m.startAt values.startAt && sameTime m.endAt values.endAt

/-- The row belongs to this client and class. -/
def Meeting.keyed (client : ClientId) (classId : String) (m : Meeting) : Bool :=
  decide (m.integrationClient = client) && decide (m.externalClassId = classId)

def existingMeetingMismatch : GatewayError :=
  ⟨.existingMeetingMismatch, "Original meeting request data differs.", 409⟩

/-- The meeting and whether it is new; a new row is inserted with key `pk`. The clocks of its
times are in order, but the CHECK constraint is about their instants. -/
def register (store : Store) (pk : MeetingId) (client : ClientId) (values : CreateValues)
    (now : Int) : Except Raised (Meeting × Bool) :=
  match store.meetings.rows.filter (Meeting.keyed client values.classInfo.id) with
  | [] =>
    if (values.draft pk client now).checks then .ok (values.draft pk client now, true)
    else .error (.python .integrityError)
  | [m] =>
    if m.sameRequest values then .ok (m, false)
    else .error (.gateway existingMeetingMismatch)
  | _ => .error (.gateway
      ⟨.existingMeetingRequiresReview, "Existing meeting records require operator review.", 409⟩)

/-- What the first transaction does with the locked row. -/
inductive Gate where
  | replay
  | resume
  | allocate (retrying : Bool)
  deriving DecidableEq

def Meeting.hasProviderFields (m : Meeting) : Bool :=
  present m.providerCalendarId || present m.providerUniqueId || present m.providerPanelAddress ||
    m.encryptedProviderStartUrl.isSome

def classDateMismatch : GatewayError :=
  ⟨.classDateMismatch, "The start date in the service timezone must match the class date.", 400⟩

/-- Every status is one of those the source lists, so its last branch, which asks for a
review of any other status, is not reached. -/
def provisionGate (locked : Meeting) (values : CreateValues) : Except GatewayError Gate :=
  match locked.status with
  | .ready | .live => .ok .replay
  | .reserved | .provisioning => .error
      ⟨.creationInProgress, "Meeting creation is already in progress.", 409⟩
  | .providerStateUnknown | .providerResponseInvalid => .error
      ⟨.providerReconciliationRequired,
        "Review the existing provider outcome before creating again.", 409⟩
  | .ended => .error ⟨.classAlreadyCompleted, "This class has already completed.", 409⟩
  | .nonRetryableFailed => .error
      ⟨.previousCreationFailed, "Previous creation failed; operator review is required.", 409⟩
  | .failed => .error
      ⟨.previousCreationFailed,
        "Previous meeting creation failed; operator review is required.", 409⟩
  | .cancelled => .error ⟨.classCancelled, "This class has been cancelled.", 409⟩
  | .draft =>
    if values.startAt.date ≠ locked.classDate then .error classDateMismatch
    else .ok (.allocate false)
  | .retryableFailed =>
    if locked.hasProviderFields then .error
      ⟨.providerReconciliationRequired,
        "Existing provider fields require review before another creation.", 409⟩
    else if values.startAt.date ≠ locked.classDate then .error classDateMismatch
    else if locked.reservationActive && locked.room.isSome then .ok .resume
    else .ok (.allocate true)

/-- The uncommitted save before the allocator runs. -/
def Meeting.toDraft (locked : Meeting) (now : Int) : Meeting :=
  { locked with status := .draft, updatedAt := now }

/-- The snapshot of an earlier attempt, or a fresh merge of the three layers. -/
def creationConfig (cfg : Settings) (store : Store) (reserved : Meeting) (retrying : Bool) :
    Except PyError JsonObject :=
  match (if retrying then reserved.encryptedProviderPayload else none) with
  | some snapshot => decrypt cfg.keyring snapshot
  | none =>
    match reserved.room.bind store.room? with
    | some room => resolveConfig cfg store.systemPreset
        (store.clientPreset reserved.integrationClient) room.defaultMeetingConfig
    | none => .error .unexpected

/-- Convay's contract wants `title` in place of the gateway's `meetingTitle`. -/
def withTitle (config : JsonObject) (title : String) : JsonObject :=
  (config.erase "meetingTitle").set "title" (.str title)

def Meeting.toProvisioning (cfg : Settings) (reserved : Meeting) (payload : JsonObject)
    (meetingType : String) (now : Int) : Meeting :=
  { reserved with
    providerMeetingType := upper meetingType
    encryptedProviderPayload := some (encryptDumps cfg.keyring payload)
    status := .provisioning
    updatedAt := now }

/-- The row the first transaction commits and the payload of its provider calls. -/
def provisioning (cfg : Settings) (store : Store) (reserved : Meeting) (retrying : Bool)
    (now : Int) : Except Raised (Meeting × JsonObject) :=
  match creationConfig cfg store reserved retrying with
  | .error e => .error (.python e)
  | .ok config =>
    let payload := withTitle config reserved.meetingTitle
    match payload.get? "meetingType" with
    | none => .error (.python .keyError)
    | some (.str type) =>
      if type = "scheduled" then .error (.gateway ⟨.providerContractUnconfirmed,
        "Scheduled provider payload requires confirmed Convay timestamp fields.", 422⟩)
      else .ok (reserved.toProvisioning cfg payload type now, payload)
    | some _ => .error (.python .unexpected)

/-- What `get_token` can do: return a token, raise a `ProviderError` (of its own or of the
authentication call, which is no creation and so never ambiguous), or let an exception of
the cache or of a decryption escape. -/
inductive TokenOutcome where
  | issued (token : ProviderAuthResult)
  | refused (code : ProviderCode) (statusCode : Option Nat)
  | escaped (e : PyError)

def TokenOutcome.result : TokenOutcome → Except Raised ProviderAuthResult
  | .issued token => .ok token
  | .refused code statusCode => .error (.provider { code := code, statusCode := statusCode })
  | .escaped e => .error (.python e)

/-- The definite failures after which the creation may be tried again. -/
def ProviderCode.retryable : ProviderCode → Bool
  | .providerUnavailable | .providerRateLimited | .providerAuthBusy => true
  | _ => false

def failedStatus (e : ProviderError) : Status :=
  if e.ambiguous then .providerStateUnknown
  else if e.code.retryable then .retryableFailed
  else .nonRetryableFailed

/-- The error transaction. It writes whatever status the row has meanwhile. -/
def Meeting.recordFailure (current : Meeting) (e : ProviderError) (now : Int) : Meeting :=
  match e.providerResult with
  | some result =>
    { current with
      status := .providerResponseInvalid
      reservationActive := true
      providerCalendarId := some result.calendarId
      providerUniqueId := result.uniqueId
      providerPanelAddress := result.meetingPanelAddress
      providerCreatedAt := some now
      lastProviderError := some (.code e.code)
      updatedAt := now }
  | none =>
    { current with
      status := failedStatus e
      reservationActive := e.ambiguous || decide (failedStatus e = .retryableFailed)
      lastProviderError := some (.code e.code)
      updatedAt := now }

/-- The response to the client after the error transaction. -/
def providerFailure (e : ProviderError) : GatewayError where
  code := .provider e.code
  message :=
    if e.knownCreated then
      "Convay created the meeting, but its response could not be fully " ++
        "validated; reservation retained."
    else if e.ambiguous then "Provider creation outcome is unknown; reservation retained."
    else match e.code with
      | .providerValidationError => "Convay rejected the meeting payload."
      | .providerRateLimited => "Convay rate limited the request."
      | .providerUnavailable => "Convay is currently unavailable."
      | _ => "Provider authentication or creation failed."
  status := match e.code with
    | .providerValidationError => 422
    | .providerRateLimited => 503
    | .providerUnavailable => 503
    | _ => 502

/-- `stored or new`. -/
def orElse (stored new : Option String) : Option String := if present stored then stored else new

/-- The statuses in which a late success may still fill the row. -/
def Status.awaitsOutcome : Status → Bool
  | .provisioning | .providerStateUnknown => true
  | _ => false

/-- `stored or (encrypt(new) if new else None)`. -/
def Meeting.startUrl (cfg : Settings) (current : Meeting) (data : ProviderMeetingResult) :
    Except PyError (Option (Stored String)) :=
  match current.encryptedProviderStartUrl, data.startMeetingUrl with
  | some stored, _ => .ok (some stored)
  | none, some new => if new = "" then .ok none else (encrypt cfg new).map some
  | none, none => .ok none

def Meeting.toReady (current : Meeting) (data : ProviderMeetingResult)
    (startUrl : Option (Stored String)) (now : Int) : Meeting :=
  { current with
    providerCalendarId := orElse current.providerCalendarId (some data.calendarId)
    providerUniqueId := orElse current.providerUniqueId data.uniqueId
    providerPanelAddress := orElse current.providerPanelAddress data.meetingPanelAddress
    encryptedProviderStartUrl := startUrl
    providerCreatedAt := some now
    status := .ready
    lastProviderError := none
    updatedAt := now }

/-- The success transaction. -/
def Meeting.recordSuccess (cfg : Settings) (current : Meeting) (data : ProviderMeetingResult)
    (now : Int) : Except Raised Meeting :=
  if !current.status.awaitsOutcome then .error (.gateway
    ⟨.providerReconciliationRequired,
      "An operator changed the meeting during creation; review provider state.", 409⟩)
  else
    match current.startUrl cfg data with
    | .error e => .error (.python e)
    | .ok startUrl => .ok (current.toReady data startUrl now)

def Status.cancellable : Status → Bool
  | .draft | .reserved | .failed | .retryableFailed | .nonRetryableFailed => true
  | _ => false

def Meeting.toCancelled (current : Meeting) (now : Int) : Meeting :=
  { current with
    status := .cancelled
    reservationActive := false
    cancelledAt := some now
    updatedAt := now }

/-- `cancel`; a meeting that is cancelled already is not saved again. -/
def Meeting.cancel (current : Meeting) (now : Int) : Except GatewayError Meeting :=
  if current.status = .cancelled then .ok current
  else if !current.status.cancellable then .error
    ⟨.providerReconciliationRequired,
      "Confirm provider termination through operations before releasing this reservation.", 409⟩
  else .ok (current.toCancelled now)

/-- A READY or LIVE meeting, and no other, is replayed. -/
theorem provisionGate_replay {locked : Meeting} {values : CreateValues} :
    provisionGate locked values = .ok .replay ↔ locked.status = .ready ∨ locked.status = .live := by
  unfold provisionGate
  cases locked.status with
  | draft =>
    dsimp only
    split <;> simp
  | retryableFailed =>
    dsimp only
    split
    · simp
    · split
      · simp
      · split <;> simp
  | _ => simp

theorem provisionGate_resume {locked : Meeting} {values : CreateValues}
    (h : provisionGate locked values = .ok .resume) :
    locked.status = .retryableFailed ∧ locked.hasProviderFields = false ∧
      values.startAt.date = locked.classDate ∧ locked.reservationActive = true ∧
      locked.room.isSome = true := by
  unfold provisionGate at h
  split at h
  any_goals cases h
  · split at h
    · cases h
    · cases h
  · rename_i hstatus
    split at h
    · cases h
    · rename_i hfields
      split at h
      · cases h
      · rename_i hdate
        split at h
        · rename_i hretained
          obtain ⟨hactive, hroom⟩ := Bool.and_eq_true_iff.mp hretained
          exact ⟨hstatus, by simpa using hfields, not_not.mp hdate, hactive, hroom⟩
        · cases h

theorem provisionGate_allocate {locked : Meeting} {values : CreateValues} {retrying : Bool}
    (h : provisionGate locked values = .ok (.allocate retrying)) :
    (locked.status = .draft ∧ retrying = false) ∨
      (locked.status = .retryableFailed ∧ retrying = true ∧
        (locked.reservationActive && locked.room.isSome) = false) := by
  unfold provisionGate at h
  split at h
  any_goals cases h
  · rename_i hstatus
    split at h
    · cases h
    · cases h
      exact Or.inl ⟨hstatus, rfl⟩
  · rename_i hstatus
    split at h
    · cases h
    · split at h
      · cases h
      · split at h
        · cases h
        · rename_i hretained
          cases h
          exact Or.inr ⟨hstatus, rfl, by simpa using hretained⟩

theorem provisioning_ok {cfg : Settings} {store : Store} {reserved row : Meeting}
    {retrying : Bool} {now : Int} {payload : JsonObject}
    (h : provisioning cfg store reserved retrying now = .ok (row, payload)) :
    ∃ config type, creationConfig cfg store reserved retrying = .ok config ∧
      payload = withTitle config reserved.meetingTitle ∧
      row = reserved.toProvisioning cfg payload type now := by
  unfold provisioning at h
  split at h
  · cases h
  · rename_i config hconfig
    dsimp only at h
    split at h
    · cases h
    · rename_i type _
      split at h
      · cases h
      · cases h
        exact ⟨config, type, hconfig, rfl, rfl⟩
    · cases h

/-- A retry reads its own snapshot back. -/
theorem creationConfig_snapshot {cfg : Settings} (store : Store) {reserved : Meeting}
    {payload : JsonObject}
    (h : reserved.encryptedProviderPayload = some (encryptDumps cfg.keyring payload)) :
    creationConfig cfg store reserved true = .ok payload := by
  simp [creationConfig, h]

/-- Sending a stored payload again sends the same payload. -/
theorem withTitle_twice (config : JsonObject) (title : String) :
    withTitle (withTitle config title) title = withTitle config title := by
  have absent : (withTitle config title).get? "meetingTitle" = none := by
    simp [withTitle, OrderedDict.get?_set, OrderedDict.get?_erase]
  have titled : (withTitle config title).get? "title" = some (.str title) := by
    simp [withTitle, OrderedDict.get?_set]
  calc withTitle (withTitle config title) title
      = (withTitle config title).set "title" (.str title) := by
        rw [withTitle, OrderedDict.erase_of_absent absent]
    _ = withTitle config title := OrderedDict.set_of_present titled

theorem recordSuccess_ok {cfg : Settings} {current row : Meeting} {data : ProviderMeetingResult}
    {now : Int} (h : current.recordSuccess cfg data now = .ok row) :
    current.status.awaitsOutcome = true ∧ ∃ startUrl, current.startUrl cfg data = .ok startUrl ∧
      row = current.toReady data startUrl now := by
  unfold Meeting.recordSuccess at h
  split at h
  · cases h
  · rename_i hawaits
    split at h
    · cases h
    · rename_i startUrl hurl
      cases h
      exact ⟨by simpa using hawaits, startUrl, hurl, rfl⟩

/-- The start URL that the row gets can be encrypted. -/
def Meeting.sealsUrl (cfg : Settings) (current : Meeting) (data : ProviderMeetingResult) : Bool :=
  current.encryptedProviderStartUrl.isSome || data.startMeetingUrl.all cfg.encodable

theorem startUrl_iff {cfg : Settings} {current : Meeting} {data : ProviderMeetingResult} :
    (∃ startUrl, current.startUrl cfg data = .ok startUrl) ↔
      current.sealsUrl cfg data = true := by
  unfold Meeting.startUrl Meeting.sealsUrl
  cases hstored : current.encryptedProviderStartUrl with
  | some stored => simp
  | none =>
    cases hnew : data.startMeetingUrl with
    | none => simp
    | some new =>
      by_cases hempty : new = ""
      · simp [hempty, Settings.encodable]
      · by_cases hencodable : cfg.encodable new = true
        · simp [hempty, encrypt, hencodable, Except.map]
        · simp [hempty, encrypt, hencodable, Except.map]

theorem cancel_ok {current row : Meeting} {now : Int} (h : current.cancel now = .ok row) :
    (current.status = .cancelled ∧ row = current) ∨
      (current.status.cancellable = true ∧ row = current.toCancelled now) := by
  unfold Meeting.cancel at h
  split at h
  · rename_i hstatus
    cases h
    exact Or.inl ⟨hstatus, rfl⟩
  · split at h
    · cases h
    · rename_i hcancellable
      cases h
      exact Or.inr ⟨by simpa using hcancellable, rfl⟩

end MeetingGateway
