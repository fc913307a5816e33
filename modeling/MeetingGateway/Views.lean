import MeetingGateway.Serializers
import MeetingGateway.System
import MeetingGateway.Availability

/-!
# The create endpoint

`MeetingListView.post` for a request that runs alone: the scope, the body, `register`, all
of `provision` and the response, with the error handler of `common/exceptions.py`. What
comes from outside is given: the new key, the clock, the provider's answers and
the outcomes of the token cache.
-/

namespace MeetingGateway

/-- What a request meets outside. `dropped` and `invalidated` are the deletions of the cached
token after the first 401 and after a 401 that ends the request. -/
structure Outside where
  pk : MeetingId
  now : Int
  token : TokenOutcome
  start : HttpResult
  dropped : Except PyError Unit
  forcedToken : TokenOutcome
  secondStart : HttpResult
  invalidated : Except PyError Unit
  viewToken : TokenOutcome

/-- The calls to the provider, with one authentication more after a 401. -/
def providerCalls (cfg : Settings) (out : Outside) :
    Except Raised (ProviderMeetingResult × ProviderAuthResult) :=
  match out.token.result with
  | .error e => .error e
  | .ok token =>
    match startMeeting cfg out.start with
    | .ok data => .ok (data, token)
    | .error (.provider e) =>
      if e.statusCode ≠ some 401 then .error (.provider e)
      else
        match out.dropped with
        | .error e => .error (.python e)
        | .ok () =>
          match out.forcedToken.result with
          | .error e => .error e
          | .ok token => (startMeeting cfg out.secondStart).map fun data => (data, token)
    | .error e => .error e

/-- `save()`: a text its column does not take comes before any constraint. For a lone surrogate
the driver raises `UnicodeEncodeError`, which ends the request just as `DataError` does. -/
def Store.commit (cfg : Settings) (s : Store) (row : Meeting) : Except Raised Store :=
  if !row.fitsColumns cfg then .error (.python .dataError)
  else (s.save row).mapError fun _ => .python .integrityError

abbrev Provision := Except Raised (Meeting × Option ProviderAuthResult) × Store

/-- The calls and the final transaction. -/
def finishProvision (cfg : Settings) (store : Store) (current : Meeting) (out : Outside) :
    Provision :=
  match providerCalls cfg out with
  | .ok (data, token) =>
    match current.recordSuccess cfg data out.now with
    | .error e => (.error e, store)
    | .ok row =>
      match store.commit cfg row with
      | .error e => (.error e, store)
      | .ok store' => (.ok (row, some token), store')
  | .error (.provider e) =>
    match (if e.statusCode = some 401 then out.invalidated else .ok ()) with
    | .error err => (.error (.python err), store)
    | .ok () =>
      match store.commit cfg (current.recordFailure e out.now) with
      | .error err => (.error err, store)
      | .ok store' => (.error (.gateway (providerFailure e)), store')
  | .error e => (.error e, store)

/-- The PROVISIONING commit and what follows it. -/
def commitProvision (cfg : Settings) (store : Store) (reserved : Meeting) (retrying : Bool)
    (out : Outside) : Provision :=
  match provisioning cfg store reserved retrying out.now with
  | .error e => (.error e, store)
  | .ok (row, _) =>
    match store.commit cfg row with
    | .error e => (.error e, store)
    | .ok store' => finishProvision cfg store' row out

/-- An error of the first transaction rolls the draft save back. -/
def provision (cfg : Settings) (store : Store) (locked : Meeting) (values : CreateValues)
    (out : Outside) : Provision :=
  match provisionGate locked values with
  | .error e => (.error (.gateway e), store)
  | .ok .replay => (.ok (locked, none), store)
  | .ok .resume => commitProvision cfg store locked true out
  | .ok (.allocate retrying) =>
    match allocateAnyRoom cfg (store.putMeeting (locked.toDraft out.now)) locked.id values.startAt
        values.endAt out.now with
    | .error e => (.error e, store)
    | .ok reserved => commitProvision cfg store reserved retrying out

/-- What the view can raise; a parse error of the body brings the parser's message. -/
inductive ApiError where
  | parse (message : String)
  | unsupportedMediaType (message : String)
  | validation (detail : Detail)
  | notFound
  | raised (e : Raised)

/-- The body as the framework's parsers leave it. A form has texts only, and no form field
reaches a nested serializer. -/
inductive RequestBody where
  | unparsable (message : String)
  | unsupported (message : String)
  | json (data : Json)
  | form (entries : OrderedDict String String)

def RequestBody.data : RequestBody → Except ApiError Json
  | .unparsable message => .error (.parse message)
  | .unsupported message => .error (.unsupportedMediaType message)
  | .json data => .ok data
  | .form entries => .ok (.obj ((entries.filter fun entry =>
      !(["teacher", "batch", "class"].contains entry.1)).map fun entry => (entry.1, .str entry.2)))

structure PostRequest where
  client : ClientId
  scopes : List String
  body : RequestBody

def insufficientScope : GatewayError :=
  ⟨.insufficientScope, "Required scope is missing.", 403⟩

/-- `representation`: the row, and with a token the authorization and the start URL. -/
structure MeetingData where
  meeting : Meeting
  authorization : Option ProviderAuthResult
  startMeetingUrl : Option String

def representation (cfg : Settings) (m : Meeting) (token : Option ProviderAuthResult) :
    Except PyError MeetingData :=
  match token, m.encryptedProviderStartUrl with
  | some token, some url => (decrypt cfg.keyring url).map fun url => ⟨m, some token, some url⟩
  | token, _ => .ok ⟨m, token, none⟩

/-- The response's token: only for a client that may have it, and fetched for a replay. -/
def responseToken (request : PostRequest) (token : Option ProviderAuthResult) (out : Outside) :
    Except Raised (Option ProviderAuthResult) :=
  if request.scopes.contains "meeting:token" then
    match token with
    | some token => .ok (some token)
    | none => out.viewToken.result.map some
  else .ok none

/-- The meeting, whether it is new, and the store of a request that got through `register`. -/
def registered (store : Store) (request : PostRequest) (values : CreateValues) (out : Outside) :
    Except Raised (Meeting × Bool × Store) :=
  match register store out.pk request.client values out.now with
  | .error e => .error e
  | .ok (m, true) =>
    if fresh : store.meeting? m.id = none then .ok (m, true, store.insertMeeting m fresh)
    else .error (.python .integrityError)
  | .ok (m, false) => .ok (m, false, store)

def respond (cfg : Settings) (request : PostRequest) (created : Bool) (out : Outside) :
    Provision → Except ApiError (MeetingData × Nat) × Store
  | (.error e, store) => (.error (.raised e), store)
  | (.ok (current, token), store) =>
    match responseToken request token out with
    | .error e => (.error (.raised e), store)
    | .ok token =>
      match representation cfg current token with
      | .error e => (.error (.raised (.python e)), store)
      | .ok data => (.ok (data, if created then 201 else 200), store)

def MeetingListView.post (cfg : Settings) (drf : Drf) (store : Store) (request : PostRequest)
    (out : Outside) :
    Except ApiError (MeetingData × Nat) × Store :=
  if !request.scopes.contains "meeting:write" then
    (.error (.raised (.gateway insufficientScope)), store)
  else
    match request.body.data with
    | .error e => (.error e, store)
    | .ok data =>
      match createMeetingSerializer cfg drf data with
      | .error detail => (.error (.validation detail), store)
      | .ok values =>
        match registered store request values out with
        | .error e => (.error (.raised e), store)
        | .ok (m, created, store') => respond cfg request created out
            (provision cfg store' m values out)

structure TokenRequest where
  client : ClientId
  scopes : List String
  pk : MeetingId

/-- `get_object_or_404` over the client's own meetings. -/
def owned (store : Store) (request : TokenRequest) : Except ApiError Meeting :=
  match store.meeting? request.pk with
  | some m => if m.integrationClient = request.client then .ok m else .error .notFound
  | none => .error .notFound

structure TokenData where
  id : MeetingId
  calendarId : Option String
  authorization : ProviderAuthResult

def Status.hasToken : Status → Bool
  | .ready | .live => true
  | _ => false

def tokenFailure (e : ProviderError) : GatewayError where
  code := .provider e.code
  message := "Provider authentication failed."
  status := match e.code with
    | .providerRateLimited => 503
    | .providerUnavailable => 503
    | _ => 502

/-- `MeetingTokenView.post` with what `get_token` does. -/
def MeetingTokenView.post (store : Store) (request : TokenRequest) (token : TokenOutcome) :
    Except ApiError TokenData :=
  if !request.scopes.contains "meeting:token" then .error (.raised (.gateway insufficientScope))
  else
    match owned store request with
    | .error e => .error e
    | .ok m =>
      if !m.status.hasToken || m.room.isNone then .error (.raised (.gateway
        ⟨.invalidState, "Tokens are available only for ready or live meetings.", 409⟩))
      else
        match token.result with
        | .ok token => .ok ⟨m.id, m.providerCalendarId, token⟩
        | .error (.provider e) => .error (.raised (.gateway (tokenFailure e)))
        | .error e => .error (.raised e)

inductive ResponseCode where
  | requestError
  | parseError
  | unsupportedMediaType
  | invalid
  | internalError
  | gateway (code : ErrorCode)
  deriving DecidableEq

structure ErrorResponse where
  status : Nat
  code : ResponseCode
  message : String
  details : Detail

/-- `details` is the error's own data for a 400 and empty otherwise. -/
def errorDetails (status : Nat) (data : Detail) : Detail :=
  if status = 400 then data else .fields []

/-- An exception the framework does not know becomes an internal error. -/
def exceptionHandler : ApiError → ErrorResponse
  | .parse message => ⟨400, .parseError, "Request could not be processed.",
      errorDetails 400 (.fields [("detail", .text message)])⟩
  | .unsupportedMediaType message => ⟨415, .unsupportedMediaType,
      "Request could not be processed.", errorDetails 415 (.fields [("detail", .text message)])⟩
  | .validation detail => ⟨400, .invalid, "Request could not be processed.",
      errorDetails 400 detail⟩
  | .notFound => ⟨404, .requestError, "Request could not be processed.",
      errorDetails 404 (.fields [("detail", .text "No Meeting matches the given query.")])⟩
  | .raised (.gateway e) => ⟨e.status, .gateway e.code, e.message,
      errorDetails e.status (.fields [("detail", .text e.message)])⟩
  | .raised _ => ⟨500, .internalError, "An internal error occurred.", .fields []⟩

/-- The HTTP status of the answer. -/
def responseStatus : Except ApiError (MeetingData × Nat) → Nat
  | .ok (_, status) => status
  | .error e => (exceptionHandler e).status

def responseCode : Except ApiError (MeetingData × Nat) → Option ResponseCode
  | .ok _ => none
  | .error e => some (exceptionHandler e).code

def Raised.status : Raised → Nat
  | .gateway e => e.status
  | _ => 500

theorem responseStatus_raised (e : Raised) : responseStatus (.error (.raised e)) = e.status := by
  cases e <;> rfl

section Interval
variable {cfg : Settings}

theorem interval_error_status {start end_ : Datetime} {e : GatewayError}
    (h : interval cfg start end_ = .error e) : e.status = 400 ∧ e.code = .invalidInterval := by
  unfold interval at h
  split at h
  · cases h
    exact ⟨rfl, rfl⟩
  · split at h
    · cases h
    · cases h
      exact ⟨rfl, rfl⟩

/-- The buffered bounds of a request's times are dates that can be represented. -/
def CreateValues.fits (cfg : Settings) (values : CreateValues) : Bool :=
  Datetime.representable (values.startAt.wall - cfg.before) &&
    Datetime.representable (values.endAt.wall + cfg.after)

theorem interval_of_fits {values : CreateValues} (h : values.fits cfg = true) :
    ∃ slot, interval cfg values.startAt values.endAt = .ok slot :=
  interval_of_representable values.aware values.ordered (Bool.and_eq_true_iff.mp h)

theorem interval_of_not_fits {values : CreateValues} (h : values.fits cfg = false) :
    ∃ e, interval cfg values.startAt values.endAt = .error e := by
  unfold interval
  split
  · exact ⟨_, rfl⟩
  · split
    · rename_i lower upper hlower hupper
      unfold Datetime.add at hlower hupper
      split at hlower
      · rename_i hl
        split at hupper
        · rename_i hu
          have hneg : values.startAt.wall + -cfg.before = values.startAt.wall - cfg.before := by
            omega
          rw [hneg] at hl
          rw [CreateValues.fits, hl, hu] at h
          cases h
        · cases hupper
      · cases hlower
    · exact ⟨_, rfl⟩

end Interval

section Allocation
variable {cfg : Settings} {store : Store} {locked : Meeting} {values : CreateValues} {now : Int}

/-- No room finds a fault with the request itself. -/
theorem allocateAnyRoom_of_fits (stored : store.meeting? locked.id = some locked)
    (draft : locked.status = .draft) (fits : values.fits cfg = true) {e : Raised}
    (h : allocateAnyRoom cfg store locked.id values.startAt values.endAt now = .error e) :
    e.status ≠ 400 := by
  obtain ⟨slot, hslot⟩ := interval_of_fits fits
  rw [allocateAnyRoom_eq] at h
  rcases FirstFit.tryEach_fails h with rfl | ⟨room, hmem, herr⟩
  · decide
  · obtain ⟨hroom, active⟩ := Store.mem_activeRooms.mp hmem
    rw [reserveSpecificRoom_active hslot stored draft hroom active] at herr
    split at herr
    · cases herr
      decide
    · split at herr
      · cases herr
        simp [Raised.status]
      · cases herr
        simp [Raised.status]
      · split at herr
        · cases herr
        · cases herr
          simp [Raised.status]

theorem allocateAnyRoom_of_not_fits (fits : values.fits cfg = false)
    (active : ∃ room ∈ store.rooms.rows, room.isActive = true) (pk : MeetingId) (now : Int) :
    ∃ e, e.status = 400 ∧
      allocateAnyRoom cfg store pk values.startAt values.endAt now = .error (.gateway e) := by
  obtain ⟨e, he⟩ := interval_of_not_fits fits
  obtain ⟨hstatus, hcode⟩ := interval_error_status he
  obtain ⟨room, hmem, hactive⟩ := active
  refine ⟨e, hstatus, ?_⟩
  have hroom : room ∈ store.activeRooms := Store.mem_activeRooms.mpr ⟨hmem, hactive⟩
  rw [allocateAnyRoom_eq]
  cases hrooms : store.activeRooms with
  | nil =>
    rw [hrooms] at hroom
    cases hroom
  | cons first rest =>
    refine FirstFit.tryEach_stops ?_ (by simp [tryNextRoom, hcode])
    simp only [reserveSpecificRoom, reservedRow, he]

theorem allocateAnyRoom_no_room (inactive : ¬ ∃ room ∈ store.rooms.rows, room.isActive = true)
    (pk : MeetingId) (start end_ : Datetime) (now : Int) :
    allocateAnyRoom cfg store pk start end_ now = .error (.gateway noCapacity) := by
  have hnone : store.activeRooms = [] := by
    rw [List.eq_nil_iff_forall_not_mem]
    intro room hmem
    exact inactive ⟨room, Store.mem_activeRooms.mp hmem⟩
  rw [allocateAnyRoom_eq, hnone]
  rfl

end Allocation

-- Neither the adapter nor the token cache raises a `GatewayError`.
section Adapter
variable {cfg : Settings} {e : Raised}

theorem meetingData_status {body : JsonObject} (h : meetingData cfg body = .error e) :
    e.status = 500 := by
  unfold meetingData at h
  split at h
  · cases h
  · split at h
    · cases h
    all_goals
      cases h
      rfl
  · cases h
    rfl

theorem parseStartUrl_status {result : ProviderMeetingResult} {raw : Option Json}
    (h : parseStartUrl cfg result raw = .error e) : e.status = 500 := by
  unfold parseStartUrl at h
  split at h
  · dsimp only at h
    split at h
    · cases h
      rfl
    · split at h
      · cases h
      · cases h
        rfl
  · cases h
    rfl

theorem parseFields_status {data : JsonObject} (h : parseFields cfg data = .error e) :
    e.status = 500 := by
  unfold parseFields parseCreated at h
  split at h
  · cases h
    rfl
  · cases h
    rfl
  · split at h
    · cases h
      rfl
    · split at h
      · cases h
        rfl
      · split at h
        · cases h
          rfl
        · split at h
          · cases h
            rfl
          · exact parseStartUrl_status h

theorem parseMeeting_status {body : JsonObject} (h : parseMeeting cfg body = .error e) :
    e.status = 500 := by
  unfold parseMeeting at h
  split at h
  · cases h
    rfl
  · split at h
    · exact parseFields_status h
    · rename_i hdata
      cases h
      exact meetingData_status hdata

theorem startMeeting_status {result : HttpResult} (h : startMeeting cfg result = .error e) :
    e.status = 500 := by
  unfold startMeeting post at h
  split at h
  · split at h
    · cases h
      rfl
    · cases h
      rfl
  · cases h
    rfl
  · split at h
    · cases h
      rfl
    · split at h
      · cases h
      · cases h
        rfl
      · split at h
        · cases h
          rfl
        · cases h
          rfl
      · rename_i err hbody
        unfold parseBody at hbody
        split at hbody
        · cases hbody
        · cases h
          exact parseMeeting_status hbody
        · cases hbody

theorem token_status {outcome : TokenOutcome} (h : outcome.result = .error e) :
    e.status = 500 := by
  cases outcome with
  | issued token => cases h
  | refused code statusCode =>
    cases h
    rfl
  | escaped err =>
    cases h
    rfl

theorem providerCalls_status {out : Outside} (h : providerCalls cfg out = .error e) :
    e.status = 500 := by
  unfold providerCalls at h
  split at h
  · rename_i err htoken
    cases h
    exact token_status htoken
  · split at h
    · cases h
    · split at h
      · cases h
        rfl
      · split at h
        · cases h
          rfl
        · split at h
          · rename_i err htoken
            cases h
            exact token_status htoken
          · unfold Except.map at h
            split at h
            · rename_i err hstart
              cases h
              exact startMeeting_status hstart
            · cases h
    · rename_i err _ hstart
      cases h
      exact startMeeting_status hstart

end Adapter

section Provision
variable {cfg : Settings} {store : Store} {locked : Meeting} {values : CreateValues}
variable {out : Outside}

theorem commit_status {row : Meeting} {e : Raised} (h : store.commit cfg row = .error e) :
    e.status = 500 := by
  unfold Store.commit Except.mapError at h
  split at h
  · cases h
    rfl
  · split at h
    · cases h
      rfl
    · cases h

theorem providerFailure_status (e : ProviderError) : (providerFailure e).status ≠ 400 := by
  unfold providerFailure
  cases e.code <;> simp

/-- After the PROVISIONING commit nothing is reported as a bad request. -/
theorem finishProvision_status {current : Meeting} {e : Raised}
    (h : (finishProvision cfg store current out).1 = .error e) : e.status ≠ 400 := by
  have internal : ∀ err : Raised, err.status = 500 → err.status ≠ 400 := by
    intro err herr
    omega
  unfold finishProvision at h
  split at h
  · split at h
    · rename_i err herr
      cases h
      unfold Meeting.recordSuccess at herr
      split at herr
      · cases herr
        decide
      · split at herr
        · cases herr
          exact internal _ rfl
        · cases herr
    · split at h
      · rename_i err herr
        cases h
        exact internal _ (commit_status herr)
      · cases h
  · split at h
    · cases h
      exact internal _ rfl
    · split at h
      · rename_i err herr
        cases h
        exact internal _ (commit_status herr)
      · cases h
        exact providerFailure_status _
  · rename_i err hnot hcalls
    cases h
    exact internal _ (providerCalls_status hcalls)

theorem commitProvision_status {reserved : Meeting} {retrying : Bool} {e : Raised}
    (h : (commitProvision cfg store reserved retrying out).1 = .error e) : e.status ≠ 400 := by
  unfold commitProvision at h
  split at h
  · rename_i err herr
    cases h
    unfold provisioning at herr
    split at herr
    · cases herr
      simp [Raised.status]
    · dsimp only at herr
      split at herr
      · cases herr
        decide
      · split at herr
        · cases herr
          decide
        · cases herr
      · cases herr
        decide
  · split at h
    · rename_i err herr
      cases h
      rw [commit_status herr]
      decide
    · exact finishProvision_status h

/-- A bad request for a row that exists is found before anything is committed. -/
theorem provision_bad_unchanged {e : Raised}
    (h : (provision cfg store locked values out).1 = .error e) (bad : e.status = 400) :
    (provision cfg store locked values out).2 = store := by
  unfold provision at h ⊢
  split at h
  · rfl
  · cases h
  · exact absurd bad (commitProvision_status h)
  · split at h
    · rfl
    · exact absurd bad (commitProvision_status h)

/-- The requests that a new draft turns out to be bad for. -/
theorem provision_draft_bad (stored : store.meeting? locked.id = some locked)
    (draft : locked.status = .draft) {e : Raised}
    (h : (provision cfg store locked values out).1 = .error e) (bad : e.status = 400) :
    values.startAt.date ≠ locked.classDate ∨
      ((∃ room ∈ store.rooms.rows, room.isActive = true) ∧ values.fits cfg = false) := by
  by_cases hdate : values.startAt.date ≠ locked.classDate
  · exact Or.inl hdate
  · right
    have hgate : provisionGate locked values = .ok (.allocate false) := by
      simp only [provisionGate, draft, if_neg hdate]
    simp only [provision, hgate] at h
    split at h
    · rename_i err hallocate
      cases h
      have hview : (store.putMeeting (locked.toDraft out.now)).meeting?
          (locked.toDraft out.now).id = some (locked.toDraft out.now) :=
        Store.meeting?_putMeeting_self stored
      constructor
      · by_contra inactive
        rw [allocateAnyRoom_no_room (show ¬ ∃ room ∈ (store.putMeeting
          (locked.toDraft out.now)).rooms.rows, room.isActive = true from inactive)] at hallocate
        cases hallocate
        cases bad
      · by_contra hfits
        exact allocateAnyRoom_of_fits hview rfl (by simpa using hfits) hallocate bad
    · exact absurd bad (commitProvision_status h)

theorem provision_draft_refused (draft : locked.status = .draft)
    (refused : values.startAt.date ≠ locked.classDate ∨
      ((∃ room ∈ store.rooms.rows, room.isActive = true) ∧ values.fits cfg = false)) :
    ∃ e, e.status = 400 ∧ provision cfg store locked values out = (.error (.gateway e), store) := by
  by_cases hdate : values.startAt.date ≠ locked.classDate
  · refine ⟨classDateMismatch, rfl, ?_⟩
    simp only [provision, provisionGate, draft, if_pos hdate]
  · obtain ⟨active, fits⟩ := refused.resolve_left hdate
    have hgate : provisionGate locked values = .ok (.allocate false) := by
      simp only [provisionGate, draft, if_neg hdate]
    have hactive : ∃ room ∈ (store.putMeeting (locked.toDraft out.now)).rooms.rows,
        room.isActive = true := active
    obtain ⟨e, hstatus, hallocate⟩ := allocateAnyRoom_of_not_fits fits hactive locked.id out.now
    refine ⟨e, hstatus, ?_⟩
    simp only [provision, hgate, hallocate]

end Provision

section Post
variable {cfg : Settings} {drf : Drf} {store : Store} {request : PostRequest} {out : Outside}

theorem respond_store (created : Bool) (p : Provision) :
    (respond cfg request created out p).2 = p.2 := by
  unfold respond
  split
  · rfl
  · split
    · rfl
    · split
      · rfl
      · rfl

theorem responseToken_status {token : Option ProviderAuthResult} {e : Raised}
    (h : responseToken request token out = .error e) : e.status = 500 := by
  unfold responseToken at h
  split at h
  · split at h
    · cases h
    · unfold Except.map at h
      split at h
      · rename_i err htoken
        cases h
        exact token_status htoken
      · cases h
  · cases h

/-- The answer is a bad request only if `provision` raised one. -/
theorem respond_bad {created : Bool} {p : Provision}
    (bad : responseStatus (respond cfg request created out p).1 = 400) :
    ∃ e, p.1 = .error e ∧ e.status = 400 := by
  unfold respond at bad
  split at bad
  · rename_i e store'
    rw [responseStatus_raised] at bad
    exact ⟨e, rfl, bad⟩
  · split at bad
    · rename_i e htoken
      rw [responseStatus_raised, responseToken_status htoken] at bad
      cases bad
    · split at bad
      · rw [responseStatus_raised] at bad
        cases bad
      · unfold responseStatus at bad
        dsimp only at bad
        split at bad <;> cases bad

theorem draft_checks (values : CreateValues) (pk : MeetingId) (client : ClientId) (now : Int) :
    (values.draft pk client now).checks = true ↔
      values.startAt.instant < values.endAt.instant := by
  simp [Meeting.checks, Meeting.activeReservationComplete, Meeting.positiveMeetingInterval,
    Meeting.reservationRangeValid, CreateValues.draft]

theorem keyed_none {store : Store} {client : ClientId} {classId : String}
    (first : ∀ m ∈ store.meetings.rows, m.keyed client classId = false) :
    store.meetings.rows.filter (Meeting.keyed client classId) = [] := by
  rw [List.filter_eq_nil_iff]
  intro m hmem
  rw [first m hmem]
  exact Bool.false_ne_true

theorem register_first {store : Store} {client : ClientId} {values : CreateValues}
    (first : ∀ m ∈ store.meetings.rows, m.keyed client values.classInfo.id = false)
    (positive : values.startAt.instant < values.endAt.instant) (pk : MeetingId) (now : Int) :
    register store pk client values now = .ok (values.draft pk client now, true) := by
  simp only [register, keyed_none first, (draft_checks ..).mpr positive, if_true]

/-- The requests that are answered 400 after `register` has inserted their draft: the
first one for its class, from a client that may write, with values the serializer and the
insert's CHECK accept, whose start is on another date than the class or whose buffered bounds
no room can be asked about. -/
structure LeavesDraft (cfg : Settings) (drf : Drf) (store : Store) (request : PostRequest)
    (out : Outside) (values : CreateValues) : Prop where
  scope : request.scopes.contains "meeting:write" = true
  accepted : ∃ data, request.body.data = .ok data ∧
    createMeetingSerializer cfg drf data = .ok values
  positive : values.startAt.instant < values.endAt.instant
  first : ∀ m ∈ store.meetings.rows, m.keyed request.client values.classInfo.id = false
  fresh : store.meeting? out.pk = none
  refused : values.startAt.date ≠ values.classInfo.date ∨
    ((∃ room ∈ store.rooms.rows, room.isActive = true) ∧ values.fits cfg = false)

/-- A bad request stores nothing or leaves a draft. -/
theorem post_bad (bad : responseStatus (MeetingListView.post cfg drf store request out).1 = 400) :
    (MeetingListView.post cfg drf store request out).2 = store ∨
      ∃ values, LeavesDraft cfg drf store request out values := by
  unfold MeetingListView.post at bad ⊢
  split at bad
  · cases bad
  · rename_i hscope
    have scope : request.scopes.contains "meeting:write" = true := by simpa using hscope
    rw [if_neg hscope]
    split at bad
    · exact Or.inl rfl
    · rename_i data hdata
      split at bad
      · exact Or.inl rfl
      · rename_i values hvalues
        split at bad
        · exact Or.inl rfl
        · rename_i m created store' hregistered
          obtain ⟨e, herror, hstatus⟩ := respond_bad bad
          rw [respond_store]
          have unchanged := provision_bad_unchanged herror hstatus
          unfold registered at hregistered
          split at hregistered
          · cases hregistered
          · rename_i m' hcreated
            split at hregistered
            · rename_i fresh
              cases hregistered
              obtain ⟨rfl, checks, absent⟩ := register_created hcreated
              refine Or.inr ⟨values, scope, ⟨data, hdata, hvalues⟩,
                (draft_checks ..).mp checks, absent, fresh, ?_⟩
              exact provision_draft_bad (Store.meeting?_insert_self fresh) rfl herror hstatus
            · cases hregistered
          · cases hregistered
            exact Or.inl unchanged

theorem post_leavesDraft {values : CreateValues}
    (h : LeavesDraft cfg drf store request out values) :
    responseStatus (MeetingListView.post cfg drf store request out).1 = 400 ∧
      (MeetingListView.post cfg drf store request out).2 =
        store.insertMeeting (values.draft out.pk request.client out.now) h.fresh := by
  obtain ⟨data, hdata, hvalues⟩ := h.accepted
  have hregister := register_first h.first h.positive out.pk out.now
  have hregistered : registered store request values out =
      .ok (values.draft out.pk request.client out.now, true,
        store.insertMeeting (values.draft out.pk request.client out.now) h.fresh) := by
    simp only [registered, hregister]
    exact dif_pos h.fresh
  have hprovision : ∃ e : GatewayError, e.status = 400 ∧ provision cfg
      (store.insertMeeting (values.draft out.pk request.client out.now) h.fresh)
      (values.draft out.pk request.client out.now) values out = (.error (.gateway e),
        store.insertMeeting (values.draft out.pk request.client out.now) h.fresh) :=
    provision_draft_refused rfl h.refused
  obtain ⟨e, hstatus, hprovision⟩ := hprovision
  have hpost : MeetingListView.post cfg drf store request out =
      (.error (.raised (.gateway e)),
        store.insertMeeting (values.draft out.pk request.client out.now) h.fresh) := by
    simp only [MeetingListView.post, h.scope, hdata, hvalues, hregistered, hprovision]
    rfl
  rw [hpost]
  exact ⟨hstatus, rfl⟩

/-- An answer 400 means that no meeting row changed, exactly if the request is none of
those that leave a draft behind. -/
theorem bad_request_stores_nothing_iff (cfg : Settings) (drf : Drf) (store : Store)
    (request : PostRequest) (out : Outside) :
    (responseStatus (MeetingListView.post cfg drf store request out).1 = 400 →
      (MeetingListView.post cfg drf store request out).2.meetings = store.meetings) ↔
      ¬ ∃ values, LeavesDraft cfg drf store request out values := by
  constructor
  · rintro unchanged ⟨values, h⟩
    obtain ⟨bad, hstore⟩ := post_leavesDraft h
    have hsame := unchanged bad
    rw [hstore] at hsame
    have hlength : (store.meetings.rows ++ [values.draft out.pk request.client out.now]).length =
        store.meetings.rows.length := congrArg (fun t => t.rows.length) hsame
    rw [List.length_append, List.length_singleton] at hlength
    omega
  · intro none_left bad
    rcases post_bad bad with hsame | hleft
    · rw [hsame]
    · exact absurd hleft none_left

end Post

/-- The framework's fields on the texts of this request. -/
def exampleDrf : Drf where
  charField := fun maxLength value =>
    match value with
    | .str text =>
      if strip text = "" then .error ["This field may not be blank."]
      else if maxLength < (strip text).length then
        .error ["Ensure this field has no more than " ++ toString maxLength ++ " characters."]
      else .ok (strip text)
    | _ => .error ["Not a valid string."]
  dateField := fun value =>
    match value with
    | .str "2026-09-24" => .ok 739882
    | .str "2026-09-25" => .ok 739883
    | _ => .error ["Date has wrong format. Use one of these formats instead: YYYY-MM-DD."]
  parseDatetime := fun text =>
    if text = "2026-09-24T20:00:00+00:00" then
      .ok (some (.utc (739882 * dayMicroseconds + 20 * 60 * minuteMicroseconds)))
    else if text = "2026-09-24T21:00:00+00:00" then
      .ok (some (.utc (739882 * dayMicroseconds + 21 * 60 * minuteMicroseconds)))
    else .ok none

/-- The start is 02:00 on the 25th in the service time zone. -/
def exampleRequest (date : String) : PostRequest where
  client := 7
  scopes := ["meeting:write"]
  body := .json (.obj [("meetingTitle", .str "Physics"),
    ("teacher", .obj [("id", .str "T-001"), ("name", .str "Teacher")]),
    ("batch", .obj [("id", .str "B-001"), ("name", .str "Batch")]),
    ("class", .obj [("id", .str "CLS-001"), ("date", .str date)]),
    ("startAt", .str "2026-09-24T20:00:00+00:00"), ("endAt", .str "2026-09-24T21:00:00+00:00")])

def exampleOutside (pk : MeetingId) : Outside where
  pk := pk
  now := 0
  token := .escaped .unexpected
  start := .failed .connectError false
  dropped := .ok ()
  forcedToken := .escaped .unexpected
  secondStart := .failed .connectError false
  invalidated := .ok ()
  viewToken := .escaped .unexpected

/-- The answer is 400 and a draft stays; the corrected request is then refused as differing
from it. -/
theorem bad_request_leaves_draft :
    ∃ store', (MeetingListView.post exampleSettings exampleDrf exampleStore
        (exampleRequest "2026-09-24") (exampleOutside 1)).2 = store' ∧
      responseStatus (MeetingListView.post exampleSettings exampleDrf exampleStore
        (exampleRequest "2026-09-24") (exampleOutside 1)).1 = 400 ∧
      store'.meetings ≠ exampleStore.meetings ∧
      responseCode (MeetingListView.post exampleSettings exampleDrf store'
        (exampleRequest "2026-09-25") (exampleOutside 2)).1 =
          some (.gateway .existingMeetingMismatch) := by
  refine ⟨_, rfl, by decide, ?_, by decide⟩
  intro hsame
  have hlength : (MeetingListView.post exampleSettings exampleDrf exampleStore
      (exampleRequest "2026-09-24") (exampleOutside 1)).2.meetings.rows.length = 1 := by decide
  rw [hsame] at hlength
  cases hlength

end MeetingGateway
