import MeetingGateway.Settings

/-!
# The Convay adapter

`apps/convay/client.py`: how an HTTP exchange becomes a result or a `ProviderError`. The
parser of a creation response reads the body field by field; whatever it cannot read
after the provider accepted the call is ambiguous or known to be created, never definite.
-/

namespace MeetingGateway

/-- The subclasses of `httpx.RequestError`. -/
inductive TransportError where
  | connectTimeout
  | readTimeout
  | writeTimeout
  | poolTimeout
  | connectError
  | readError
  | writeError
  | closeError
  | proxyError
  | unsupportedProtocol
  | localProtocolError
  | remoteProtocolError
  | decodingError
  | tooManyRedirects
  deriving DecidableEq

/-- The failures the adapter takes for ones before any byte of the request was sent. -/
def TransportError.preSend : TransportError → Bool
  | .connectTimeout | .connectError | .poolTimeout | .unsupportedProtocol => true
  | _ => false

/-- A final response: the transport consumes informational ones. -/
structure Response where
  statusCode : Nat
  final : 200 ≤ statusCode
  json : Except PyError Json

def Response.isSuccess (r : Response) : Bool := decide (r.statusCode < 300)

/-- What `self.http.post` does, and whether it sent the request. A `RequestError` outside the
adapter's list can be raised before the request is sent too (a header or a proxy that does not
do), and so can other exceptions (a payload or a header that cannot be encoded). -/
inductive HttpResult where
  | failed (e : TransportError) (sent : Bool)
  | raised (e : PyError) (sent : Bool)
  | answered (r : Response)

def providerCodeOf : Nat → Option ProviderCode
  | 400 => some .providerValidationError
  | 422 => some .providerValidationError
  | 401 => some .providerAuthenticationError
  | 403 => some .providerAuthorizationError
  | 404 => some .providerEndpointError
  | 429 => some .providerRateLimited
  | _ => none

/-- The error of a response outside 2xx. -/
def statusError (creation : Bool) (status : Nat) : ProviderError :=
  let ambiguous := creation &&
    (decide (500 ≤ status) || decide (status = 408) || decide (300 ≤ status ∧ status < 400))
  { code := (providerCodeOf status).getD
      (if ambiguous then .providerStateUnknown
        else if 500 ≤ status then .providerUnavailable else .providerHttpError)
    ambiguous := ambiguous
    statusCode := some status }

/-- `except (ValueError, TypeError, RecursionError)`. -/
def PyError.unreadable : PyError → Bool
  | .valueError | .typeError | .recursionError => true
  | _ => false

def unreadableError (creation : Bool) (status : Nat) : ProviderError :=
  { code := if creation then .providerStateUnknown else .malformedProviderResponse
    ambiguous := creation
    statusCode := some status }

section Post
variable {α : Type}

/-- The parser runs on JSON objects only; any other body is a `ValueError`. -/
def parseBody (parser : JsonObject → Except Raised α) (r : Response) : Except Raised α :=
  match r.json with
  | .error e => .error (.python e)
  | .ok (.obj fields) => parser fields
  | .ok _ => .error (.python .valueError)

def post (creation : Bool) (parser : JsonObject → Except Raised α) :
    HttpResult → Except Raised α
  | .failed e _ =>
    if e.preSend then .error (.provider { code := .providerUnavailable })
    else .error (.provider
      { code := if creation then .providerStateUnknown else .providerUnavailable
        ambiguous := creation })
  | .raised e _ => .error (.python e)
  | .answered r =>
    if !r.isSuccess then .error (.provider (statusError creation r.statusCode))
    else
      match parseBody parser r with
      | .ok value => .ok value
      | .error (.provider e) => .error (.provider { e with statusCode := some r.statusCode })
      | .error (.python e) =>
        if e.unreadable then .error (.provider (unreadableError creation r.statusCode))
        else .error (.python e)
      | .error (.gateway e) => .error (.gateway e)

end Post

def malformedCreation : Raised :=
  .provider { code := .malformedCreationResponse, ambiguous := true }

def responseInvalid (result : ProviderMeetingResult) : Raised :=
  .provider { code := .providerResponseInvalid, providerResult := some result }

/-- `str(value).strip() if isinstance(value, (str, int))`; a Boolean is an `int`. -/
def identifierText : Json → Except PyError (Option String)
  | .str s => .ok (some (strip s))
  | .bool b => .ok (some (if b then "True" else "False"))
  | .int n =>
    match intText n with
    | .ok text => .ok (some text)
    | .error e => .error e
  | _ => .ok none

/-- `body.get("data", body)`, decoded if it is a JSON text. -/
def meetingData (cfg : Settings) (body : JsonObject) : Except Raised JsonObject :=
  match (body.get? "data").getD (.obj body) with
  | .obj fields => .ok fields
  | .str text =>
    match cfg.jsonLoads text with
    | .ok (.obj fields) => .ok fields
    | .ok _ => .error malformedCreation
    | .error .valueError => .error malformedCreation
    | .error .typeError => .error malformedCreation
    | .error e => .error (.python e)
  | _ => .error malformedCreation

def trustedHost (cfg : Settings) (hostname : Option String) : Bool :=
  match hostname with
  | none => false
  | some host =>
    decide (host ≠ "") && cfg.convayTrustedHostSuffixes.any fun suffix =>
      decide (host = suffix) || ("." ++ suffix).toList.isSuffixOf host.toList

/-- The test both the parser and the recovery form put to the parts of a start URL. -/
def trustedUrl (cfg : Settings) (parsed : SplitResult) : Bool :=
  decide (lower parsed.scheme = "https") && decide (parsed.netloc ≠ "") &&
    parsed.username.isNone && parsed.password.isNone && trustedHost cfg parsed.hostname

def panelValid (panel : Option String) : Bool :=
  match panel with
  | none => false
  | some p => decide (p ≠ "") && decide (p.length ≤ 2000) && p.toList.all fun c => 32 ≤ c.toNat

/-- `unique is not None and (not unique_id or len(unique_id) > 200)`, negated. -/
def uniqueIdValid (raw : Option Json) (uniqueId : Option String) : Bool :=
  match raw with
  | none => true
  | some .null => true
  | some _ =>
    match uniqueId with
    | none => false
    | some u => decide (u ≠ "") && decide (u.length ≤ 200)

/-- The start URL of a response whose other fields were accepted. -/
def parseStartUrl (cfg : Settings) (result : ProviderMeetingResult) :
    Option Json → Except Raised ProviderMeetingResult
  | some (.str raw) =>
    let startUrl := strip raw
    match cfg.urlsplit startUrl with
    | .error e => .error (.python e)
    | .ok parsed =>
      if decide (startUrl ≠ "") && decide (startUrl.length ≤ 16384) && trustedUrl cfg parsed then
        .ok { result with startMeetingUrl := some startUrl }
      else .error (responseInvalid result)
  | _ => .error (responseInvalid result)

def panelText : Option Json → Option String
  | some (.str p) => some (strip p)
  | _ => none

/-- The checks made once the calendar id shows that the meeting was created. -/
def parseCreated (cfg : Settings) (data : JsonObject) (result : ProviderMeetingResult) :
    Except Raised ProviderMeetingResult :=
  if !panelValid result.meetingPanelAddress then .error (responseInvalid result)
  else if !uniqueIdValid (data.get? "uniqueId") result.uniqueId then
    .error (responseInvalid result)
  else parseStartUrl cfg result (data.get? "startMeetingUrl")

/-- The fields of the data object, in the order the parser reads them. -/
def parseFields (cfg : Settings) (data : JsonObject) : Except Raised ProviderMeetingResult :=
  match identifierText ((data.get? "calendarId").getD .null) with
  | .error e => .error (.python e)
  | .ok none => .error malformedCreation
  | .ok (some calendarId) =>
    if calendarId = "" ∨ 200 < calendarId.length then .error malformedCreation
    else
      match identifierText ((data.get? "uniqueId").getD .null) with
      | .error e => .error (.python e)
      | .ok uniqueId => parseCreated cfg data
          { calendarId := calendarId
            meetingPanelAddress := panelText (data.get? "meetingPanelAddress")
            startMeetingUrl := none
            uniqueId := uniqueId }

/-- `body.get("success") is False`. -/
def successIsFalse (body : JsonObject) : Bool :=
  match body.get? "success" with
  | some (.bool false) => true
  | _ => false

def parseMeeting (cfg : Settings) (body : JsonObject) : Except Raised ProviderMeetingResult :=
  if successIsFalse body then .error (.provider { code := .providerValidationError })
  else
    match meetingData cfg body with
    | .ok data => parseFields cfg data
    | .error e => .error e

def startMeeting (cfg : Settings) (result : HttpResult) : Except Raised ProviderMeetingResult :=
  post true (parseMeeting cfg) result

/-- The contract assumed of the provider: these exchanges leave no meeting behind, any other
one may have created it. -/
def Response.createsNothing (r : Response) : Bool :=
  if r.isSuccess then
    match r.json with
    | .ok (.obj body) => successIsFalse body
    | _ => false
  else decide (400 ≤ r.statusCode) && decide (r.statusCode < 500) && decide (r.statusCode ≠ 408)

def HttpResult.createsNothing : HttpResult → Bool
  | .failed e _ => e.preSend
  | .raised _ sent => !sent
  | .answered r => r.createsNothing

theorem statusError_definite {r : Response} (outside : r.isSuccess = false)
    (definite : (statusError true r.statusCode).definite = true) : r.createsNothing = true := by
  have hfinal := r.final
  simp only [Response.isSuccess, decide_eq_false_iff_not] at outside
  simp only [ProviderError.definite, statusError, ProviderError.knownCreated,
    Option.isSome_none, Bool.not_false, Bool.and_true, Bool.true_and, Bool.not_eq_true',
    Bool.or_eq_false_iff, decide_eq_false_iff_not] at definite
  obtain ⟨⟨hserver, htimeout⟩, hredirect⟩ := definite
  have hclient : 400 ≤ r.statusCode := by omega
  have hbelow : r.statusCode < 500 := by omega
  simp [Response.createsNothing, Response.isSuccess, outside, hclient, hbelow, htimeout]

theorem meetingData_error {cfg : Settings} {body : JsonObject} {e : ProviderError}
    (h : meetingData cfg body = .error (.provider e)) : e.definite = false := by
  unfold meetingData at h
  split at h
  · cases h
  · split at h
    · cases h
    · cases h
      rfl
    · cases h
      rfl
    · cases h
      rfl
    · cases h
  · cases h
    rfl

theorem parseStartUrl_error {cfg : Settings} {result : ProviderMeetingResult} {raw : Option Json}
    {e : ProviderError} (h : parseStartUrl cfg result raw = .error (.provider e)) :
    e.definite = false := by
  unfold parseStartUrl at h
  split at h
  · dsimp only at h
    split at h
    · cases h
    · split at h
      · cases h
      · cases h
        rfl
  · cases h
    rfl

theorem parseCreated_error {cfg : Settings} {data : JsonObject} {result : ProviderMeetingResult}
    {e : ProviderError} (h : parseCreated cfg data result = .error (.provider e)) :
    e.definite = false := by
  unfold parseCreated at h
  split at h
  · cases h
    rfl
  · split at h
    · cases h
      rfl
    · exact parseStartUrl_error h

theorem parseFields_error {cfg : Settings} {data : JsonObject} {e : ProviderError}
    (h : parseFields cfg data = .error (.provider e)) : e.definite = false := by
  unfold parseFields at h
  split at h
  · cases h
  · cases h
    rfl
  · split at h
    · cases h
      rfl
    · split at h
      · cases h
      · exact parseCreated_error h

/-- The parser reports a definite rejection only when the body says so. -/
theorem parseMeeting_definite {cfg : Settings} {body : JsonObject} {e : ProviderError}
    (h : parseMeeting cfg body = .error (.provider e)) (definite : e.definite = true) :
    successIsFalse body = true := by
  unfold parseMeeting at h
  split at h
  · assumption
  · have hnot : e.definite = false := by
      split at h
      · exact parseFields_error h
      · rename_i hdata
        cases h
        exact meetingData_error hdata
    rw [hnot] at definite
    cases definite

theorem definite_statusCode (e : ProviderError) (status : Option Nat) :
    { e with statusCode := status }.definite = e.definite := rfl

/-- A failure the adapter reports as definite is one that created nothing. -/
theorem startMeeting_definite {cfg : Settings} {result : HttpResult} {e : ProviderError}
    (h : startMeeting cfg result = .error (.provider e)) (definite : e.definite = true) :
    result.createsNothing = true := by
  unfold startMeeting post at h
  split at h
  · split at h
    · assumption
    · cases h
      cases definite
  · cases h
  · rename_i r
    split at h
    · rename_i houtside
      cases h
      exact statusError_definite (by simpa using houtside) definite
    · rename_i hinside
      split at h
      · cases h
      · rename_i inner hparse
        cases h
        rw [definite_statusCode] at definite
        unfold parseBody at hparse
        split at hparse
        · cases hparse
        · rename_i body hjson
          have hfalse := parseMeeting_definite hparse definite
          have hsuccess : r.isSuccess = true := by simpa using hinside
          simp [HttpResult.createsNothing, Response.createsNothing, hsuccess, hjson, hfalse]
        · cases hparse
      · split at h
        · cases h
          cases definite
        · cases h
      · cases h

/-- A 401 is a definite rejection, so calling again cannot create a second meeting. -/
theorem startMeeting_unauthorized {cfg : Settings} {result : HttpResult} {e : ProviderError}
    (h : startMeeting cfg result = .error (.provider e)) (status : e.statusCode = some 401) :
    e.definite = true := by
  unfold startMeeting post at h
  split at h
  · split at h
    · cases h
      cases status
    · cases h
      cases status
  · cases h
  · rename_i r
    have inside : r.isSuccess = true → r.statusCode ≠ 401 := by
      intro hs heq
      simp [Response.isSuccess, heq] at hs
    split at h
    · cases h
      have hstatus : r.statusCode = 401 := Option.some.inj status
      rw [hstatus]
      rfl
    · rename_i hinside
      have hne := inside (by simpa using hinside)
      split at h
      · cases h
      · cases h
        exact absurd (Option.some.inj status) hne
      · split at h
        · cases h
          exact absurd (Option.some.inj status) hne
        · cases h
      · cases h

theorem parseStartUrl_ok {cfg : Settings} {partial_ result : ProviderMeetingResult}
    {raw : Option Json} (h : parseStartUrl cfg partial_ raw = .ok result) :
    ∃ url, url ≠ "" ∧ result = { partial_ with startMeetingUrl := some url } := by
  unfold parseStartUrl at h
  split at h
  · dsimp only at h
    split at h
    · cases h
    · split at h
      · rename_i hurl
        cases h
        simp only [Bool.and_eq_true, decide_eq_true_eq] at hurl
        exact ⟨_, hurl.1.1, rfl⟩
      · cases h
  · cases h

theorem panelValid_present {panel : Option String} (h : panelValid panel = true) :
    present panel = true := by
  unfold panelValid at h
  split at h
  · cases h
  · simp only [Bool.and_eq_true, decide_eq_true_eq] at h
    simpa [present] using h.1.1

/-- A parsed result carries everything a ready meeting needs. -/
structure ProviderMeetingResult.Complete (result : ProviderMeetingResult) : Prop where
  calendarId : result.calendarId ≠ ""
  panel : present result.meetingPanelAddress = true
  startUrl : present result.startMeetingUrl = true

theorem parseFields_ok {cfg : Settings} {data : JsonObject} {result : ProviderMeetingResult}
    (h : parseFields cfg data = .ok result) : result.Complete := by
  unfold parseFields at h
  split at h
  · cases h
  · cases h
  · split at h
    · cases h
    · rename_i hcalendar
      split at h
      · cases h
      · unfold parseCreated at h
        split at h
        · cases h
        · rename_i hpanel
          split at h
          · cases h
          · obtain ⟨url, hurl, rfl⟩ := parseStartUrl_ok h
            have hvalid := panelValid_present (by simpa using hpanel)
            exact ⟨fun hc => hcalendar (Or.inl hc), hvalid, by simpa [present] using hurl⟩

theorem startMeeting_ok {cfg : Settings} {http : HttpResult} {result : ProviderMeetingResult}
    (h : startMeeting cfg http = .ok result) : result.Complete := by
  unfold startMeeting post at h
  split at h
  · split at h
    · cases h
    · cases h
  · cases h
  · split at h
    · cases h
    · split at h
      · rename_i hparse
        cases h
        unfold parseBody at hparse
        split at hparse
        · cases hparse
        · unfold parseMeeting at hparse
          split at hparse
          · cases hparse
          · split at hparse
            · exact parseFields_ok hparse
            · cases hparse
        · cases hparse
      · cases h
      · split at h
        · cases h
        · cases h
      · cases h

end MeetingGateway
