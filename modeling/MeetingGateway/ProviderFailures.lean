import MeetingGateway.Views
import MeetingGateway.TokenFreshness

/-!
# Failures of the provider calls

After the PROVISIONING commit a create request calls `get_token`, `start_meeting` and
`invalidate`, and some of them twice. The handler around them catches a `ProviderError` and
nothing else, and calls `invalidate` itself before it saves anything. Which exceptions the
calls raise decides where the row stays and what the client is told.
-/

namespace MeetingGateway

def Raised.isProvider : Raised → Bool
  | .provider _ => true
  | _ => false

def Raised.unauthorized : Raised → Bool
  | .provider e => decide (e.statusCode = some 401)
  | _ => false

def deletionRaised : Except PyError Unit → List Raised
  | .ok () => []
  | .error e => [.python e]

/-- The error that ends the calls, and that of the deletion the handler makes after a 401. -/
def endingRaised (out : Outside) (e : Raised) : List Raised :=
  e :: if e.unauthorized then deletionRaised out.invalidated else []

def retryRaised (cfg : Settings) (out : Outside) : List Raised :=
  match out.dropped with
  | .error e => [.python e]
  | .ok () =>
    match out.forcedToken.result with
    | .error e => endingRaised out e
    | .ok _ =>
      match startMeeting cfg out.secondStart with
      | .error e => endingRaised out e
      | .ok _ => []

/-- Every exception that `get_token`, `start_meeting` and `invalidate` raise, in order. -/
def callsRaised (cfg : Settings) (out : Outside) : List Raised :=
  match out.token.result with
  | .error e => endingRaised out e
  | .ok _ =>
    match startMeeting cfg out.start with
    | .error e => e :: if e.unauthorized then retryRaised cfg out else []
    | .ok _ => []

def retryAnswer (cfg : Settings) (out : Outside) : Option (Except Raised ProviderMeetingResult) :=
  match out.dropped, out.forcedToken.result with
  | .ok (), .ok _ => some (startMeeting cfg out.secondStart)
  | _, _ => none

/-- What the last `start_meeting` came to, if one was made. -/
def lastAnswer (cfg : Settings) (out : Outside) : Option (Except Raised ProviderMeetingResult) :=
  match out.token.result with
  | .error _ => none
  | .ok _ =>
    match startMeeting cfg out.start with
    | .error e =>
      some (if e.unauthorized then (retryAnswer cfg out).getD (.error e) else .error e)
    | answer => some answer

def HttpResult.sent : HttpResult → Bool
  | .failed _ sent => sent
  | .raised _ sent => sent
  | .answered _ => true

/-- A failure before the request was sent that is not in the adapter's list. -/
def HttpResult.misjudged : HttpResult → Bool
  | .failed e sent => !sent && !e.preSend
  | _ => false

/-- A second start follows one that was answered. -/
def requestSent (out : Outside) : Bool :=
  match out.token.result with
  | .error _ => false
  | .ok _ => out.start.sent

def textsFit (cfg : Settings) (calendarId uniqueId panel : Option String) : Bool :=
  fitsColumn cfg 200 calendarId && fitsColumn cfg 200 uniqueId && fitsColumn cfg 2000 panel

/-- The texts of an answer fit the columns they go to and its start URL can be encrypted; a
success keeps what is stored. -/
def Meeting.takes (cfg : Settings) (row : Meeting) : Except Raised ProviderMeetingResult → Bool
  | .ok data => textsFit cfg (orElse row.providerCalendarId (some data.calendarId))
      (orElse row.providerUniqueId data.uniqueId)
      (orElse row.providerPanelAddress data.meetingPanelAddress) && row.sealsUrl cfg data
  | .error (.provider e) =>
    match e.providerResult with
    | some result =>
      textsFit cfg (some result.calendarId) result.uniqueId result.meetingPanelAddress
    | none => true
  | .error _ => true

section Calls
variable {cfg : Settings} {out : Outside}

/-- The calls raise nothing that escapes, and what the provider said can be stored. -/
structure Settles (cfg : Settings) (out : Outside) (row : Meeting) : Prop where
  caught : ∀ x ∈ callsRaised cfg out, x.isProvider = true
  stored : ∀ answer, lastAnswer cfg out = some answer → row.takes cfg answer = true

/-- What `Settles` comes to once the outcome of the calls is known. -/
def SettlesAs (cfg : Settings) (out : Outside) (row : Meeting) :
    Except Raised (ProviderMeetingResult × ProviderAuthResult) → Prop
  | .ok (data, _) => row.takes cfg (.ok data) = true
  | .error (.provider e) =>
    (e.statusCode = some 401 → out.invalidated = .ok ()) ∧
      row.takes cfg (.error (.provider e)) = true
  | .error _ => False

theorem settlesAs_error {row : Meeting} {e : Raised} :
    SettlesAs cfg out row (.error e) ↔
      (∀ x ∈ endingRaised out e, x.isProvider = true) ∧ row.takes cfg (.error e) = true := by
  cases e with
  | provider e =>
    by_cases status : e.statusCode = some 401
    · cases hdeletion : out.invalidated <;>
        simp [SettlesAs, endingRaised, Raised.unauthorized, status, deletionRaised, hdeletion,
          Raised.isProvider]
    · simp [SettlesAs, endingRaised, Raised.unauthorized, status, Raised.isProvider]
  | _ => simp [SettlesAs, endingRaised, Raised.isProvider]

/-- A token that is not issued brings no answer of `start_meeting` with it. -/
theorem token_takes {outcome : TokenOutcome} {e : Raised} (row : Meeting)
    (h : outcome.result = .error e) : row.takes cfg (.error e) = true := by
  cases outcome with
  | issued token => cases h
  | refused code statusCode =>
    cases h
    rfl
  | escaped err =>
    cases h
    rfl

theorem unauthorized_takes {result : HttpResult} {e : ProviderError} (row : Meeting)
    (h : startMeeting cfg result = .error (.provider e)) (status : e.statusCode = some 401) :
    row.takes cfg (.error (.provider e)) = true := by
  have definite := startMeeting_unauthorized h status
  have unknown : e.providerResult = none := by
    simpa [ProviderError.definite, ProviderError.knownCreated] using
      (Bool.and_eq_true_iff.mp definite).2
  simp [Meeting.takes, unknown]

theorem settles_refused {row : Meeting} {e : Raised} (htoken : out.token.result = .error e) :
    Settles cfg out row ↔ SettlesAs cfg out row (.error e) := by
  have raised : callsRaised cfg out = endingRaised out e := by simp [callsRaised, htoken]
  have answer : lastAnswer cfg out = none := by simp [lastAnswer, htoken]
  rw [settlesAs_error, ← raised]
  constructor
  · intro settles
    exact ⟨settles.caught, token_takes row htoken⟩
  · rintro ⟨caught, _⟩
    exact ⟨caught, by simp [answer]⟩

theorem settles_started {row : Meeting} {token : ProviderAuthResult}
    {data : ProviderMeetingResult} (htoken : out.token.result = .ok token)
    (hstart : startMeeting cfg out.start = .ok data) :
    Settles cfg out row ↔ SettlesAs cfg out row (.ok (data, token)) := by
  have raised : callsRaised cfg out = [] := by simp [callsRaised, htoken, hstart]
  have answer : lastAnswer cfg out = some (.ok data) := by simp [lastAnswer, htoken, hstart]
  constructor
  · intro settles
    exact settles.stored _ answer
  · intro takes
    exact ⟨by simp [raised], by simpa [answer, SettlesAs] using takes⟩

/-- Any failure of the first `start_meeting` but a 401 ends the calls. -/
theorem settles_failed {row : Meeting} {token : ProviderAuthResult} {e : Raised}
    (htoken : out.token.result = .ok token) (hstart : startMeeting cfg out.start = .error e)
    (final : e.unauthorized = false) :
    Settles cfg out row ↔ SettlesAs cfg out row (.error e) := by
  have raised : callsRaised cfg out = endingRaised out e := by
    simp [callsRaised, htoken, hstart, final, endingRaised]
  have answer : lastAnswer cfg out = some (.error e) := by
    simp [lastAnswer, htoken, hstart, final]
  rw [settlesAs_error, ← raised]
  constructor
  · intro settles
    exact ⟨settles.caught, settles.stored _ answer⟩
  · rintro ⟨caught, takes⟩
    exact ⟨caught, by simpa [answer] using takes⟩

section Rejected
variable {token : ProviderAuthResult} {first : ProviderError}
  (htoken : out.token.result = .ok token)
  (hstart : startMeeting cfg out.start = .error (.provider first))
  (status : first.statusCode = some 401)
include htoken hstart status

theorem callsRaised_rejected :
    callsRaised cfg out = .provider first :: retryRaised cfg out := by
  simp [callsRaised, htoken, hstart, Raised.unauthorized, status]

theorem lastAnswer_rejected :
    lastAnswer cfg out = some ((retryAnswer cfg out).getD (.error (.provider first))) := by
  simp [lastAnswer, htoken, hstart, Raised.unauthorized, status]

end Rejected

/-- After a 401 the retry decides. -/
theorem settles_rejected {row : Meeting} {token : ProviderAuthResult} {first : ProviderError}
    (htoken : out.token.result = .ok token)
    (hstart : startMeeting cfg out.start = .error (.provider first))
    (status : first.statusCode = some 401) :
    Settles cfg out row ↔ (∀ x ∈ retryRaised cfg out, x.isProvider = true) ∧
      ∀ answer, retryAnswer cfg out = some answer → row.takes cfg answer = true := by
  have raised := callsRaised_rejected htoken hstart status
  have last := lastAnswer_rejected htoken hstart status
  constructor
  · intro settles
    constructor
    · intro x hx
      exact settles.caught x (by simp [raised, hx])
    · intro answer hanswer
      exact settles.stored answer (by simp [last, hanswer])
  · rintro ⟨caught, stored⟩
    constructor
    · intro x hx
      rw [raised] at hx
      rcases List.mem_cons.mp hx with rfl | hx
      · rfl
      · exact caught x hx
    · intro answer hanswer
      rw [last] at hanswer
      cases hanswer
      cases hretry : retryAnswer cfg out with
      | none => exact unauthorized_takes row hstart status
      | some answer => exact stored answer hretry

theorem settles_retried {row : Meeting} {token : ProviderAuthResult} {first : ProviderError}
    (htoken : out.token.result = .ok token)
    (hstart : startMeeting cfg out.start = .error (.provider first))
    (status : first.statusCode = some 401) (hdropped : out.dropped = .ok ()) :
    Settles cfg out row ↔ SettlesAs cfg out row (providerCalls cfg out) := by
  rw [settles_rejected htoken hstart status]
  cases hforced : out.forcedToken.result with
  | error e =>
    have raised : retryRaised cfg out = endingRaised out e := by
      simp [retryRaised, hdropped, hforced]
    have answer : retryAnswer cfg out = none := by simp [retryAnswer, hforced]
    simp [providerCalls, htoken, hstart, status, hdropped, hforced, settlesAs_error, raised,
      answer, token_takes row hforced]
  | ok token =>
    have answer : retryAnswer cfg out = some (startMeeting cfg out.secondStart) := by
      simp [retryAnswer, hdropped, hforced]
    cases hsecond : startMeeting cfg out.secondStart with
    | ok data =>
      have raised : retryRaised cfg out = [] := by
        simp [retryRaised, hdropped, hforced, hsecond]
      simp [providerCalls, htoken, hstart, status, hdropped, hforced, hsecond, raised, answer,
        Except.map, SettlesAs]
    | error e =>
      have raised : retryRaised cfg out = endingRaised out e := by
        simp [retryRaised, hdropped, hforced, hsecond]
      simp [providerCalls, htoken, hstart, status, hdropped, hforced, hsecond, settlesAs_error,
        raised, answer, Except.map]

/-- The calls settle exactly as their outcome does. -/
theorem settles_iff (row : Meeting) :
    Settles cfg out row ↔ SettlesAs cfg out row (providerCalls cfg out) := by
  cases htoken : out.token.result with
  | error e => simpa [providerCalls, htoken] using settles_refused htoken
  | ok token =>
    cases hstart : startMeeting cfg out.start with
    | ok data => simpa [providerCalls, htoken, hstart] using settles_started htoken hstart
    | error e =>
      cases e with
      | provider e =>
        by_cases status : e.statusCode = some 401
        · cases hdropped : out.dropped with
          | ok _ => exact settles_retried htoken hstart status hdropped
          | error err =>
            rw [settles_rejected htoken hstart status]
            simp [providerCalls, htoken, hstart, status, hdropped, retryRaised, SettlesAs,
              Raised.isProvider]
        · simpa [providerCalls, htoken, hstart, status] using
            settles_failed htoken hstart (by simpa [Raised.unauthorized] using status)
      | gateway e => simpa [providerCalls, htoken, hstart] using settles_failed htoken hstart rfl
      | python e => simpa [providerCalls, htoken, hstart] using settles_failed htoken hstart rfl

end Calls

/-- `provision` commits `row` as PROVISIONING and goes on with the provider. -/
inductive Commits (cfg : Settings) (store : Store) (locked : Meeting) (values : CreateValues)
    (out : Outside) (row : Meeting) (store' : Store) : Prop
  | resumed {payload : JsonObject} : provisionGate locked values = .ok .resume →
      provisioning cfg store locked true out.now = .ok (row, payload) →
      store.commit cfg row = .ok store' → Commits cfg store locked values out row store'
  | allocated {retrying : Bool} {reserved : Meeting} {payload : JsonObject} :
      provisionGate locked values = .ok (.allocate retrying) →
      allocateAnyRoom cfg (store.putMeeting (locked.toDraft out.now)) locked.id values.startAt
        values.endAt out.now = .ok reserved →
      provisioning cfg store reserved retrying out.now = .ok (row, payload) →
      store.commit cfg row = .ok store' → Commits cfg store locked values out row store'

/-- A committed row that holds a reservation while its creation is under way. -/
structure Committed (cfg : Settings) (store : Store) (row : Meeting) : Prop where
  stored : store.meeting? row.id = some row
  status : row.status = .provisioning
  active : row.reservationActive = true
  fits : row.fitsColumns cfg = true
  checks : row.checks = true
  free : store.excluded row = false

/-- `next` holds what `row` holds, or nothing. -/
structure Meeting.SameSlot (row next : Meeting) : Prop where
  id : next.id = row.id
  room : next.room = row.room
  reservation : next.reservation = row.reservation
  startAt : next.startAt = row.startAt
  endAt : next.endAt = row.endAt

section Commit
variable {cfg : Settings} {store store' : Store} {row next locked : Meeting}

theorem commit_ok (h : store.commit cfg row = .ok store') :
    row.fitsColumns cfg = true ∧ row.checks = true ∧ store.excluded row = false ∧
      store' = store.putMeeting row := by
  unfold Store.commit Except.mapError at h
  split at h
  · cases h
  · rename_i hfits
    split at h
    · cases h
    · rename_i hsave
      cases h
      obtain ⟨checks, free, same⟩ := Store.save_ok hsave
      exact ⟨by simpa using hfits, checks, free, same⟩

theorem commit_of_fits (fits : next.fitsColumns cfg = true) (checks : next.checks = true)
    (free : store.excluded next = false) : store.commit cfg next = .ok (store.putMeeting next) := by
  simp [Store.commit, fits, Store.save_of_not_excluded checks free, Except.mapError]

theorem commit_of_not_fits (h : next.fitsColumns cfg = false) :
    store.commit cfg next = .error (.python .dataError) := by
  simp [Store.commit, h]

theorem checks_of_sameSlot (same : row.SameSlot next) (active : row.reservationActive = true)
    (h : row.checks = true) : next.checks = true := by
  simp only [Meeting.checks, Meeting.activeReservationComplete, Meeting.positiveMeetingInterval,
    Meeting.reservationRangeValid, active, Bool.not_true, Bool.false_or] at h
  simp only [Meeting.checks, Meeting.activeReservationComplete, Meeting.positiveMeetingInterval,
    Meeting.reservationRangeValid, same.room, same.reservation, same.startAt, same.endAt]
  obtain ⟨h, range⟩ := Bool.and_eq_true_iff.mp h
  obtain ⟨complete, positive⟩ := Bool.and_eq_true_iff.mp h
  rw [complete, positive, range]
  simp only [Bool.or_true, Bool.and_true]

theorem excluded_of_sameSlot (same : row.SameSlot next) (active : row.reservationActive = true)
    (h : store.excluded row = false) : store.excluded next = false := by
  rw [Store.excluded_eq_false] at h ⊢
  intro other hother hne
  have hrow := h other hother (by rwa [← same.id])
  simp only [Meeting.excludes, active, Bool.true_and] at hrow
  simp only [Meeting.excludes, same.room, same.reservation, hrow, Bool.and_false]

/-- Saving the row again can only fail for a text that does not fit. -/
theorem Committed.commit (committed : Committed cfg store row) (same : row.SameSlot next) :
    store.commit cfg next =
      if next.fitsColumns cfg then .ok (store.putMeeting next)
      else .error (.python .dataError) := by
  by_cases fits : next.fitsColumns cfg = true
  · rw [if_pos fits]
    exact commit_of_fits fits (checks_of_sameSlot same committed.active committed.checks)
      (excluded_of_sameSlot same committed.active committed.free)
  · rw [if_neg fits]
    exact commit_of_not_fits (by simpa using fits)

theorem toReady_sameSlot (data : ProviderMeetingResult) (startUrl : Option (Stored String))
    (now : Int) : row.SameSlot (row.toReady data startUrl now) := ⟨rfl, rfl, rfl, rfl, rfl⟩

theorem recordFailure_sameSlot (e : ProviderError) (now : Int) :
    row.SameSlot (row.recordFailure e now) := by
  cases hresult : e.providerResult <;> constructor <;> simp [Meeting.recordFailure, hresult]

theorem toReady_fits (fits : row.fitsColumns cfg = true) {data : ProviderMeetingResult}
    {startUrl : Option (Stored String)} (sealed : row.startUrl cfg data = .ok startUrl)
    (now : Int) : (row.toReady data startUrl now).fitsColumns cfg = row.takes cfg (.ok data) := by
  have seals : row.sealsUrl cfg data = true := startUrl_iff.mp ⟨startUrl, sealed⟩
  simp only [Meeting.fitsColumns, Bool.and_eq_true] at fits
  simp [Meeting.fitsColumns, Meeting.toReady, Meeting.takes, textsFit, fits, seals]

/-- A start URL that cannot be encrypted is a `ValueError`. -/
theorem startUrl_error {data : ProviderMeetingResult} {e : PyError}
    (h : row.startUrl cfg data = .error e) :
    e = .valueError ∧ row.takes cfg (.ok data) = false := by
  constructor
  · unfold Meeting.startUrl at h
    split at h
    · cases h
    · split at h
      · cases h
      · unfold encrypt at h
        split at h
        · cases h
        · cases h
          rfl
    · cases h
  · have seals : row.sealsUrl cfg data = false := by
      rw [← Bool.not_eq_true]
      intro seals
      obtain ⟨startUrl, sealed⟩ := startUrl_iff.mpr seals
      rw [h] at sealed
      cases sealed
    simp [Meeting.takes, seals]

theorem recordFailure_fits (fits : row.fitsColumns cfg = true) (e : ProviderError) (now : Int) :
    (row.recordFailure e now).fitsColumns cfg = row.takes cfg (.error (.provider e)) := by
  have parts := fits
  simp only [Meeting.fitsColumns, Bool.and_eq_true] at parts
  cases hresult : e.providerResult with
  | some result =>
    simp [Meeting.fitsColumns, Meeting.recordFailure, Meeting.takes, textsFit, hresult, parts]
  | none => simp [Meeting.fitsColumns, Meeting.recordFailure, Meeting.takes, hresult, parts]

end Commit

section Commits
variable {cfg : Settings} {store store' : Store} {locked row : Meeting} {values : CreateValues}
variable {out : Outside}

theorem commits_provision (h : Commits cfg store locked values out row store') :
    provision cfg store locked values out = finishProvision cfg store' row out := by
  cases h with
  | resumed hgate hrow hcommit => simp [provision, hgate, commitProvision, hrow, hcommit]
  | allocated hgate hallocate hrow hcommit =>
    simp [provision, hgate, hallocate, commitProvision, hrow, hcommit]

theorem allocateAnyRoom_active {pk : MeetingId} {start end_ : Datetime} {now : Int}
    (h : allocateAnyRoom cfg store pk start end_ now = .ok row) :
    row.id = pk ∧ row.reservationActive = true := by
  obtain ⟨_, publicId, _, _, hreserve, _⟩ := FirstFit.tryEach_ok h
  obtain ⟨hreserved, _, _⟩ := reserveSpecificRoom_ok hreserve
  obtain ⟨slot, found, room, _, hfound, _, _, _, _, rfl⟩ := reservedRow_ok hreserved
  have hid : found.id = pk := Store.meeting?_id hfound
  exact ⟨hid, rfl⟩

theorem provisioning_committed {reserved : Meeting} {retrying : Bool} {payload : JsonObject}
    (stored : store.meeting? reserved.id = some locked) (active : reserved.reservationActive = true)
    (hrow : provisioning cfg store reserved retrying out.now = .ok (row, payload))
    (hcommit : store.commit cfg row = .ok store') :
    Committed cfg store' row ∧ row.id = reserved.id := by
  obtain ⟨config, type, _, _, rfl⟩ := provisioning_ok hrow
  obtain ⟨fits, checks, free, rfl⟩ := commit_ok hcommit
  refine ⟨⟨Store.meeting?_putMeeting_self stored, rfl, active, fits, checks, ?_⟩, rfl⟩
  rw [Store.excluded_eq_false] at free ⊢
  intro other hother hne
  rcases KeyedTable.mem_put.mp hother with ⟨hold, _⟩ | ⟨hsame, _⟩
  · exact free other hold hne
  · exact absurd (congrArg Meeting.id hsame) hne

theorem commits_committed (stored : store.meeting? locked.id = some locked)
    (h : Commits cfg store locked values out row store') :
    Committed cfg store' row ∧ row.id = locked.id := by
  cases h with
  | resumed hgate hrow hcommit =>
    obtain ⟨_, _, _, active, _⟩ := provisionGate_resume hgate
    exact provisioning_committed stored active hrow hcommit
  | allocated hgate hallocate hrow hcommit =>
    obtain ⟨hid, active⟩ := allocateAnyRoom_active hallocate
    rw [← hid] at stored
    obtain ⟨committed, hrowid⟩ := provisioning_committed stored active hrow hcommit
    exact ⟨committed, hrowid.trans hid⟩

end Commits

def Store.statusOf (s : Store) (pk : MeetingId) : Option Status :=
  (s.meeting? pk).map Meeting.status

section Final
variable {cfg : Settings} {store : Store} {row : Meeting} {out : Outside}

theorem failedStatus_settled (e : ProviderError) : failedStatus e ≠ .provisioning := by
  unfold failedStatus
  split
  · simp
  · split <;> simp

theorem recordFailure_settled (e : ProviderError) (now : Int) :
    (row.recordFailure e now).status ≠ .provisioning := by
  cases hresult : e.providerResult with
  | some result => simp [Meeting.recordFailure, hresult]
  | none => simpa [Meeting.recordFailure, hresult] using failedStatus_settled e

theorem recordFailure_definite {e : ProviderError} (definite : e.definite = true) (now : Int) :
    (row.recordFailure e now).status ≠ .providerStateUnknown := by
  obtain ⟨unambiguous, unknown⟩ := Bool.and_eq_true_iff.mp definite
  have hresult : e.providerResult = none := by simpa [ProviderError.knownCreated] using unknown
  have hcertain : e.ambiguous = false := by simpa using unambiguous
  by_cases hretry : e.code.retryable = true
  · simp [Meeting.recordFailure, hresult, failedStatus, hcertain, hretry]
  · simp [Meeting.recordFailure, hresult, failedStatus, hcertain, hretry]

theorem Committed.statusOf (committed : Committed cfg store row) :
    store.statusOf row.id = some .provisioning := by
  simp [Store.statusOf, committed.stored, committed.status]

theorem Committed.statusOf_put {next : Meeting} (committed : Committed cfg store row)
    (same : next.id = row.id) : (store.putMeeting next).statusOf row.id = some next.status := by
  have stored := committed.stored
  rw [← same] at stored ⊢
  simp [Store.statusOf, Store.meeting?_putMeeting_self stored]

/-- A save that leaves PROVISIONING does so exactly if the texts fit. -/
theorem Committed.leaves {next : Meeting} (committed : Committed cfg store row)
    (same : row.SameSlot next) (settled : next.status ≠ .provisioning) :
    (match store.commit cfg next with
      | .ok store' => store'
      | .error _ => store).statusOf row.id ≠ some .provisioning ↔ next.fitsColumns cfg = true := by
  rw [committed.commit same]
  by_cases fits : next.fitsColumns cfg = true
  · simp [fits, committed.statusOf_put same.id, settled]
  · simp [fits, committed.statusOf]

theorem Committed.success (committed : Committed cfg store row) {data : ProviderMeetingResult}
    {startUrl : Option (Stored String)} (hurl : row.startUrl cfg data = .ok startUrl) (now : Int) :
    row.recordSuccess cfg data now = .ok (row.toReady data startUrl now) := by
  simp [Meeting.recordSuccess, committed.status, Status.awaitsOutcome, hurl]

theorem Committed.unsealed (committed : Committed cfg store row) {data : ProviderMeetingResult}
    {e : PyError} (hurl : row.startUrl cfg data = .error e) (now : Int) :
    row.recordSuccess cfg data now = .error (.python e) := by
  simp [Meeting.recordSuccess, committed.status, Status.awaitsOutcome, hurl]

/-- The final transaction moves the row on exactly if the calls settle. -/
theorem finishProvision_statusOf (committed : Committed cfg store row) :
    (finishProvision cfg store row out).2.statusOf row.id ≠ some .provisioning ↔
      SettlesAs cfg out row (providerCalls cfg out) := by
  cases hcalls : providerCalls cfg out with
  | ok found =>
    obtain ⟨data, token⟩ := found
    cases hurl : row.startUrl cfg data with
    | error err =>
      obtain ⟨_, untaken⟩ := startUrl_error hurl
      simp [finishProvision, hcalls, committed.unsealed hurl, SettlesAs, untaken,
        committed.statusOf]
    | ok startUrl =>
      have ready : (row.toReady data startUrl out.now).status ≠ .provisioning := by
        simp [Meeting.toReady]
      have leaves := committed.leaves (toReady_sameSlot data startUrl out.now) ready
      rw [toReady_fits committed.fits hurl] at leaves
      rw [SettlesAs, ← leaves]
      cases hcommit : store.commit cfg (row.toReady data startUrl out.now) <;>
        simp only [finishProvision, hcalls, committed.success hurl, hcommit]
  | error e =>
    cases e with
    | provider e =>
      have leaves := committed.leaves (recordFailure_sameSlot e out.now)
        (recordFailure_settled e out.now)
      rw [recordFailure_fits committed.fits] at leaves
      rw [SettlesAs, ← leaves]
      by_cases status : e.statusCode = some 401
      · cases hdeletion : out.invalidated with
        | error err => simp [finishProvision, hcalls, status, hdeletion, committed.statusOf]
        | ok _ =>
          cases hcommit : store.commit cfg (row.recordFailure e out.now) <;>
            simp [finishProvision, hcalls, status, hdeletion, hcommit]
      · cases hcommit : store.commit cfg (row.recordFailure e out.now) <;>
          simp [finishProvision, hcalls, status, hcommit]
    | gateway e => simp [finishProvision, hcalls, SettlesAs, committed.statusOf]
    | python e => simp [finishProvision, hcalls, SettlesAs, committed.statusOf]

/-- Without a start request sent, the calls end with a failure the adapter is sure of, unless
it took the failure for one after the request. -/
theorem providerCalls_unsent (unsent : requestSent out = false)
    (judged : ∀ token, out.token.result = .ok token → out.start.misjudged = false) :
    ∃ e, providerCalls cfg out = .error e ∧ ∀ p, e = .provider p → p.definite = true := by
  cases htoken : out.token with
  | issued token =>
    simp only [requestSent, htoken, TokenOutcome.result] at unsent
    have known : out.start.misjudged = false := judged token (by rw [htoken]; rfl)
    cases hstart : out.start with
    | failed e sent =>
      have early : e.preSend = true := by
        rw [hstart] at unsent known
        have before : sent = false := unsent
        simpa [HttpResult.misjudged, before] using known
      refine ⟨.provider { code := .providerUnavailable }, ?_, ?_⟩
      · simp [providerCalls, htoken, TokenOutcome.result, hstart, startMeeting, post, early]
      · rintro p ⟨⟩
        rfl
    | raised e sent =>
      refine ⟨.python e, ?_, ?_⟩
      · simp [providerCalls, htoken, TokenOutcome.result, hstart, startMeeting, post]
      · rintro p ⟨⟩
    | answered r => simp [HttpResult.sent, hstart] at unsent
  | refused code statusCode =>
    refine ⟨.provider { code := code, statusCode := statusCode }, ?_, ?_⟩
    · simp [providerCalls, htoken, TokenOutcome.result]
    · rintro p ⟨⟩
      rfl
  | escaped e =>
    refine ⟨.python e, ?_, ?_⟩
    · simp [providerCalls, htoken, TokenOutcome.result]
    · rintro p ⟨⟩

/-- The outcome is unknown only after a start request was sent, if the adapter judges right. -/
theorem finishProvision_unsent (committed : Committed cfg store row)
    (unsent : requestSent out = false)
    (judged : ∀ token, out.token.result = .ok token → out.start.misjudged = false) :
    (finishProvision cfg store row out).2.statusOf row.id ≠ some .providerStateUnknown := by
  obtain ⟨e, hcalls, definite⟩ : ∃ e, providerCalls cfg out = .error e ∧
      ∀ p, e = .provider p → p.definite = true := providerCalls_unsent unsent judged
  have before : store.statusOf row.id ≠ some .providerStateUnknown := by
    simp [committed.statusOf]
  cases e with
  | provider p =>
    have after : ∀ store', store.commit cfg (row.recordFailure p out.now) = .ok store' →
        store'.statusOf row.id ≠ some .providerStateUnknown := by
      intro store' hcommit
      have same : row.SameSlot (row.recordFailure p out.now) := recordFailure_sameSlot p out.now
      obtain ⟨_, _, _, rfl⟩ := commit_ok hcommit
      simpa [committed.statusOf_put same.id] using recordFailure_definite (definite p rfl) out.now
    by_cases status : p.statusCode = some 401
    · cases hdeletion : out.invalidated with
      | error err => simpa [finishProvision, hcalls, status, hdeletion] using before
      | ok _ =>
        cases hcommit : store.commit cfg (row.recordFailure p out.now) with
        | ok store' =>
          simpa [finishProvision, hcalls, status, hdeletion, hcommit] using after _ hcommit
        | error err => simpa [finishProvision, hcalls, status, hdeletion, hcommit] using before
    · cases hcommit : store.commit cfg (row.recordFailure p out.now) with
      | ok store' => simpa [finishProvision, hcalls, status, hcommit] using after _ hcommit
      | error err => simpa [finishProvision, hcalls, status, hcommit] using before
  | gateway e => simpa [finishProvision, hcalls] using before
  | python e => simpa [finishProvision, hcalls] using before

/-- A failure that is misjudged makes the outcome unknown with nothing sent. -/
theorem finishProvision_misjudged (committed : Committed cfg store row)
    {token : ProviderAuthResult} (htoken : out.token.result = .ok token)
    (misjudged : out.start.misjudged = true) :
    requestSent out = false ∧
      (finishProvision cfg store row out).2.statusOf row.id = some .providerStateUnknown := by
  cases hstart : out.start with
  | failed e sent =>
    rw [hstart] at misjudged
    obtain ⟨unsent, late⟩ : sent = false ∧ e.preSend = false := by
      simpa [HttpResult.misjudged] using misjudged
    constructor
    · simp [requestSent, htoken, hstart, HttpResult.sent, unsent]
    · have hcalls : providerCalls cfg out =
          .error (.provider { code := .providerStateUnknown, ambiguous := true }) := by
        simp [providerCalls, htoken, hstart, startMeeting, post, late]
      have hcommit := committed.commit (recordFailure_sameSlot
        { code := .providerStateUnknown, ambiguous := true } out.now)
      rw [recordFailure_fits committed.fits] at hcommit
      simp only [Meeting.takes, if_true] at hcommit
      simp only [finishProvision, hcalls, reduceCtorEq, if_false, hcommit]
      have same : (row.recordFailure
          { code := .providerStateUnknown, ambiguous := true } out.now).id = row.id := rfl
      rw [committed.statusOf_put same]
      rfl
  | raised e sent =>
    rw [hstart] at misjudged
    cases misjudged
  | answered r =>
    rw [hstart] at misjudged
    cases misjudged

end Final

/-- The request gets through to `provision` with the row `m`. -/
structure Accepted (cfg : Settings) (drf : Drf) (store : Store) (request : PostRequest)
    (out : Outside) (values : CreateValues) (m : Meeting) (created : Bool) (store' : Store) :
    Prop where
  scope : request.scopes.contains "meeting:write" = true
  body : ∃ data, request.body.data = .ok data ∧ createMeetingSerializer cfg drf data = .ok values
  registered : registered store request values out = .ok (m, created, store')

/-- The answer carries the code of `e` and a status of a provider failure. -/
def Mapped (answer : Except ApiError (MeetingData × Nat)) (e : ProviderError) : Prop :=
  responseCode answer = some (.gateway (.provider e.code)) ∧
    (responseStatus answer = 422 ∨ responseStatus answer = 502 ∨ responseStatus answer = 503)

/-- The status and the code of an error of the token endpoint. -/
def tokenError : Except ApiError TokenData → Option (Nat × ResponseCode)
  | .ok _ => none
  | .error e => some ((exceptionHandler e).status, (exceptionHandler e).code)

section Answers
variable {cfg : Settings} {drf : Drf} {store store' store'' : Store} {request : PostRequest}
variable {out : Outside} {values : CreateValues} {m row : Meeting} {created : Bool}

theorem accepted_post (accepted : Accepted cfg drf store request out values m created store') :
    MeetingListView.post cfg drf store request out =
      respond cfg request created out (provision cfg store' m values out) := by
  obtain ⟨data, hdata, hvalues⟩ := accepted.body
  simp only [MeetingListView.post, accepted.scope, hdata, hvalues, accepted.registered]
  rfl

/-- A request ends before anything is stored, or gets through to `provision`. -/
theorem post_handled (cfg : Settings) (drf : Drf) (store : Store) (request : PostRequest)
    (out : Outside) :
    (∃ e, MeetingListView.post cfg drf store request out = (.error e, store)) ∨
      ∃ values m created store', Accepted cfg drf store request out values m created store' := by
  cases hscope : request.scopes.contains "meeting:write" with
  | false =>
    refine Or.inl ⟨.raised (.gateway insufficientScope), ?_⟩
    simp only [MeetingListView.post, hscope]
    rfl
  | true =>
    cases hdata : request.body.data with
    | error e =>
      refine Or.inl ⟨e, ?_⟩
      simp only [MeetingListView.post, hscope, hdata]
      rfl
    | ok data =>
      cases hvalues : createMeetingSerializer cfg drf data with
      | error detail =>
        refine Or.inl ⟨.validation detail, ?_⟩
        simp only [MeetingListView.post, hscope, hdata, hvalues]
        rfl
      | ok values =>
        cases hregistered : registered store request values out with
        | error e =>
          refine Or.inl ⟨.raised e, ?_⟩
          simp only [MeetingListView.post, hscope, hdata, hvalues, hregistered]
          rfl
        | ok found =>
          obtain ⟨m, created, store'⟩ := found
          exact Or.inr ⟨values, m, created, store', hscope, ⟨data, hdata, hvalues⟩, hregistered⟩

theorem accepted_stored (accepted : Accepted cfg drf store request out values m created store') :
    store'.meeting? m.id = some m := by
  have h := accepted.registered
  unfold registered at h
  split at h
  · cases h
  · split at h
    · rename_i fresh
      cases h
      exact Store.meeting?_insert_self fresh
    · cases h
  · rename_i hfound
    cases h
    exact KeyedTable.get?_eq_some.mpr ⟨(register_found hfound).1, rfl⟩

/-- An error that ends the calls and is caught is a `ProviderError` and the last one. -/
theorem ending_caught {e : Raised} (caught : ∀ x ∈ endingRaised out e, x.isProvider = true) :
    ∃ p, e = .provider p ∧ endingRaised out e = [.provider p] := by
  cases e with
  | provider p =>
    refine ⟨p, rfl, ?_⟩
    by_cases rejected : (Raised.provider p).unauthorized = true
    · cases hdeletion : out.invalidated with
      | ok _ => simp [endingRaised, hdeletion, deletionRaised]
      | error err =>
        have escaped : Raised.python err ∈ endingRaised out (.provider p) := by
          simp [endingRaised, rejected, hdeletion, deletionRaised]
        cases caught _ escaped
    · simp [endingRaised, rejected]
  | gateway e => cases caught _ List.mem_cons_self
  | python e => cases caught _ List.mem_cons_self

/-- What the retry ends with if nothing it raises escapes. -/
theorem retry_caught {token : ProviderAuthResult} {first : ProviderError}
    (htoken : out.token.result = .ok token)
    (hstart : startMeeting cfg out.start = .error (.provider first))
    (status : first.statusCode = some 401)
    (caught : ∀ x ∈ retryRaised cfg out, x.isProvider = true) :
    (∃ data token, providerCalls cfg out = .ok (data, token) ∧
        retryAnswer cfg out = some (.ok data)) ∨
      ∃ p, providerCalls cfg out = .error (.provider p) ∧
        retryRaised cfg out = [.provider p] ∧ ∀ data, retryAnswer cfg out ≠ some (.ok data) := by
  cases hdropped : out.dropped with
  | error err =>
    have escaped : Raised.python err ∈ retryRaised cfg out := by simp [retryRaised, hdropped]
    cases caught _ escaped
  | ok _ =>
    cases hforced : out.forcedToken.result with
    | error e =>
      have raised : retryRaised cfg out = endingRaised out e := by
        simp [retryRaised, hdropped, hforced]
      rw [raised] at caught ⊢
      obtain ⟨p, rfl, hending⟩ := ending_caught caught
      refine Or.inr ⟨p, ?_, hending, ?_⟩
      · simp [providerCalls, htoken, hstart, status, hdropped, hforced]
      · simp [retryAnswer, hforced]
    | ok token =>
      cases hsecond : startMeeting cfg out.secondStart with
      | ok data =>
        refine Or.inl ⟨data, token, ?_, ?_⟩
        · simp [providerCalls, htoken, hstart, status, hdropped, hforced, hsecond, Except.map]
        · simp [retryAnswer, hdropped, hforced, hsecond]
      | error e =>
        have raised : retryRaised cfg out = endingRaised out e := by
          simp [retryRaised, hdropped, hforced, hsecond]
        rw [raised] at caught ⊢
        obtain ⟨p, rfl, hending⟩ := ending_caught caught
        refine Or.inr ⟨p, ?_, hending, ?_⟩
        · simp [providerCalls, htoken, hstart, status, hdropped, hforced, hsecond, Except.map]
        · simp [retryAnswer, hdropped, hforced, hsecond]

/-- What the calls end with if nothing they raise escapes. -/
theorem calls_caught (caught : ∀ x ∈ callsRaised cfg out, x.isProvider = true) :
    (∃ data token, providerCalls cfg out = .ok (data, token) ∧
        lastAnswer cfg out = some (.ok data)) ∨
      ∃ p, providerCalls cfg out = .error (.provider p) ∧
        (callsRaised cfg out).getLast? = some (.provider p) ∧
        ∀ data, lastAnswer cfg out ≠ some (.ok data) := by
  cases htoken : out.token.result with
  | error e =>
    have raised : callsRaised cfg out = endingRaised out e := by simp [callsRaised, htoken]
    rw [raised] at caught ⊢
    obtain ⟨p, rfl, hending⟩ := ending_caught caught
    refine Or.inr ⟨p, ?_, by rw [hending]; rfl, ?_⟩
    · simp [providerCalls, htoken]
    · simp [lastAnswer, htoken]
  | ok token =>
    cases hstart : startMeeting cfg out.start with
    | ok data =>
      refine Or.inl ⟨data, token, ?_, ?_⟩
      · simp [providerCalls, htoken, hstart]
      · simp [lastAnswer, htoken, hstart]
    | error e =>
      have hfirst : e ∈ callsRaised cfg out := by simp [callsRaised, htoken, hstart]
      cases e with
      | gateway e => cases caught _ hfirst
      | python e => cases caught _ hfirst
      | provider first =>
        by_cases status : first.statusCode = some 401
        · have raised := callsRaised_rejected htoken hstart status
          have last := lastAnswer_rejected htoken hstart status
          have caughtRetry : ∀ x ∈ retryRaised cfg out, x.isProvider = true := by
            intro x hx
            exact caught x (by simp [raised, hx])
          rcases retry_caught htoken hstart status caughtRetry with
            ⟨data, token', hcalls, hanswer⟩ | ⟨p, hcalls, hraised, hanswer⟩
          · exact Or.inl ⟨data, token', hcalls, by simp [last, hanswer]⟩
          · refine Or.inr ⟨p, hcalls, by simp [raised, hraised], ?_⟩
            intro data hsame
            rw [last] at hsame
            cases hretry : retryAnswer cfg out with
            | none => simp [hretry] at hsame
            | some answer => exact hanswer data (by simpa [hretry] using hsame)
        · have rejected : (Raised.provider first).unauthorized = false := by
            simp [Raised.unauthorized, status]
          refine Or.inr ⟨first, ?_, ?_, ?_⟩
          · simp [providerCalls, htoken, hstart, status]
          · simp [callsRaised, htoken, hstart, rejected]
          · simp [lastAnswer, htoken, hstart, rejected]

theorem finish_unsettled (committed : Committed cfg store row)
    (h : ¬ SettlesAs cfg out row (providerCalls cfg out)) :
    ∃ x, (finishProvision cfg store row out).1 = .error x ∧ x.status = 500 := by
  cases hcalls : providerCalls cfg out with
  | ok found =>
    obtain ⟨data, token⟩ := found
    have takes : row.takes cfg (.ok data) = false := by simpa [hcalls, SettlesAs] using h
    cases hurl : row.startUrl cfg data with
    | error err =>
      exact ⟨.python err, by simp [finishProvision, hcalls, committed.unsealed hurl], rfl⟩
    | ok startUrl =>
      have hcommit : store.commit cfg (row.toReady data startUrl out.now) =
          .error (.python .dataError) :=
        commit_of_not_fits (by rw [toReady_fits committed.fits hurl, takes])
      exact ⟨.python .dataError,
        by simp only [finishProvision, hcalls, committed.success hurl, hcommit], rfl⟩
  | error e =>
    cases e with
    | provider p =>
      simp only [hcalls, SettlesAs, not_and_or, Classical.not_imp] at h
      rcases h with ⟨status, undeleted⟩ | untaken
      · cases hdeletion : out.invalidated with
        | ok _ => exact absurd hdeletion undeleted
        | error err =>
          exact ⟨.python err, by simp [finishProvision, hcalls, status, hdeletion], rfl⟩
      · have takes : row.takes cfg (.error (.provider p)) = false := by simpa using untaken
        have hcommit :
            store.commit cfg (row.recordFailure p out.now) = .error (.python .dataError) :=
          commit_of_not_fits (by rw [recordFailure_fits committed.fits, takes])
        by_cases status : p.statusCode = some 401
        · cases hdeletion : out.invalidated with
          | ok _ => exact ⟨.python .dataError,
              by simp [finishProvision, hcalls, status, hdeletion, hcommit], rfl⟩
          | error err =>
            exact ⟨.python err, by simp [finishProvision, hcalls, status, hdeletion], rfl⟩
        · exact ⟨.python .dataError, by simp [finishProvision, hcalls, status, hcommit], rfl⟩
    | gateway e =>
      exact ⟨.gateway e, by simp [finishProvision, hcalls], providerCalls_status hcalls⟩
    | python e => exact ⟨.python e, by simp [finishProvision, hcalls], rfl⟩

theorem finish_failed (committed : Committed cfg store row) {p : ProviderError}
    (hcalls : providerCalls cfg out = .error (.provider p))
    (settles : SettlesAs cfg out row (providerCalls cfg out)) :
    (finishProvision cfg store row out).1 = .error (.gateway (providerFailure p)) := by
  rw [hcalls] at settles
  obtain ⟨deleted, takes⟩ := settles
  have hcommit := committed.commit (recordFailure_sameSlot p out.now)
  rw [recordFailure_fits committed.fits, takes, if_pos rfl] at hcommit
  by_cases status : p.statusCode = some 401
  · simp [finishProvision, hcalls, status, deleted status, hcommit]
  · simp [finishProvision, hcalls, status, hcommit]

theorem finish_succeeded (committed : Committed cfg store row)
    {data : ProviderMeetingResult} {token : ProviderAuthResult}
    (hcalls : providerCalls cfg out = .ok (data, token))
    (settles : SettlesAs cfg out row (providerCalls cfg out)) :
    ∃ ready, (finishProvision cfg store row out).1 = .ok (ready, some token) := by
  rw [hcalls] at settles
  have takes : row.takes cfg (.ok data) = true := settles
  cases hurl : row.startUrl cfg data with
  | error err =>
    obtain ⟨_, untaken⟩ := startUrl_error hurl
    rw [takes] at untaken
    cases untaken
  | ok startUrl =>
    have hcommit := committed.commit (toReady_sameSlot data startUrl out.now)
    rw [toReady_fits committed.fits hurl, takes, if_pos rfl] at hcommit
    exact ⟨row.toReady data startUrl out.now, by
      simp only [finishProvision, hcalls, committed.success hurl, hcommit]⟩

theorem not_mapped_internal {x : Raised} (internal : x.status = 500) (e : ProviderError) :
    ¬ Mapped (.error (.raised x)) e := by
  rintro ⟨_, hstatus⟩
  rw [responseStatus_raised, internal] at hstatus
  omega

/-- A request whose `provision` succeeds is answered without a failure of the provider, or
with an internal error. -/
theorem not_mapped_ok {current : Meeting} {token : Option ProviderAuthResult} (e : ProviderError) :
    ¬ Mapped (respond cfg request created out (.ok (current, token), store)).1 e := by
  unfold respond
  dsimp only
  split
  · rename_i x htoken
    exact not_mapped_internal (responseToken_status htoken) e
  · split
    · exact not_mapped_internal rfl e
    · rintro ⟨code, _⟩
      cases code

theorem mapped_failure_iff (p e : ProviderError) :
    Mapped (respond cfg request created out
      (.error (.gateway (providerFailure p)), store)).1 e ↔ p.code = e.code := by
  constructor
  · rintro ⟨code, _⟩
    have same : some (ResponseCode.gateway (.provider p.code)) =
        some (.gateway (.provider e.code)) := code
    simpa using same
  · intro same
    refine ⟨congrArg (fun c => some (ResponseCode.gateway (.provider c))) same, ?_⟩
    have status : (providerFailure p).status = 422 ∨ (providerFailure p).status = 502 ∨
        (providerFailure p).status = 503 := by
      unfold providerFailure
      cases p.code <;> simp
    exact status

/-- Creating: an error of a call is reported exactly if nothing the calls raise escapes, the
texts of the last answer can be stored, and the calls end with an error of this code. -/
theorem creation_mapped_iff
    (accepted : Accepted cfg drf store request out values m created store')
    (commits : Commits cfg store' m values out row store'') (e : ProviderError) :
    Mapped (MeetingListView.post cfg drf store request out).1 e ↔
      Settles cfg out row ∧ (∀ data, lastAnswer cfg out ≠ some (.ok data)) ∧
        ∃ p, (callsRaised cfg out).getLast? = some (.provider p) ∧ p.code = e.code := by
  obtain ⟨committed, _⟩ := commits_committed (accepted_stored accepted) commits
  rw [accepted_post accepted, commits_provision commits]
  rcases hfinish : finishProvision cfg store'' row out with ⟨outcome, final⟩
  have hfirst : (finishProvision cfg store'' row out).1 = outcome := by rw [hfinish]
  by_cases settles : Settles cfg out row
  · have settled := (settles_iff row).mp settles
    rcases calls_caught settles.caught with ⟨data, token, hcalls, hanswer⟩ |
      ⟨p, hcalls, hlast, hanswer⟩
    · obtain ⟨ready, hready⟩ := finish_succeeded committed hcalls settled
      rw [hready] at hfirst
      subst hfirst
      refine iff_of_false (not_mapped_ok e) ?_
      rintro ⟨_, failed, _⟩
      exact failed data hanswer
    · rw [finish_failed committed hcalls settled] at hfirst
      subst hfirst
      rw [mapped_failure_iff]
      constructor
      · intro same
        exact ⟨settles, hanswer, p, hlast, same⟩
      · rintro ⟨_, _, p', hlast', same⟩
        rw [hlast] at hlast'
        cases hlast'
        exact same
  · obtain ⟨x, hx, internal⟩ :=
      finish_unsettled committed fun h => settles ((settles_iff row).mpr h)
    rw [hx] at hfirst
    subst hfirst
    refine iff_of_false (not_mapped_internal internal e) ?_
    rintro ⟨h, _⟩
    exact settles h

/-- A replay: `get_token` is called outside any handler. -/
theorem replay_internal
    (accepted : Accepted cfg drf store request out values m created store')
    (replay : provisionGate m values = .ok .replay)
    (scope : request.scopes.contains "meeting:token" = true) {e : ProviderError}
    (raised : out.viewToken.result = .error (.provider e)) :
    (MeetingListView.post cfg drf store request out).1 = .error (.raised (.provider e)) := by
  have token : responseToken request none out = .error (.provider e) := by
    simp only [responseToken, scope, raised, if_true]
    rfl
  rw [accepted_post accepted]
  simp [provision, replay, respond, token]

/-- The token endpoint never answers a `ProviderError` with an internal error. -/
theorem tokenError_status {pk : MeetingId} {outcome : TokenOutcome} {e : ProviderError}
    (raised : outcome.result = .error (.provider e)) (code : ResponseCode) :
    tokenError (MeetingTokenView.post store ⟨request.client, request.scopes, pk⟩ outcome) ≠
      some (500, code) := by
  have failure : (tokenFailure e).status ≠ 500 := by
    unfold tokenFailure
    cases e.code <;> simp
  unfold MeetingTokenView.post owned
  intro internal
  split at internal
  · cases internal
  · split at internal
    · rename_i err howned
      split at howned
      · split at howned
        · cases howned
        · cases howned
          cases internal
      · cases howned
        cases internal
    · split at internal
      · cases internal
      · simp only [raised, tokenError, exceptionHandler, Option.some.injEq, Prod.mk.injEq]
          at internal
        exact failure internal.1

end Answers

/-- Redis is down: the lock of `get_token` raises a connection error. -/
def exampleRefusal : TokenAnswers where
  entered := .error .redisError
  cached := .ok none
  comparedAt := 0
  deleted := .ok ()
  exchange := .escaped .unexpected
  measuredAt := 0
  stored := .ok ()
  left := .ok true

def exampleRedisDown : TokenOutcome :=
  getToken exampleTokenSettings exampleVersionedRoom.toRoom false exampleRefusal

/-- A creation for the draft while the provider cannot be reached. -/
def exampleOutage (token : TokenOutcome) : Outside := { exampleOutside 1 with token := token }

theorem exampleOutage_commits (token : TokenOutcome) :
    ∃ row store', Commits exampleSettings exampleDrafts exampleDraft (exampleValues "CLS-001" 10)
      (exampleOutage token) row store' := by
  have h : ∃ reserved row payload store',
      allocateAnyRoom exampleSettings (exampleDrafts.putMeeting (exampleDraft.toDraft 0)) 1
        (exampleValues "CLS-001" 10).startAt (exampleValues "CLS-001" 10).endAt 0 = .ok reserved ∧
      provisioning exampleSettings exampleDrafts reserved false 0 = .ok (row, payload) ∧
      exampleDrafts.commit exampleSettings row = .ok store' := ⟨_, _, _, _, rfl, rfl, rfl⟩
  obtain ⟨reserved, row, payload, store', hallocate, hrow, hcommit⟩ := h
  have hgate : provisionGate exampleDraft (exampleValues "CLS-001" 10) = .ok (.allocate false) :=
    rfl
  exact ⟨row, store', .allocated hgate hallocate hrow hcommit⟩

/-- No header takes a token with a line end, so nothing is sent. -/
def exampleRefusedHeader : Outside :=
  { exampleOutage (.issued ⟨"T-1\n", none⟩) with start := .failed .localProtocolError false }

example : requestSent exampleRefusedHeader = false ∧
    (provision exampleSettings exampleDrafts exampleDraft (exampleValues "CLS-001" 10)
      exampleRefusedHeader).2.statusOf exampleDraft.id = some .providerStateUnknown :=
  ⟨rfl, rfl⟩

/-- Another process holds the lock of the account: `PROVIDER_AUTH_BUSY`. -/
def exampleBusy : TokenOutcome :=
  getToken exampleTokenSettings exampleVersionedRoom.toRoom false
    { exampleRefusal with entered := .ok false }

/-- The meeting of that request, ready. -/
def exampleReplayed : Meeting :=
  { (exampleValues "CLS-001" 26).draft 1 7 0 with
    classDate := 739883
    status := .ready
    room := some 1 }

def exampleReplayRequest : PostRequest :=
  { exampleRequest "2026-09-25" with scopes := ["meeting:write", "meeting:token"] }

def exampleReplayStore : Store :=
  { exampleStore with meetings := ⟨[exampleReplayed], by decide⟩ }

def exampleReplay : Outside := { exampleOutside 2 with viewToken := exampleBusy }

theorem exampleReplay_accepted :
    ∃ values, Accepted exampleSettings exampleDrf exampleReplayStore exampleReplayRequest
        exampleReplay values exampleReplayed false exampleReplayStore ∧
      provisionGate exampleReplayed values = .ok .replay :=
  ⟨_, ⟨rfl, ⟨_, rfl, rfl⟩, rfl⟩, rfl⟩

theorem exampleRequest_commits :
    ∃ values m store' row store'', Accepted exampleSettings exampleDrf exampleStore
        (exampleRequest "2026-09-25") (exampleOutage exampleBusy) values m true store' ∧
      Commits exampleSettings store' m values (exampleOutage exampleBusy) row store'' := by
  have h : ∃ values m store' reserved row payload store'',
      Accepted exampleSettings exampleDrf exampleStore (exampleRequest "2026-09-25")
        (exampleOutage exampleBusy) values m true store' ∧
      provisionGate m values = .ok (.allocate false) ∧
      allocateAnyRoom exampleSettings (store'.putMeeting (m.toDraft 0)) m.id values.startAt
        values.endAt 0 = .ok reserved ∧
      provisioning exampleSettings store' reserved false 0 = .ok (row, payload) ∧
      store'.commit exampleSettings row = .ok store'' :=
    ⟨_, _, _, _, _, _, _, ⟨rfl, ⟨_, rfl, rfl⟩, rfl⟩, rfl, rfl, rfl, rfl⟩
  obtain ⟨values, m, store', reserved, row, payload, store'', accepted, hgate, hallocate, hrow,
    hcommit⟩ := h
  exact ⟨values, m, store', row, store'', accepted, .allocated hgate hallocate hrow hcommit⟩

end MeetingGateway
