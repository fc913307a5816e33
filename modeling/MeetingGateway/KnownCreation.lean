import MeetingGateway.Convay
import MeetingGateway.Availability

/-!
# Creations the provider confirmed

A response outside the failure range whose data carry a usable calendar id proves that
the remote meeting exists. The adapter keeps that id in all outcomes but one: the start
URL is split outside the tests, and a `ValueError` of `urlsplit` ends as an unknown outcome.
-/

namespace MeetingGateway

/-- The outcome carries the calendar id: in a result, or in an error that says that the
meeting is known to be created. -/
def KeepsCalendarId (calendarId : String) : Except Raised ProviderMeetingResult → Prop
  | .ok result => result.calendarId = calendarId
  | .error (.provider e) => e.knownCreated = true ∧
      ∃ result, e.providerResult = some result ∧ result.calendarId = calendarId
  | .error _ => False

/-- A 2xx response that confirms a creation: its body does not deny success and its data
hold a text that is a calendar id of 1 to 200 characters once it is stripped. -/
structure Confirms (cfg : Settings) (r : Response) (data : JsonObject) (raw : String) : Prop where
  success : r.isSuccess = true
  body : ∃ body, r.json = .ok (.obj body) ∧ successIsFalse body = false ∧
    meetingData cfg body = .ok data
  calendarId : data.get? "calendarId" = some (.str raw)
  nonempty : strip raw ≠ ""
  short : (strip raw).length ≤ 200

/-- `str(unique)` gives a text or is not taken; only an integer too long to print fails. -/
def uniqueIdPrintable (data : JsonObject) : Prop :=
  ∃ uniqueId, identifierText ((data.get? "uniqueId").getD .null) = .ok uniqueId

/-- The panel address and the unique id pass, and `urlsplit` raises on the start URL. -/
def splitRaises (cfg : Settings) (data : JsonObject) : Prop :=
  panelValid (panelText (data.get? "meetingPanelAddress")) = true ∧
    (∃ uniqueId, identifierText ((data.get? "uniqueId").getD .null) = .ok uniqueId ∧
      uniqueIdValid (data.get? "uniqueId") uniqueId = true) ∧
    ∃ raw e, data.get? "startMeetingUrl" = some (.str raw) ∧ cfg.urlsplit (strip raw) = .error e

section Parsing
variable {cfg : Settings} {data : JsonObject} {result : ProviderMeetingResult}

theorem keeps_responseInvalid :
    KeepsCalendarId result.calendarId (.error (responseInvalid result)) :=
  ⟨rfl, result, rfl, rfl⟩

theorem parseStartUrl_keeps (raw : Option Json) :
    KeepsCalendarId result.calendarId (parseStartUrl cfg result raw) ↔
      ¬ ∃ url e, raw = some (.str url) ∧ cfg.urlsplit (strip url) = .error e := by
  constructor
  · rintro keeps ⟨url, e, rfl, raises⟩
    simp [parseStartUrl, raises, KeepsCalendarId] at keeps
  · intro splits
    unfold parseStartUrl
    split
    · rename_i url
      cases hsplit : cfg.urlsplit (strip url) with
      | error e => exact absurd ⟨url, e, rfl, hsplit⟩ splits
      | ok parsed =>
        simp only [hsplit]
        split
        · rfl
        · exact keeps_responseInvalid
    · exact keeps_responseInvalid

theorem parseCreated_keeps :
    KeepsCalendarId result.calendarId (parseCreated cfg data result) ↔
      ¬ (panelValid result.meetingPanelAddress = true ∧
        uniqueIdValid (data.get? "uniqueId") result.uniqueId = true ∧
        ∃ raw e, data.get? "startMeetingUrl" = some (.str raw) ∧
          cfg.urlsplit (strip raw) = .error e) := by
  by_cases hpanel : panelValid result.meetingPanelAddress = true
  · by_cases hunique : uniqueIdValid (data.get? "uniqueId") result.uniqueId = true
    · simpa [parseCreated, hpanel, hunique] using
        @parseStartUrl_keeps cfg result (data.get? "startMeetingUrl")
    · simpa [parseCreated, hpanel, hunique] using keeps_responseInvalid
  · simpa [parseCreated, hpanel] using keeps_responseInvalid

/-- Behind the calendar id, the parser loses it only where it cannot go on. -/
theorem parseFields_keeps {raw : String} (calendarId : data.get? "calendarId" = some (.str raw))
    (nonempty : strip raw ≠ "") (short : (strip raw).length ≤ 200) :
    KeepsCalendarId (strip raw) (parseFields cfg data) ↔
      uniqueIdPrintable data ∧ ¬ splitRaises cfg data := by
  have hfits : ¬ (strip raw = "" ∨ 200 < (strip raw).length) := by
    rintro (hempty | hlong)
    · exact nonempty hempty
    · omega
  have hcalendar : identifierText ((data.get? "calendarId").getD .null) =
      .ok (some (strip raw)) := by
    rw [calendarId]
    rfl
  cases hunique : identifierText ((data.get? "uniqueId").getD .null) with
  | error e => simp [parseFields, hcalendar, hfits, hunique, KeepsCalendarId, uniqueIdPrintable]
  | ok uniqueId =>
    have hkeeps := @parseCreated_keeps cfg data
      { calendarId := strip raw
        meetingPanelAddress := panelText (data.get? "meetingPanelAddress")
        startMeetingUrl := none
        uniqueId := uniqueId }
    simpa [parseFields, hcalendar, hfits, hunique, uniqueIdPrintable, splitRaises] using hkeeps

end Parsing

/-- `_post` adds the status of the response to what the parser says and nothing else. -/
theorem startMeeting_keeps {cfg : Settings} {r : Response} {body : JsonObject}
    {calendarId : String} (success : r.isSuccess = true) (json : r.json = .ok (.obj body)) :
    KeepsCalendarId calendarId (startMeeting cfg (.answered r)) ↔
      KeepsCalendarId calendarId (parseMeeting cfg body) := by
  cases hparse : parseMeeting cfg body with
  | ok result => simp [startMeeting, post, parseBody, success, json, hparse]
  | error raised =>
    cases raised with
    | gateway e => simp [startMeeting, post, parseBody, success, json, hparse]
    | provider e =>
      simp [startMeeting, post, parseBody, success, json, hparse, KeepsCalendarId,
        ProviderError.knownCreated]
    | python e =>
      by_cases unreadable : e.unreadable = true
      · simp [startMeeting, post, parseBody, success, json, hparse, unreadable, KeepsCalendarId,
          unreadableError, ProviderError.knownCreated]
      · simp [startMeeting, post, parseBody, success, json, hparse, unreadable, KeepsCalendarId]

/-- A confirmed creation keeps its calendar id exactly if its unique id can be printed and
`urlsplit`, where the parser gets to it, does not raise. -/
theorem confirmed_creation_kept_iff {cfg : Settings} {r : Response} {data : JsonObject}
    {raw : String} (confirms : Confirms cfg r data raw) :
    KeepsCalendarId (strip raw) (startMeeting cfg (.answered r)) ↔
      uniqueIdPrintable data ∧ ¬ splitRaises cfg data := by
  obtain ⟨body, json, confirmed, hdata⟩ := confirms.body
  rw [startMeeting_keeps confirms.success json,
    ← parseFields_keeps confirms.calendarId confirms.nonempty confirms.short]
  simp [parseMeeting, confirmed, hdata]

def exampleAnswerData (startMeetingUrl : String) : JsonObject :=
  [("calendarId", .str "CAL-1"), ("meetingPanelAddress", .str "panel.convay.com"),
    ("startMeetingUrl", .str startMeetingUrl)]

theorem exampleAnswer_final : 200 ≤ 200 := Nat.le_refl 200

def exampleAnswer (startMeetingUrl : String) : Response :=
  ⟨200, exampleAnswer_final, .ok (.obj (exampleAnswerData startMeetingUrl))⟩

theorem exampleAnswer_confirms (startMeetingUrl : String) :
    Confirms exampleSettings (exampleAnswer startMeetingUrl) (exampleAnswerData startMeetingUrl)
      "CAL-1" where
  success := rfl
  body := ⟨_, rfl, rfl, rfl⟩
  calendarId := rfl
  nonempty := by decide
  short := by decide

/-- A start URL that can be split is kept or refused with the calendar id. -/
theorem confirmed_creation_kept_at_start_url :
    Confirms exampleSettings (exampleAnswer "https://meet.convay.com/start")
        (exampleAnswerData "https://meet.convay.com/start") "CAL-1" ∧
      (KeepsCalendarId (strip "CAL-1") (startMeeting exampleSettings
          (.answered (exampleAnswer "https://meet.convay.com/start"))) ↔
        uniqueIdPrintable (exampleAnswerData "https://meet.convay.com/start") ∧
          ¬ splitRaises exampleSettings (exampleAnswerData "https://meet.convay.com/start")) :=
  ⟨exampleAnswer_confirms _, confirmed_creation_kept_iff (exampleAnswer_confirms _)⟩

/-- The provider confirmed `CAL-1`; the answer is an unknown outcome without it. -/
theorem unsplittable_url_drops_calendar_id :
    Confirms exampleSettings (exampleAnswer "https://[") (exampleAnswerData "https://[") "CAL-1" ∧
      startMeeting exampleSettings (.answered (exampleAnswer "https://[")) =
        .error (.provider
          { code := .providerStateUnknown, ambiguous := true, statusCode := some 200 }) ∧
      ¬ KeepsCalendarId (strip "CAL-1")
        (startMeeting exampleSettings (.answered (exampleAnswer "https://["))) := by
  have unknown : startMeeting exampleSettings (.answered (exampleAnswer "https://[")) =
      .error (.provider
        { code := .providerStateUnknown, ambiguous := true, statusCode := some 200 }) := by
    rfl
  refine ⟨exampleAnswer_confirms _, unknown, ?_⟩
  rw [unknown]
  rintro ⟨known, _⟩
  cases known

end MeetingGateway
