import MeetingGateway.KnownCreation
import MeetingGateway.ProviderFailures

/-!
# What the creation parser accepts

The parser of `start_meeting` read as a grammar, and its results as rows: which bodies it
takes with which values, and whether the row that records them fits its columns. An
identifier is tested with `isinstance(value, (str, int))`, where a Boolean is an `int`; the
result that goes with a known creation is built before the texts in it are bounded.
-/

namespace MeetingGateway

/-- A text or an integer of 1 to 200 characters; a Boolean is neither. -/
inductive PlainIdentifier : Json → String → Prop
  | text {s : String} : 1 ≤ (strip s).length → (strip s).length ≤ 200 →
      PlainIdentifier (.str s) (strip s)
  | integer {n : Int} : 1 ≤ (toString n).length → (toString n).length ≤ 200 →
      PlainIdentifier (.int n) (toString n)

/-- What the code takes for an identifier: `str(True)` has its four characters too. -/
inductive TakenIdentifier : Json → String → Prop
  | plain {raw : Json} {text : String} : PlainIdentifier raw text → TakenIdentifier raw text
  | boolean {b : Bool} {text : String} : text = (if b then "True" else "False") →
      TakenIdentifier (.bool b) text

/-- The data object: the body, its `data` object, or the object a `data` text encodes. -/
inductive CreationData (cfg : Settings) (body : JsonObject) : JsonObject → Prop
  | direct : body.get? "data" = none → CreationData cfg body body
  | enveloped {data : JsonObject} : body.get? "data" = some (.obj data) →
      CreationData cfg body data
  | encoded {text : String} {data : JsonObject} : body.get? "data" = some (.str text) →
      cfg.jsonLoads text = .ok (.obj data) → CreationData cfg body data

structure StartUrlPasses (cfg : Settings) (url : String) : Prop where
  nonempty : url ≠ ""
  short : url.length ≤ 16384
  trusted : ∃ parsed, cfg.urlsplit url = .ok parsed ∧ trustedUrl cfg parsed = true

structure PanelPasses (panel : String) : Prop where
  nonempty : 1 ≤ panel.length
  short : panel.length ≤ 2000
  printable : ∀ c ∈ panel.toList, ¬ c.toNat < 32

/-- A creation response with its data object and the values it stands for. `identifier` says
what an identifier is. -/
structure CreationGrammar (identifier : Json → String → Prop) (cfg : Settings)
    (body data : JsonObject) (result : ProviderMeetingResult) : Prop where
  success : body.get? "success" ≠ some (.bool false)
  envelope : CreationData cfg body data
  calendarId : ∃ raw, data.get? "calendarId" = some raw ∧ identifier raw result.calendarId
  panel : ∃ raw, data.get? "meetingPanelAddress" = some (.str raw) ∧ PanelPasses (strip raw) ∧
    result.meetingPanelAddress = some (strip raw)
  uniqueId : ((data.get? "uniqueId" = none ∨ data.get? "uniqueId" = some .null) ∧
      result.uniqueId = none) ∨
    ∃ raw text, data.get? "uniqueId" = some raw ∧ identifier raw text ∧
      result.uniqueId = some text
  startUrl : ∃ raw, data.get? "startMeetingUrl" = some (.str raw) ∧
    StartUrlPasses cfg (strip raw) ∧ result.startMeetingUrl = some (strip raw)

/-- The body is read as its grammar says, with exactly the values it stands for. -/
def ParsedByGrammar (cfg : Settings) (body : JsonObject) : Prop :=
  ∀ result, parseMeeting cfg body = .ok result ↔
    ∃ data, CreationGrammar PlainIdentifier cfg body data result

def HasBooleanIdentifier (data : JsonObject) : Prop :=
  ∃ b, data.get? "calendarId" = some (.bool b) ∨ data.get? "uniqueId" = some (.bool b)

section Leaves
variable {cfg : Settings} {body data : JsonObject}

theorem successIsFalse_iff : successIsFalse body = true ↔
    body.get? "success" = some (.bool false) := by
  unfold successIsFalse
  split
  · rename_i h
    simp [h]
  · rename_i h
    simpa using h

theorem meetingData_ok_iff : meetingData cfg body = .ok data ↔ CreationData cfg body data := by
  constructor
  · intro h
    unfold meetingData at h
    split at h
    · rename_i fields hfields
      cases h
      cases hdata : body.get? "data" with
      | none =>
        rw [hdata] at hfields
        cases hfields
        exact .direct hdata
      | some value =>
        rw [hdata] at hfields
        cases hfields
        exact .enveloped hdata
    · rename_i text htext
      have hdata : body.get? "data" = some (.str text) := by
        cases hdata : body.get? "data" with
        | none =>
          rw [hdata] at htext
          cases htext
        | some value =>
          rw [hdata] at htext
          cases htext
          rfl
      split at h
      · rename_i hjson
        cases h
        exact .encoded hdata hjson
      · cases h
      · cases h
      · cases h
      · cases h
    · cases h
  · intro h
    cases h with
    | direct hdata => simp [meetingData, hdata]
    | enveloped hdata => simp [meetingData, hdata]
    | encoded hdata hjson => simp [meetingData, hdata, hjson]

/-- A decimal text of at most 200 characters is one that `str` prints. -/
theorem intText_of_short {n : Int} (h : (toString n).length ≤ 200) :
    intText n = .ok (toString n) := by
  have digits : (Nat.toDigits 10 n.natAbs).length ≤ (toString n).length := by
    cases n with
    | ofNat k => simp [toString, Int.repr, Nat.repr]
    | negSucc k => simp [toString, Int.repr, Nat.repr]
  exact if_pos (le_trans digits (le_trans h (by decide)))

theorem one_le_length_iff {s : String} : 1 ≤ s.length ↔ s ≠ "" := by
  rw [Nat.one_le_iff_ne_zero, Ne, String.length_eq_zero_iff]

theorem takenIdentifier_iff {raw : Json} {text : String} : TakenIdentifier raw text ↔
    identifierText raw = .ok (some text) ∧ text ≠ "" ∧ text.length ≤ 200 := by
  constructor
  · intro h
    cases h with
    | plain h =>
      cases h with
      | text hone hshort => exact ⟨rfl, one_le_length_iff.mp hone, hshort⟩
      | integer hone hshort =>
        refine ⟨?_, one_le_length_iff.mp hone, hshort⟩
        rw [identifierText, intText_of_short hshort]
    | @boolean b _ printed =>
      subst printed
      cases b
      · exact ⟨rfl, by decide, by decide⟩
      · exact ⟨rfl, by decide, by decide⟩
  · rintro ⟨htext, hne, hshort⟩
    have hone := one_le_length_iff.mpr hne
    unfold identifierText at htext
    split at htext
    · cases htext
      exact .plain (.text hone hshort)
    · cases htext
      exact .boolean rfl
    · split at htext
      · rename_i hint
        cases htext
        unfold intText at hint
        split at hint
        · cases hint
          exact .plain (.integer hone hshort)
        · cases hint
      · cases htext
    · cases htext

theorem panelValid_iff {panel : Option String} :
    panelValid panel = true ↔ ∃ text, panel = some text ∧ PanelPasses text := by
  unfold panelValid
  split
  · simp
  · rename_i text
    constructor
    · intro h
      simp only [Bool.and_eq_true, decide_eq_true_eq, List.all_eq_true] at h
      obtain ⟨⟨hne, hshort⟩, hprint⟩ := h
      exact ⟨text, rfl, one_le_length_iff.mpr hne, hshort, fun c hc => not_lt.mpr (hprint c hc)⟩
    · rintro ⟨_, ⟨⟩, hone, hshort, hprint⟩
      simp only [Bool.and_eq_true, decide_eq_true_eq, List.all_eq_true]
      exact ⟨⟨one_le_length_iff.mp hone, hshort⟩, fun c hc => not_lt.mp (hprint c hc)⟩

theorem panelText_some {raw : Option Json} {panel : String} :
    panelText raw = some panel ↔ ∃ s, raw = some (.str s) ∧ strip s = panel := by
  unfold panelText
  split
  · simp
  · rename_i h
    constructor
    · rintro ⟨⟩
    · rintro ⟨s, rfl, _⟩
      exact absurd rfl (h s)

theorem parseStartUrl_ok_iff {partial_ result : ProviderMeetingResult} {raw : Option Json} :
    parseStartUrl cfg partial_ raw = .ok result ↔
      ∃ url, raw = some (.str url) ∧ StartUrlPasses cfg (strip url) ∧
        result = { partial_ with startMeetingUrl := some (strip url) } := by
  constructor
  · intro h
    unfold parseStartUrl at h
    split at h
    · rename_i url
      dsimp only at h
      split at h
      · cases h
      · rename_i parsed hsplit
        split at h
        · rename_i hpass
          simp only [Bool.and_eq_true, decide_eq_true_eq] at hpass
          cases h
          exact ⟨url, rfl, ⟨hpass.1.1, hpass.1.2, parsed, hsplit, hpass.2⟩, rfl⟩
        · cases h
    · cases h
  · rintro ⟨url, rfl, ⟨hne, hshort, parsed, hsplit, htrusted⟩, rfl⟩
    simp [parseStartUrl, hsplit, hne, hshort, htrusted]

end Leaves

/-- What the fields show of the remote meeting, before the texts in it are bounded. -/
def partialResult (data : JsonObject) (calendarId : String) (uniqueId : Option String) :
    ProviderMeetingResult where
  calendarId := calendarId
  meetingPanelAddress := panelText (data.get? "meetingPanelAddress")
  startMeetingUrl := none
  uniqueId := uniqueId

/-- The parser has found a usable calendar id, so the meeting is known to exist. -/
structure Identified (cfg : Settings) (body data : JsonObject) (calendarId : String)
    (uniqueId : Option String) : Prop where
  success : successIsFalse body = false
  envelope : meetingData cfg body = .ok data
  calendarId : TakenIdentifier ((data.get? "calendarId").getD .null) calendarId
  uniqueId : identifierText ((data.get? "uniqueId").getD .null) = .ok uniqueId

section Parser
variable {cfg : Settings} {body data : JsonObject} {calendarId : String}
  {uniqueId : Option String}

theorem parseMeeting_identified (h : Identified cfg body data calendarId uniqueId) :
    parseMeeting cfg body = parseCreated cfg data (partialResult data calendarId uniqueId) := by
  obtain ⟨htext, hne, hshort⟩ := takenIdentifier_iff.mp h.calendarId
  have hfits : ¬ (calendarId = "" ∨ 200 < calendarId.length) := by
    rintro (hempty | hlong)
    · exact hne hempty
    · omega
  simp [parseMeeting, h.success, h.envelope, parseFields, htext, hfits, h.uniqueId, partialResult]

/-- Without a usable calendar id there is no result, not even with an error. -/
theorem parseMeeting_unidentified
    (h : ¬ ∃ data calendarId uniqueId, Identified cfg body data calendarId uniqueId) :
    ∃ raised, parseMeeting cfg body = .error raised ∧
      ∀ e, raised = .provider e → e.providerResult = none := by
  unfold parseMeeting
  split
  · exact ⟨_, rfl, by rintro e ⟨⟩; rfl⟩
  · rename_i hsuccess
    split
    · rename_i data hdata
      unfold parseFields
      split
      · exact ⟨_, rfl, by rintro e ⟨⟩⟩
      · exact ⟨_, rfl, by rintro e ⟨⟩; rfl⟩
      · rename_i calendarId hcalendar
        split
        · exact ⟨_, rfl, by rintro e ⟨⟩; rfl⟩
        · rename_i hfits
          split
          · exact ⟨_, rfl, by rintro e ⟨⟩⟩
          · rename_i uniqueId hunique
            have taken := takenIdentifier_iff.mpr ⟨hcalendar, fun hempty => hfits (Or.inl hempty),
              not_lt.mp fun hlong => hfits (Or.inr hlong)⟩
            exact absurd ⟨data, calendarId, uniqueId, by simpa using hsuccess, hdata, taken,
              hunique⟩ h
    · rename_i raised hdata
      refine ⟨_, rfl, ?_⟩
      rintro e rfl
      unfold meetingData at hdata
      split at hdata
      · cases hdata
      · split at hdata
        all_goals cases hdata
        all_goals rfl
      · cases hdata
        rfl

theorem takenIdentifier_getD {raw : Option Json} {text : String} :
    TakenIdentifier (raw.getD .null) text ↔
      ∃ value, raw = some value ∧ TakenIdentifier value text := by
  cases raw with
  | none =>
    constructor
    · rintro (⟨⟨⟩⟩)
    · rintro ⟨_, ⟨⟩, _⟩
  | some value => simp

/-- The test of the unique id, for what `str` makes of it. -/
theorem uniqueIdValid_iff {raw : Option Json} {taken : Option String}
    (printed : identifierText (raw.getD .null) = .ok taken) :
    uniqueIdValid raw taken = true ↔
      ((raw = none ∨ raw = some .null) ∧ taken = none) ∨
        ∃ value text, raw = some value ∧ TakenIdentifier value text ∧ taken = some text := by
  unfold uniqueIdValid
  split
  · cases printed
    simp
  · cases printed
    constructor
    · intro _
      exact Or.inl ⟨Or.inr rfl, rfl⟩
    · intro _
      rfl
  · rename_i value hnull
    have something : ¬ (some value = none ∨ some value = some Json.null) := by
      rintro (absent | same)
      · cases absent
      · exact hnull (Option.some.inj same)
    cases taken with
    | none =>
      constructor
      · rintro ⟨⟩
      · rintro (⟨absent, _⟩ | ⟨_, _, _, _, ⟨⟩⟩)
        exact absurd absent something
    | some text =>
      have htaken : TakenIdentifier value text ↔ text ≠ "" ∧ text.length ≤ 200 := by
        rw [takenIdentifier_iff]
        exact and_iff_right printed
      simp [htaken]

theorem parseCreated_ok_iff {partial_ result : ProviderMeetingResult} :
    parseCreated cfg data partial_ = .ok result ↔
      panelValid partial_.meetingPanelAddress = true ∧
        uniqueIdValid (data.get? "uniqueId") partial_.uniqueId = true ∧
        parseStartUrl cfg partial_ (data.get? "startMeetingUrl") = .ok result := by
  unfold parseCreated
  by_cases hpanel : panelValid partial_.meetingPanelAddress = true
  · by_cases hunique : uniqueIdValid (data.get? "uniqueId") partial_.uniqueId = true
    · simp [hpanel, hunique]
    · simp [hpanel, hunique]
  · simp [hpanel]

/-- The parser takes exactly the bodies of the grammar in which a Boolean is an identifier. -/
theorem parseMeeting_ok_iff {result : ProviderMeetingResult} :
    parseMeeting cfg body = .ok result ↔
      ∃ data, CreationGrammar TakenIdentifier cfg body data result := by
  constructor
  · intro h
    by_cases identified : ∃ data calendarId uniqueId,
        Identified cfg body data calendarId uniqueId
    · obtain ⟨data, calendarId, uniqueId, identified⟩ := identified
      rw [parseMeeting_identified identified, parseCreated_ok_iff, parseStartUrl_ok_iff] at h
      obtain ⟨hpanel, hunique, url, hurl, passes, rfl⟩ := h
      obtain ⟨panel, htext, panelPasses⟩ := panelValid_iff.mp hpanel
      obtain ⟨rawPanel, hrawPanel, rfl⟩ := panelText_some.mp htext
      refine ⟨data, ?_, meetingData_ok_iff.mp identified.envelope,
        takenIdentifier_getD.mp identified.calendarId, ⟨rawPanel, hrawPanel, panelPasses, htext⟩,
        (uniqueIdValid_iff identified.uniqueId).mp hunique, url, hurl, passes, rfl⟩
      intro denied
      have success := identified.success
      rw [successIsFalse_iff.mpr denied] at success
      cases success
    · obtain ⟨raised, hraised, _⟩ := parseMeeting_unidentified identified
      rw [hraised] at h
      cases h
  · rintro ⟨data, grammar⟩
    obtain ⟨url, hurl, passes, hstart⟩ := grammar.startUrl
    obtain ⟨rawPanel, hrawPanel, panelPasses, hpanel⟩ := grammar.panel
    have htext : panelText (data.get? "meetingPanelAddress") = some (strip rawPanel) :=
      panelText_some.mpr ⟨rawPanel, hrawPanel, rfl⟩
    have printed : identifierText ((data.get? "uniqueId").getD .null) = .ok result.uniqueId := by
      rcases grammar.uniqueId with ⟨habsent | hnull, hnone⟩ | ⟨raw, text, hraw, taken, htaken⟩
      · rw [habsent, hnone]
        rfl
      · rw [hnull, hnone]
        rfl
      · rw [hraw, htaken]
        exact (takenIdentifier_iff.mp taken).1
    have identified : Identified cfg body data result.calendarId result.uniqueId :=
      ⟨by simpa using mt successIsFalse_iff.mp grammar.success,
        meetingData_ok_iff.mpr grammar.envelope, takenIdentifier_getD.mpr grammar.calendarId,
        printed⟩
    rw [parseMeeting_identified identified, parseCreated_ok_iff, parseStartUrl_ok_iff]
    refine ⟨panelValid_iff.mpr ⟨_, htext, panelPasses⟩,
      (uniqueIdValid_iff printed).mpr grammar.uniqueId, url, hurl, passes, ?_⟩
    rw [partialResult, htext, ← hpanel, ← hstart]

/-- Without a Boolean among its identifiers a data object is in both grammars or in neither. -/
theorem grammar_of_taken {result : ProviderMeetingResult}
    (grammar : CreationGrammar TakenIdentifier cfg body data result)
    (plain : ¬ HasBooleanIdentifier data) :
    CreationGrammar PlainIdentifier cfg body data result := by
  refine ⟨grammar.success, grammar.envelope, ?_, grammar.panel, ?_, grammar.startUrl⟩
  · obtain ⟨raw, hraw, taken⟩ := grammar.calendarId
    cases taken with
    | plain identifier => exact ⟨raw, hraw, identifier⟩
    | @boolean b _ _ => exact absurd ⟨b, Or.inl hraw⟩ plain
  · rcases grammar.uniqueId with absent | ⟨raw, text, hraw, taken, htext⟩
    · exact Or.inl absent
    · cases taken with
      | plain identifier => exact Or.inr ⟨raw, text, hraw, identifier, htext⟩
      | @boolean b _ _ => exact absurd ⟨b, Or.inr hraw⟩ plain

theorem taken_of_grammar {result : ProviderMeetingResult}
    (grammar : CreationGrammar PlainIdentifier cfg body data result) :
    CreationGrammar TakenIdentifier cfg body data result ∧ ¬ HasBooleanIdentifier data := by
  obtain ⟨raw, hraw, identifier⟩ := grammar.calendarId
  refine ⟨⟨grammar.success, grammar.envelope, ⟨raw, hraw, .plain identifier⟩, grammar.panel, ?_,
    grammar.startUrl⟩, ?_⟩
  · rcases grammar.uniqueId with absent | ⟨raw, text, hraw, identifier, htext⟩
    · exact Or.inl absent
    · exact Or.inr ⟨raw, text, hraw, .plain identifier, htext⟩
  · rintro ⟨b, hcalendar | hunique⟩
    · rw [hcalendar] at hraw
      cases hraw
      cases identifier
    · rcases grammar.uniqueId with ⟨habsent | hnull, _⟩ | ⟨raw, text, hraw, identifier, _⟩
      · rw [habsent] at hunique
        cases hunique
      · rw [hnull] at hunique
        cases hunique
      · rw [hunique] at hraw
        cases hraw
        cases identifier

theorem creationData_unique {data data' : JsonObject} (h : CreationData cfg body data)
    (h' : CreationData cfg body data') : data = data' := by
  have same := (meetingData_ok_iff.mpr h).symm.trans (meetingData_ok_iff.mpr h')
  cases same
  rfl

/-- The body is read by its grammar exactly unless its data have a Boolean for an identifier
and pass every other test. -/
theorem creation_grammar_iff :
    ParsedByGrammar cfg body ↔ ∀ data, HasBooleanIdentifier data →
      ¬ ∃ result, CreationGrammar TakenIdentifier cfg body data result := by
  constructor
  · rintro parsed data boolean ⟨result, grammar⟩
    obtain ⟨data', plain⟩ := (parsed result).mp (parseMeeting_ok_iff.mpr ⟨data, grammar⟩)
    have same := creationData_unique grammar.envelope plain.envelope
    subst same
    exact (taken_of_grammar plain).2 boolean
  · intro refused result
    rw [parseMeeting_ok_iff]
    constructor
    · rintro ⟨data, grammar⟩
      refine ⟨data, grammar_of_taken grammar ?_⟩
      intro boolean
      exact refused data boolean ⟨result, grammar⟩
    · rintro ⟨data, grammar⟩
      exact ⟨data, (taken_of_grammar grammar).1⟩

end Parser

/-- `calendarId` and `uniqueId` are both `true`, and the rest is a creation response. -/
def exampleBooleanBody : JsonObject :=
  [("calendarId", .bool true), ("meetingPanelAddress", .str "meet.convay.com"),
    ("startMeetingUrl", .str "https://meet.convay.com/start"), ("uniqueId", .bool true)]

/-- The meeting is stored under the calendar id `True`. -/
theorem boolean_becomes_calendar_id :
    (∃ result, parseMeeting exampleSettings exampleBooleanBody = .ok result ∧
      result.calendarId = "True") ∧ ¬ ParsedByGrammar exampleSettings exampleBooleanBody := by
  have taken : parseMeeting exampleSettings exampleBooleanBody = .ok
      ⟨"True", some "meet.convay.com", some "https://meet.convay.com/start", some "True"⟩ := by
    rfl
  refine ⟨⟨_, taken, rfl⟩, ?_⟩
  intro parsed
  obtain ⟨data, grammar⟩ := (parsed _).mp taken
  have direct : CreationData exampleSettings exampleBooleanBody exampleBooleanBody := .direct rfl
  have same := creationData_unique direct grammar.envelope
  subst same
  exact (taken_of_grammar grammar).2 ⟨true, Or.inl rfl⟩

/-- Whatever row it is, recording the parser's result or its known creation does not fail on the
data and leaves the row within its columns. -/
def ParsedFits (cfg : Settings) (body : JsonObject) : Prop :=
  (∀ result, parseMeeting cfg body = .ok result → ∀ (current : Meeting) (now : Int),
    current.fitsColumns cfg = true → current.status.awaitsOutcome = true →
      ∃ row, current.recordSuccess cfg result now = .ok row ∧ row.fitsColumns cfg = true) ∧
  (∀ e result, parseMeeting cfg body = .error (.provider e) → e.providerResult = some result →
    ∀ (current : Meeting) (now : Int), current.fitsColumns cfg = true →
      (current.recordFailure e now).fitsColumns cfg = true)

/-- The parser gets to the start URL and takes it. -/
structure StartUrlTaken (cfg : Settings) (data : JsonObject) (uniqueId : Option String)
    (url : String) : Prop where
  panel : panelValid (panelText (data.get? "meetingPanelAddress")) = true
  uniqueId : uniqueIdValid (data.get? "uniqueId") uniqueId = true
  text : ∃ raw, data.get? "startMeetingUrl" = some (.str raw) ∧ strip raw = url
  passes : StartUrlPasses cfg url

/-- The stripped texts behind a usable calendar id fit the columns they go to, and a start URL
that is taken can be encrypted. -/
structure FieldsFit (cfg : Settings) (data : JsonObject) (calendarId : String)
    (uniqueId : Option String) : Prop where
  texts : textsFit cfg (some calendarId) uniqueId
    (panelText (data.get? "meetingPanelAddress")) = true
  startUrl : ∀ url, StartUrlTaken cfg data uniqueId url → cfg.encodable url = true

/-- A row of empty texts, which fits its columns whatever the settings are. -/
def exampleBlank : Meeting where
  id := 1
  integrationClient := 7
  externalClassId := ""
  teacherId := ""
  teacherName := ""
  batchId := ""
  batchName := ""
  meetingTitle := ""
  classDate := 0
  scheduleType := ""
  startAt := none
  endAt := none
  room := none
  reservation := none
  reservationActive := true
  providerMeetingType := ""
  providerCalendarId := none
  providerUniqueId := none
  providerPanelAddress := none
  encryptedProviderStartUrl := none
  encryptedProviderPayload := none
  status := .provisioning
  providerCreatedAt := none
  lastProviderError := none
  updatedAt := 0
  cancelledAt := none

theorem exampleBlank_fits (cfg : Settings) : exampleBlank.fitsColumns cfg = true := rfl

section Columns
variable {cfg : Settings} {body data : JsonObject} {calendarId : String}
  {uniqueId : Option String}

/-- The texts of a result stay those of the known creation, if it is not lost to `urlsplit`. -/
theorem parseCreated_outcomes (partial_ : ProviderMeetingResult) :
    (∃ url, parseCreated cfg data partial_ = .ok { partial_ with startMeetingUrl := some url }) ∨
      parseCreated cfg data partial_ = .error (responseInvalid partial_) ∨
      ∃ e, parseCreated cfg data partial_ = .error (.python e) := by
  unfold parseCreated
  split
  · exact Or.inr (Or.inl rfl)
  · split
    · exact Or.inr (Or.inl rfl)
    · unfold parseStartUrl
      split
      · dsimp only
        split
        · exact Or.inr (Or.inr ⟨_, rfl⟩)
        · split
          · exact Or.inl ⟨_, rfl⟩
          · exact Or.inr (Or.inl rfl)
      · exact Or.inr (Or.inl rfl)

theorem parseCreated_taken (calendarId : String) {url : String} :
    parseCreated cfg data (partialResult data calendarId uniqueId) =
        .ok { partialResult data calendarId uniqueId with startMeetingUrl := some url } ↔
      StartUrlTaken cfg data uniqueId url := by
  rw [parseCreated_ok_iff, parseStartUrl_ok_iff]
  constructor
  · rintro ⟨panel, unique, raw, hraw, passes, same⟩
    have hurl : url = strip raw := by
      simpa using congrArg ProviderMeetingResult.startMeetingUrl same
    subst hurl
    exact ⟨panel, unique, ⟨raw, hraw, rfl⟩, passes⟩
  · rintro ⟨panel, unique, ⟨raw, hraw, rfl⟩, passes⟩
    exact ⟨panel, unique, raw, hraw, passes, rfl⟩

theorem parseCreated_raises_iff (printed : identifierText ((data.get? "uniqueId").getD .null) =
    .ok uniqueId) :
    (∃ e, parseCreated cfg data (partialResult data calendarId uniqueId) = .error (.python e)) ↔
      splitRaises cfg data := by
  have keeps := @parseCreated_keeps cfg data (partialResult data calendarId uniqueId)
  have raises : splitRaises cfg data ↔
      panelValid (panelText (data.get? "meetingPanelAddress")) = true ∧
        uniqueIdValid (data.get? "uniqueId") uniqueId = true ∧
        ∃ raw e, data.get? "startMeetingUrl" = some (.str raw) ∧
          cfg.urlsplit (strip raw) = .error e := by
    simp [splitRaises, printed]
  rw [raises]
  constructor
  · rintro ⟨e, he⟩
    by_contra splits
    rw [he] at keeps
    exact keeps.mpr splits
  · intro h
    rcases @parseCreated_outcomes cfg data (partialResult data calendarId uniqueId) with
      ⟨url, hok⟩ | hinvalid | hraised
    · rw [hok] at keeps
      exact absurd h (keeps.mp rfl)
    · rw [hinvalid] at keeps
      exact absurd h (keeps.mp keeps_responseInvalid)
    · exact hraised

/-- Unless an exception of `urlsplit` leaves the parser, `urlsplit` has not raised one. -/
theorem splits_of_parsed (identified : Identified cfg body data calendarId uniqueId)
    (h : ∀ e, parseMeeting cfg body ≠ .error (.python e)) : ¬ splitRaises cfg data := by
  intro raises
  obtain ⟨e, he⟩ := (parseCreated_raises_iff identified.uniqueId).mpr raises
  rw [← parseMeeting_identified identified] at he
  exact h e he

/-- The texts behind a usable calendar id are in the result or in the known creation. Otherwise the
parser raises an error without a result. -/
theorem parseMeeting_outcomes (cfg : Settings) (body : JsonObject) :
    (∃ data calendarId uniqueId, Identified cfg body data calendarId uniqueId ∧
      ¬ splitRaises cfg data ∧
      ((∃ url, parseMeeting cfg body =
          .ok { partialResult data calendarId uniqueId with startMeetingUrl := some url }) ∨
        parseMeeting cfg body =
          .error (responseInvalid (partialResult data calendarId uniqueId)))) ∨
      ∃ raised, parseMeeting cfg body = .error raised ∧
        ∀ e, raised = .provider e → e.providerResult = none := by
  by_cases identified : ∃ data calendarId uniqueId, Identified cfg body data calendarId uniqueId
  · obtain ⟨data, calendarId, uniqueId, identified⟩ := identified
    have parsed := parseMeeting_identified identified
    rcases @parseCreated_outcomes cfg data (partialResult data calendarId uniqueId) with
      ⟨url, hok⟩ | hinvalid | ⟨e, hraised⟩
    · rw [hok] at parsed
      have splits : ¬ splitRaises cfg data := splits_of_parsed identified (by simp [parsed])
      exact Or.inl ⟨data, calendarId, uniqueId, identified, splits, Or.inl ⟨url, parsed⟩⟩
    · rw [hinvalid] at parsed
      have splits : ¬ splitRaises cfg data :=
        splits_of_parsed identified (by simp [parsed, responseInvalid])
      exact Or.inl ⟨data, calendarId, uniqueId, identified, splits, Or.inr parsed⟩
    · rw [hraised] at parsed
      refine Or.inr ⟨_, parsed, ?_⟩
      rintro _ ⟨⟩
  · exact Or.inr (parseMeeting_unidentified identified)

/-- A result has the texts behind a usable calendar id. -/
theorem result_partial {result : ProviderMeetingResult} (h : parseMeeting cfg body = .ok result) :
    ∃ data calendarId uniqueId url, Identified cfg body data calendarId uniqueId ∧
      ¬ splitRaises cfg data ∧ StartUrlTaken cfg data uniqueId url ∧
      result = { partialResult data calendarId uniqueId with startMeetingUrl := some url } := by
  rcases parseMeeting_outcomes cfg body with
    ⟨data, calendarId, uniqueId, identified, splits, ⟨url, hok⟩ | hinvalid⟩ | ⟨raised, hraised, _⟩
  · rw [h] at hok
    cases hok
    rw [parseMeeting_identified identified] at h
    exact ⟨data, calendarId, uniqueId, url, identified, splits,
      (parseCreated_taken calendarId).mp h, rfl⟩
  · rw [h] at hinvalid
    cases hinvalid
  · rw [h] at hraised
    cases hraised

/-- So has the result of a known creation. -/
theorem known_partial {e : ProviderError} {result : ProviderMeetingResult}
    (h : parseMeeting cfg body = .error (.provider e)) (known : e.providerResult = some result) :
    ∃ data calendarId uniqueId, Identified cfg body data calendarId uniqueId ∧
      ¬ splitRaises cfg data ∧ result = partialResult data calendarId uniqueId := by
  rcases parseMeeting_outcomes cfg body with
    ⟨data, calendarId, uniqueId, identified, splits, ⟨url, hok⟩ | hinvalid⟩ |
    ⟨raised, hraised, bare⟩
  · rw [h] at hok
    cases hok
  · rw [h] at hinvalid
    cases hinvalid
    cases known
    exact ⟨data, calendarId, uniqueId, identified, splits, rfl⟩
  · rw [h] at hraised
    cases hraised
    rw [bare e rfl] at known
    cases known

theorem fitsColumn_orElse {limit : Nat} {stored new : Option String}
    (hstored : fitsColumn cfg limit stored = true) (hnew : fitsColumn cfg limit new = true) :
    fitsColumn cfg limit (orElse stored new) = true := by
  unfold orElse
  split
  · exact hstored
  · exact hnew

/-- A success keeps a text that is stored, and takes the new one where none is. -/
theorem takes_of_fits {current : Meeting} {result : ProviderMeetingResult}
    (fits : current.fitsColumns cfg = true)
    (texts : textsFit cfg (some result.calendarId) result.uniqueId
      result.meetingPanelAddress = true) (seals : current.sealsUrl cfg result = true) :
    current.takes cfg (.ok result) = true := by
  simp only [Meeting.fitsColumns, Bool.and_eq_true] at fits
  simp only [textsFit, Bool.and_eq_true] at texts
  obtain ⟨⟨⟨_, hcalendar⟩, hunique⟩, hpanel⟩ := fits
  simp only [Meeting.takes, textsFit, Bool.and_eq_true]
  exact ⟨⟨⟨fitsColumn_orElse hcalendar texts.1.1, fitsColumn_orElse hunique texts.1.2⟩,
    fitsColumn_orElse hpanel texts.2⟩, seals⟩

/-- A result that the row takes is recorded in a row that fits. -/
theorem recorded_of_takes {current : Meeting} {result : ProviderMeetingResult}
    (fits : current.fitsColumns cfg = true) (awaits : current.status.awaitsOutcome = true)
    (takes : current.takes cfg (.ok result) = true) (now : Int) :
    ∃ row, current.recordSuccess cfg result now = .ok row ∧ row.fitsColumns cfg = true := by
  obtain ⟨startUrl, sealed⟩ := startUrl_iff.mpr (Bool.and_eq_true_iff.mp takes).2
  refine ⟨current.toReady result startUrl now, ?_, ?_⟩
  · simp [Meeting.recordSuccess, awaits, sealed]
  · rw [toReady_fits fits sealed, takes]

/-- What recording a result in the row of empty texts says about its texts. -/
theorem fits_of_recorded {result : ProviderMeetingResult} {row : Meeting}
    (hrow : exampleBlank.recordSuccess cfg result 0 = .ok row)
    (fits : row.fitsColumns cfg = true) :
    textsFit cfg (some result.calendarId) result.uniqueId result.meetingPanelAddress = true ∧
      ∀ url, result.startMeetingUrl = some url → cfg.encodable url = true := by
  obtain ⟨_, startUrl, sealed, rfl⟩ := recordSuccess_ok hrow
  rw [toReady_fits (exampleBlank_fits cfg) sealed] at fits
  obtain ⟨texts, seals⟩ := Bool.and_eq_true_iff.mp fits
  refine ⟨texts, ?_⟩
  intro url hurl
  simpa [Meeting.sealsUrl, exampleBlank, hurl] using seals

/-- A parsed result can be stored exactly if the texts behind a usable calendar id fit their
columns and the start URL that is taken can be encrypted, or `urlsplit` raises before a result
is made of them. -/
theorem parsed_result_fits_iff :
    ParsedFits cfg body ↔ ∀ data calendarId uniqueId,
      Identified cfg body data calendarId uniqueId →
        splitRaises cfg data ∨ FieldsFit cfg data calendarId uniqueId := by
  constructor
  · intro fits data calendarId uniqueId identified
    have parsed := parseMeeting_identified identified
    rcases @parseCreated_outcomes cfg data (partialResult data calendarId uniqueId) with
      ⟨url, hok⟩ | hinvalid | hraised
    · right
      rw [hok] at parsed
      obtain ⟨row, hrow, hfits⟩ := fits.1 _ parsed exampleBlank 0 (exampleBlank_fits cfg) rfl
      obtain ⟨texts, encodable⟩ := fits_of_recorded hrow hfits
      refine ⟨texts, ?_⟩
      intro url' taken
      have same := (parseCreated_taken calendarId).mpr taken
      rw [hok] at same
      cases same
      exact encodable url rfl
    · right
      rw [hinvalid] at parsed
      have row := fits.2 _ _ parsed rfl exampleBlank 0 (exampleBlank_fits cfg)
      rw [recordFailure_fits (exampleBlank_fits cfg)] at row
      refine ⟨row, ?_⟩
      intro url taken
      have created := (parseCreated_taken calendarId).mpr taken
      rw [hinvalid] at created
      cases created
    · exact Or.inl ((parseCreated_raises_iff identified.uniqueId).mp hraised)
  · intro fits
    constructor
    · intro result hresult current now hcurrent awaits
      obtain ⟨data, calendarId, uniqueId, url, identified, splits, taken, hsame⟩ :=
        result_partial hresult
      have fields := (fits data calendarId uniqueId identified).resolve_left splits
      have texts : textsFit cfg (some result.calendarId) result.uniqueId
          result.meetingPanelAddress = true := by
        rw [hsame]
        exact fields.texts
      have seals : current.sealsUrl cfg result = true := by
        simp [Meeting.sealsUrl, hsame, fields.startUrl url taken]
      exact recorded_of_takes hcurrent awaits (takes_of_fits hcurrent texts seals) now
    · intro e result herror known current now hcurrent
      obtain ⟨data, calendarId, uniqueId, identified, splits, rfl⟩ := known_partial herror known
      have fields := (fits data calendarId uniqueId identified).resolve_left splits
      rw [recordFailure_fits hcurrent, Meeting.takes, known]
      exact fields.texts

end Columns

def exampleAwaiting : Meeting := { exampleDraft with status := .provisioning }

/-- A panel address that ends in a NUL character. -/
def exampleNulBody : JsonObject :=
  [("calendarId", .str "CAL-1"), ("meetingPanelAddress", .str "meet.convay.com\x00"),
    ("startMeetingUrl", .str "https://meet.convay.com/start")]

/-- The parser refuses the address, but the known creation it reports carries it, and the
database refuses the row that would keep `CAL-1`. -/
theorem refused_panel_is_stored :
    (∃ e, parseMeeting exampleSettings exampleNulBody = .error (.provider e) ∧
      e.knownCreated = true ∧
      (exampleAwaiting.recordFailure e 0).fitsColumns exampleSettings = false) ∧
      ¬ ParsedFits exampleSettings exampleNulBody := by
  have parsed : parseMeeting exampleSettings exampleNulBody = .error (responseInvalid
      ⟨"CAL-1", some "meet.convay.com\x00", none, none⟩) := by
    rfl
  refine ⟨⟨_, parsed, rfl, by decide⟩, ?_⟩
  intro fits
  have row := fits.2 _ _ parsed rfl exampleAwaiting 0 (by decide)
  revert row
  decide

end MeetingGateway
