import MeetingGateway.Services

/-!
# The create request's body

`apps/meetings/serializers.py` for `POST /api/v1/meetings/`. The text and date fields and
`parse_datetime` are the framework's; the strict serializers, the aware datetime field
and the comparison of the two times are the service's own. Every error names its field.
-/

namespace MeetingGateway

/-- The detail of a validation error. -/
inductive Detail where
  | text (message : String)
  | texts (messages : List String)
  | fields (entries : List (String × Detail))

/-- The framework's leaf fields: a text with a maximal length, a date as days from the
first day of year 1, and `parse_datetime`, which may reject a text or raise. -/
structure Drf where
  charField : Nat → Json → Except (List String) String
  dateField : Json → Except (List String) Int
  parseDatetime : String → Except PyError (Option Datetime)

/-- A field that is required and may not be null. -/
def fieldValue {α : Type} (name : String) (fields : JsonObject) (parse : Json → Except Detail α) :
    Except Detail α :=
  match fields.get? name with
  | none => .error (.texts ["This field is required."])
  | some .null => .error (.texts ["This field may not be null."])
  | some value => parse value

def fieldErrors {α : Type} (name : String) : Except Detail α → List (String × Detail)
  | .ok _ => []
  | .error detail => [(name, detail)]

def nonFieldError (message : String) : Detail := .fields [("non_field_errors", .texts [message])]

/-- `type(data).__name__` of what `json.loads` builds. -/
def Json.typeName : Json → String
  | .null => "NoneType"
  | .bool _ => "bool"
  | .int _ => "int"
  | .float _ => "float"
  | .str _ => "str"
  | .arr _ => "list"
  | .obj _ => "dict"

/-- `StrictSerializer`: an object with none but the serializer's own fields. -/
def strictSerializer {α : Type} (names : List String) (parse : JsonObject → Except Detail α) :
    Json → Except Detail α
  | .obj fields =>
    if fields.any fun entry => !names.contains entry.1 then
      .error (nonFieldError "Unknown fields are not permitted.")
    else parse fields
  | .null => .error (nonFieldError "No data provided")
  | data => .error
      (nonFieldError ("Invalid data. Expected a dictionary, but got " ++ data.typeName ++ "."))

def charField (drf : Drf) (maxLength : Nat) (value : Json) : Except Detail String :=
  (drf.charField maxLength value).mapError Detail.texts

def referenceSerializer (drf : Drf) : Json → Except Detail Reference :=
  strictSerializer ["id", "name"] fun fields =>
    match fieldValue "id" fields (charField drf 160),
        fieldValue "name" fields (charField drf 200) with
    | .ok id, .ok name => .ok ⟨id, name⟩
    | id, name => .error (.fields (fieldErrors "id" id ++ fieldErrors "name" name))

def classSerializer (drf : Drf) : Json → Except Detail ClassInfo :=
  strictSerializer ["id", "date"] fun fields =>
    match fieldValue "id" fields (charField drf 160),
        fieldValue "date" fields fun value => (drf.dateField value).mapError Detail.texts with
    | .ok id, .ok date => .ok ⟨id, date⟩
    | id, date => .error (.fields (fieldErrors "id" id ++ fieldErrors "date" date))

abbrev AwareDatetime := { d : Datetime // d.isNaive = false }

theorem Datetime.astimezone_aware {d d' : Datetime} {zone : TimeZone}
    (h : d.astimezone zone = .ok d') : d'.isNaive = false := by
  simp [isNaive, (astimezone_ok h).1]

/-- `AwareDateTimeField`: an aware datetime, converted to the service time zone. -/
def awareDateTimeField (cfg : Settings) (drf : Drf) : Json → Except Detail AwareDatetime
  | .str value =>
    match drf.parseDatetime value with
    | .ok (some parsed) =>
      if parsed.isNaive then .error (.texts ["Use timezone-aware ISO-8601."])
      else
        match h : parsed.astimezone cfg.timeZone with
        | .ok converted => .ok ⟨converted, Datetime.astimezone_aware h⟩
        | .error _ => .error (.texts ["Datetime value out of range."])
    | _ => .error (.texts ["Use timezone-aware ISO-8601."])
  | _ => .error (.texts ["Use timezone-aware ISO-8601."])

/-- `CreateMeetingSerializer`, whose `class` field comes last. -/
def createMeetingSerializer (cfg : Settings) (drf : Drf) : Json → Except Detail CreateValues :=
  strictSerializer ["meetingTitle", "teacher", "batch", "startAt", "endAt", "class"] fun fields =>
    match fieldValue "meetingTitle" fields (charField drf 250),
        fieldValue "teacher" fields (referenceSerializer drf),
        fieldValue "batch" fields (referenceSerializer drf),
        fieldValue "startAt" fields (awareDateTimeField cfg drf),
        fieldValue "endAt" fields (awareDateTimeField cfg drf),
        fieldValue "class" fields (classSerializer drf) with
    | .ok title, .ok teacher, .ok batch, .ok start, .ok end_, .ok classInfo =>
      if ordered : start.1.lt end_.1 = true then
        .ok ⟨title, teacher, batch, classInfo, start.1, end_.1, ⟨start.2, end_.2⟩, ordered⟩
      else .error (nonFieldError "endAt must be after startAt.")
    | title, teacher, batch, start, end_, classInfo => .error (.fields
        (fieldErrors "meetingTitle" title ++ fieldErrors "teacher" teacher ++
          fieldErrors "batch" batch ++ fieldErrors "startAt" start ++ fieldErrors "endAt" end_ ++
          fieldErrors "class" classInfo))

/-- The names under which an error of the create request can be reported. -/
def createMeetingFields : List String :=
  ["meetingTitle", "teacher", "batch", "startAt", "endAt", "class", "non_field_errors"]

theorem mem_fieldErrors {α : Type} {name : String} {result : Except Detail α}
    {entry : String × Detail} (h : entry ∈ fieldErrors name result) : entry.1 = name := by
  cases result with
  | ok _ => cases h
  | error detail =>
    obtain rfl := List.mem_singleton.mp h
    rfl

theorem strictSerializer_error {α : Type} {names : List String}
    {parse : JsonObject → Except Detail α} {data : Json} {detail : Detail}
    (h : strictSerializer names parse data = .error detail) :
    (∃ message, detail = nonFieldError message) ∨ ∃ fields, parse fields = .error detail := by
  unfold strictSerializer at h
  split at h
  · rename_i fields
    split at h
    · cases h
      exact Or.inl ⟨_, rfl⟩
    · exact Or.inr ⟨fields, h⟩
  all_goals
    cases h
    exact Or.inl ⟨_, rfl⟩

/-- Every error of the serializer is an object whose entries name the request's fields. -/
theorem createMeetingSerializer_error {cfg : Settings} {drf : Drf} {data : Json} {detail : Detail}
    (h : createMeetingSerializer cfg drf data = .error detail) :
    ∃ entries, detail = .fields entries ∧ ∀ entry ∈ entries, entry.1 ∈ createMeetingFields := by
  have non_field : ∀ message, ∃ entries, nonFieldError message = .fields entries ∧
      ∀ entry ∈ entries, entry.1 ∈ createMeetingFields := by
    intro message
    refine ⟨_, rfl, ?_⟩
    rintro entry hentry
    obtain rfl := List.mem_singleton.mp hentry
    show "non_field_errors" ∈ createMeetingFields
    decide
  rcases strictSerializer_error h with ⟨message, rfl⟩ | ⟨fields, hparse⟩
  · exact non_field message
  · split at hparse
    · split at hparse
      · cases hparse
      · cases hparse
        exact non_field _
    · cases hparse
      refine ⟨_, rfl, ?_⟩
      intro entry hentry
      simp only [List.mem_append] at hentry
      rcases hentry with ((((hentry | hentry) | hentry) | hentry) | hentry) | hentry
      all_goals
        rw [mem_fieldErrors hentry]
        decide

end MeetingGateway
