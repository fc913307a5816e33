import MeetingGateway.Diagnostics

/-!
# The log

`common/logging.py`: a dictionary that is logged is redacted at every depth before it is
written. What stands under a sensitive key has no influence on the line, and the line shows
nothing under such a key but the marker, or the flag that says whether there is a password.
-/

namespace MeetingGateway

/-- `k.lower().replace("_", "")`, as far as it is ASCII. -/
def loggedKey (key : String) : String :=
  String.ofList ((key.toList.flatMap lowerOne).filter fun c => decide (c ≠ '_'))

/-- The key is exempt from redaction for this value, which is of type `bool`. -/
def loggedPasswordFlag (key : String) (value : Json) : Bool :=
  match value with
  | .bool _ => decide (loggedKey key = "password")
  | _ => false

def redacted (key : String) (value : Json) : Bool :=
  sensitiveWords.any (containsText (loggedKey key)) && !loggedPasswordFlag key value

theorem sizeOf_field {fields : List (String × Json)} {field : String × Json}
    (h : field ∈ fields) : sizeOf field.2 < sizeOf (Json.obj fields) := by
  have inside := List.sizeOf_lt_of_mem h
  obtain ⟨k, v⟩ := field
  simp only [Prod.mk.sizeOf_spec, Json.obj.sizeOf_spec] at inside ⊢
  omega

theorem sizeOf_item {items : List Json} {v : Json} (h : v ∈ items) :
    sizeOf v < sizeOf (Json.arr items) := by
  have inside := List.sizeOf_lt_of_mem h
  simp only [Json.arr.sizeOf_spec]
  omega

def redact : Json → Json
  | .obj fields => .obj (fields.map fun field =>
      (field.1, if redacted field.1 field.2 then REDACTED else redact field.2))
  | .arr items => .arr (items.map redact)
  | value => value
termination_by value => sizeOf value
decreasing_by
  · exact sizeOf_field ‹_›
  · exact sizeOf_item ‹_›

/-- The fields of a redacted dictionary. -/
def redactFields (fields : JsonObject) : JsonObject :=
  fields.map fun field =>
    (field.1, if redacted field.1 field.2 then REDACTED else redact field.2)

/-- What the formatter reads of a record: its message if that is a dictionary, and the
diagnostics of its exception, which is empty where there is none. -/
structure LogRecord where
  msg : Option JsonObject
  name : String
  levelname : String
  created : PyFloat
  statusCode : Json
  method : Json
  route : Json
  diagnostics : JsonObject
  ownId : Option String
  requestId : Option String
  contextId : Option String

def LogRecord.event (record : LogRecord) : JsonObject :=
  match record.msg with
  | some msg => redactFields msg
  | none =>
    if record.name = "django.request" then
      OrderedDict.update [("event", .str "http.request_failed"),
        ("status_code", record.statusCode), ("method", record.method), ("route", record.route)]
        record.diagnostics
    else [("event", .str "application_event")]

/-- The first of the three that is truthy, or else the last. -/
def LogRecord.shownId (record : LogRecord) : Json :=
  let shown := if present record.ownId then record.ownId
    else if present record.requestId then record.requestId
    else record.contextId
  match shown with
  | some id => .str id
  | none => .null

/-- What the formatter says of the record itself. -/
def LogRecord.own (record : LogRecord) : JsonObject :=
  [("level", .str record.levelname), ("logger", .str record.name),
    ("timestamp", .float record.created), ("request_id", record.shownId),
    ("requestId", record.shownId)]

def LogRecord.line (record : LogRecord) : JsonObject := OrderedDict.update record.event record.own

/-- The record with this dictionary as its message. -/
def LogRecord.logs (record : LogRecord) (msg : JsonObject) : LogRecord :=
  { record with msg := some msg }

/-- `SafeJSONFormatter.format`. -/
def LogRecord.format (lib : DiagnosticLibrary) (record : LogRecord) : Except PyError String :=
  lib.jsonDumps (.obj record.line)

/-- At every depth, what the formatter would redact is the marker. -/
def Concealed : Json → Prop
  | .obj fields => ∀ field ∈ fields,
      (redacted field.1 field.2 = true → field.2 = REDACTED) ∧ Concealed field.2
  | .arr items => ∀ v ∈ items, Concealed v
  | _ => True
termination_by value => sizeOf value
decreasing_by
  · exact sizeOf_field ‹_›
  · exact sizeOf_item ‹_›

/-- Both values are redacted. -/
def HiddenInLog (key : String) (v w : Json) : Prop :=
  redacted key v = true ∧ redacted key w = true

theorem redact_obj (fields : JsonObject) : redact (.obj fields) = .obj (redactFields fields) := by
  rw [redact, redactFields]

theorem redact_scalar {v : Json} (hobj : ∀ fields, v ≠ .obj fields)
    (harr : ∀ items, v ≠ .arr items) : redact v = v := by
  cases v with
  | obj fields => exact absurd rfl (hobj fields)
  | arr items => exact absurd rfl (harr items)
  | _ => simp only [redact]

theorem concealed_scalar {v : Json} (hobj : ∀ fields, v ≠ .obj fields)
    (harr : ∀ items, v ≠ .arr items) : Concealed v := by
  cases v with
  | obj fields => exact absurd rfl (hobj fields)
  | arr items => exact absurd rfl (harr items)
  | _ => simp only [Concealed]

theorem redacted_redact (key : String) (v : Json) : redacted key (redact v) = redacted key v := by
  have flag : loggedPasswordFlag key (redact v) = loggedPasswordFlag key v := by
    cases v with
    | _ => simp only [redact, loggedPasswordFlag]
  rw [redacted, redacted, flag]

theorem redact_concealed (v : Json) : Concealed (redact v) := by
  induction v using redact.induct with
  | case1 fields ih =>
    rw [redact, Concealed]
    intro field hfield
    obtain ⟨⟨k, v⟩, hmem, rfl⟩ := List.mem_map.mp hfield
    dsimp only
    by_cases hidden : redacted k v = true
    · rw [if_pos hidden]
      exact ⟨fun _ => rfl, concealed_scalar (by simp [REDACTED]) (by simp [REDACTED])⟩
    · rw [if_neg hidden]
      refine ⟨fun shown => ?_, ih (k, v) hmem⟩
      -- a value that is shown stays one that is not redacted
      rw [redacted_redact] at shown
      exact absurd shown hidden
  | case2 items ih =>
    rw [redact, Concealed]
    intro v hv
    obtain ⟨item, hmem, rfl⟩ := List.mem_map.mp hv
    exact ih item hmem
  | case3 value hobj harr =>
    rw [redact_scalar hobj harr]
    exact concealed_scalar hobj harr

theorem redact_of_concealed {v : Json} (h : Concealed v) : redact v = v := by
  induction v using redact.induct with
  | case1 fields ih =>
    rw [Concealed] at h
    have same : ∀ field ∈ fields,
        (field.1, if redacted field.1 field.2 then REDACTED else redact field.2) = field := by
      intro field hfield
      obtain ⟨marked, shown⟩ := h field hfield
      by_cases hidden : redacted field.1 field.2 = true
      · rw [if_pos hidden, ← marked hidden]
      · rw [if_neg hidden, ih field hfield shown]
    rw [redact, List.map_congr_left same, List.map_id']
  | case2 items ih =>
    rw [Concealed] at h
    have same : ∀ v ∈ items, redact v = v := fun v hv => ih v hv (h v hv)
    rw [redact, List.map_congr_left same, List.map_id']
  | case3 value hobj harr => exact redact_scalar hobj harr

/-- Redaction changes what is not concealed, and nothing else. -/
theorem redactFields_eq_self {fields : JsonObject} :
    redactFields fields = fields ↔ Concealed (.obj fields) := by
  rw [← Json.obj.injEq, ← redact_obj]
  constructor
  · intro same
    rw [← same]
    exact redact_concealed (.obj fields)
  · exact redact_of_concealed

/-- Values that agree are of type `bool` alike. -/
theorem redacted_agrees {key : String} {v w : Json}
    (h : Agrees HiddenInLog (fun _ _ => False) v w) : redacted key v = redacted key w := by
  cases h with
  | same => rfl
  | embedded h => exact h.elim
  | items _ => rfl
  | fields _ => rfl

theorem redact_agrees {v w : Json} (h : Agrees HiddenInLog (fun _ _ => False) v w) :
    redact v = redact w := by
  induction v using redact.induct generalizing w with
  | case1 fields ih =>
    cases h with
    | same => rfl
    | fields h =>
      rw [redact, redact]
      congr 1
      refine h.map_eq ?_ ?_
      · intro key v w hvw
        simp only [hvw.1, hvw.2, if_true]
      · intro field hfield w hvw
        simp only [redacted_agrees hvw, ih field hfield hvw]
  | case2 items ih =>
    cases h with
    | same => rfl
    | items h => rw [redact, redact, h.map_eq fun v hv w hvw => ih v hv hvw]
  | case3 value hobj harr =>
    cases h with
    | same => rfl
    | embedded h => exact h.elim
    | items _ => exact absurd rfl (harr _)
    | fields _ => exact absurd rfl (hobj _)

theorem redactFields_agrees {xs ys : JsonObject}
    (h : AgreeFields HiddenInLog (fun _ _ => False) xs ys) : redactFields xs = redactFields ys := by
  have same := redact_agrees (.fields h)
  rw [redact_obj, redact_obj, Json.obj.injEq] at same
  exact same

/-- Of the values under one key only a flag escapes redaction. -/
theorem flag_of_redacted {key : String} {v w : Json} (hv : redacted key v = true)
    (hw : ¬redacted key w = true) : ∃ b, w = .bool b := by
  obtain ⟨sensitive, _⟩ := Bool.and_eq_true_iff.mp hv
  rw [redacted, sensitive, Bool.true_and] at hw
  cases w with
  | bool b => exact ⟨b, rfl⟩
  | _ => exact absurd rfl hw

/-- The marker is not what a flag is shown as. -/
theorem redacted_eq_of_shown {key : String} {v w : Json}
    (h : (if redacted key v then REDACTED else redact v) =
      (if redacted key w then REDACTED else redact w)) :
    HiddenInLog key v w ∨ redact v = redact w := by
  by_cases hv : redacted key v = true
  · by_cases hw : redacted key w = true
    · exact Or.inl ⟨hv, hw⟩
    · obtain ⟨b, rfl⟩ := flag_of_redacted hv hw
      rw [if_pos hv, if_neg hw] at h
      simp [redact, REDACTED] at h
  · by_cases hw : redacted key w = true
    · obtain ⟨b, rfl⟩ := flag_of_redacted hw hv
      rw [if_neg hv, if_pos hw] at h
      simp [redact, REDACTED] at h
    · rw [if_neg hv, if_neg hw] at h
      exact Or.inr h

theorem redact_eq_obj {w : Json} {fields : JsonObject} (h : redact w = .obj fields) :
    ∃ ys, w = .obj ys ∧ redactFields ys = fields := by
  cases w with
  | obj ys =>
    rw [redact_obj, Json.obj.injEq] at h
    exact ⟨ys, rfl, h⟩
  | _ => simp [redact] at h

theorem redact_eq_arr {w : Json} {items : List Json} (h : redact w = .arr items) :
    ∃ ys, w = .arr ys ∧ ys.map redact = items := by
  cases w with
  | arr ys =>
    rw [redact, Json.arr.injEq] at h
    exact ⟨ys, rfl, h⟩
  | _ => simp [redact] at h

theorem agreeItems_of_redact {xs ys : List Json} (h : ys.map redact = xs.map redact)
    (inner : ∀ v ∈ xs, ∀ w, redact v = redact w → Agrees HiddenInLog (fun _ _ => False) v w) :
    AgreeItems HiddenInLog (fun _ _ => False) xs ys := by
  induction xs generalizing ys with
  | nil =>
    obtain rfl := List.map_eq_nil_iff.mp h
    exact .nil
  | cons v xs ih =>
    obtain ⟨w, ys, rfl, same, later⟩ := List.map_eq_cons_iff.mp h
    exact .cons (inner v List.mem_cons_self w same.symm)
      (ih later fun v hv => inner v (List.mem_cons_of_mem _ hv))

theorem agreeFields_of_redact {xs ys : JsonObject} (h : redactFields ys = redactFields xs)
    (inner : ∀ field ∈ xs, ∀ w, redact field.2 = redact w →
      Agrees HiddenInLog (fun _ _ => False) field.2 w) :
    AgreeFields HiddenInLog (fun _ _ => False) xs ys := by
  induction xs generalizing ys with
  | nil =>
    obtain rfl := List.map_eq_nil_iff.mp h
    exact .nil
  | cons field xs ih =>
    obtain ⟨⟨l, w⟩, ys, rfl, same, later⟩ := List.map_eq_cons_iff.mp h
    obtain ⟨k, v⟩ := field
    obtain ⟨rfl, shown⟩ := Prod.mk.inj same
    have rest := ih later fun field hf => inner field (List.mem_cons_of_mem _ hf)
    rcases redacted_eq_of_shown shown.symm with hidden | same
    · exact .hidden hidden rest
    · exact .shown (inner (l, v) List.mem_cons_self w same) rest

theorem agrees_of_redact {v w : Json} (h : redact v = redact w) :
    Agrees HiddenInLog (fun _ _ => False) v w := by
  induction v using redact.induct generalizing w with
  | case1 fields ih =>
    rw [redact_obj] at h
    obtain ⟨ys, rfl, same⟩ := redact_eq_obj h.symm
    exact .fields (agreeFields_of_redact same fun field hf w => ih field hf)
  | case2 items ih =>
    rw [redact] at h
    obtain ⟨ys, rfl, same⟩ := redact_eq_arr h.symm
    exact .items (agreeItems_of_redact same fun v hv w => ih v hv)
  | case3 value hobj harr =>
    rw [redact_scalar hobj harr] at h
    -- so `w` is neither an object nor a list
    cases w with
    | obj fields =>
      rw [redact] at h
      exact absurd h (hobj _)
    | arr items =>
      rw [redact] at h
      exact absurd h (harr _)
    | _ =>
      rw [redact_scalar (by simp) (by simp)] at h
      exact h ▸ .same _

theorem concealed_update {d e : JsonObject} (hd : Concealed (.obj d)) (he : Concealed (.obj e)) :
    Concealed (.obj (OrderedDict.update d e)) := by
  rw [Concealed] at hd he ⊢
  intro field hfield
  rcases OrderedDict.mem_update hfield with new | old
  · exact he field new
  · exact hd field old

theorem shownId_concealed (record : LogRecord) : Concealed record.shownId := by
  unfold LogRecord.shownId
  dsimp only
  split
  · exact concealed_scalar (by simp) (by simp)
  · exact concealed_scalar (by simp) (by simp)

/-- The names of the formatter's own fields are not sensitive. -/
theorem own_concealed (record : LogRecord) : Concealed (.obj record.own) := by
  have plain : ∀ field ∈ record.own,
      sensitiveWords.any (containsText (loggedKey field.1)) = false := by
    unfold LogRecord.own
    simp only [List.forall_mem_cons, List.not_mem_nil, false_imp_iff, implies_true, and_true]
    decide
  have shown : ∀ field ∈ record.own, Concealed field.2 := by
    unfold LogRecord.own
    simp [shownId_concealed, Concealed]
  rw [Concealed]
  intro field hfield
  refine ⟨fun hidden => ?_, shown field hfield⟩
  rw [redacted, plain field hfield] at hidden
  cases hidden

/-- Of a dictionary that is logged, in whatever record, the line shows nothing that would be
redacted, at any depth. A dictionary without such values is the event as it is. The events of
two dictionaries are the same exactly if these differ at most in redacted values, and then so
are the lines. -/
theorem logged_dictionary_conceals (lib : DiagnosticLibrary) (record : LogRecord)
    (msg msg' : JsonObject) :
    Concealed (.obj (record.logs msg).line) ∧
      ((record.logs msg).event = msg ↔ Concealed (.obj msg)) ∧
      ((record.logs msg).event = (record.logs msg').event ↔
        AgreeFields HiddenInLog (fun _ _ => False) msg msg') ∧
      (AgreeFields HiddenInLog (fun _ _ => False) msg msg' →
        (record.logs msg).format lib = (record.logs msg').format lib) := by
  have same : (record.logs msg).event = (record.logs msg').event ↔
      AgreeFields HiddenInLog (fun _ _ => False) msg msg' :=
    ⟨fun h => agreeFields_of_redact h.symm fun _ _ _ => agrees_of_redact, redactFields_agrees⟩
  refine ⟨?_, redactFields_eq_self, same, ?_⟩
  · have event : Concealed (.obj (redactFields msg)) := redact_obj msg ▸ redact_concealed (.obj msg)
    exact concealed_update event (own_concealed _)
  · intro agree
    have line : (record.logs msg).line = (record.logs msg').line :=
      congrArg (fun event => OrderedDict.update event record.own) (same.mpr agree)
    rw [LogRecord.format, LogRecord.format, line]

/-- A password flag is shown under any spelling of its key, the password itself is not. -/
example (required : Bool) :
    redactFields [("pass_word", .bool required), ("PASSWORD", .str "x")] =
      [("pass_word", .bool required), ("PASSWORD", REDACTED)] := by
  have flag : redacted "pass_word" (.bool required) = false := by
    cases required with
    | _ => decide
  have text : redacted "PASSWORD" (.str "x") = true := by decide
  simp [redactFields, flag, text, redact]

end MeetingGateway
