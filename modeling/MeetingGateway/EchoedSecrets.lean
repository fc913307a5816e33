import MeetingGateway.Scrubbing
import MeetingGateway.Library.BoundedDescent

/-!
# Secrets that an answer echoes

`sensitive_values` looks for the secrets of an answer that `sanitize_response` scrubs from its
texts. It takes a text that is stored under a sensitive key itself. A list or an object under such
a key is hidden as a whole, but the collector goes on into it with the test of each key alone.
-/

namespace MeetingGateway

open BoundedDescent

/-- The values one level below: items, and what a text encodes. -/
inductive Below (lib : DiagnosticLibrary) : Json → Json → Prop
  | field {fields : List (String × Json)} {key : String} {item : Json} : (key, item) ∈ fields →
      Below lib (.obj fields) item
  | item {items : List Json} {item : Json} : item ∈ items → Below lib (.arr items) item
  | nested {text : String} {nested : Json} : looksNested text = true →
      lib.jsonLoads text = .ok nested → Below lib (.str text) nested

/-- The value is an object with the item under a sensitive key. -/
def HoldsUnderKey (holder item : Json) : Prop :=
  ∃ fields key, holder = .obj fields ∧ (key, item) ∈ fields ∧ sensitiveKey key = true

section Positions
variable (lib : DiagnosticLibrary) (body : Json) (s : String)

/-- The text is stored under a sensitive key of an object to which the depth bound extends. -/
def StoredDirectly : Prop :=
  ∃ left holder, Descends (Below lib) 9 body (left + 1) holder ∧ HoldsUnderKey holder (.str s)

/-- The text is inside of a value under a sensitive key, where the depth bound extends to it. -/
def StoredInside : Prop :=
  ∃ levels holder item next left, Descends (Below lib) 9 body (levels + 2) holder ∧
    HoldsUnderKey holder item ∧ Below lib item next ∧
    Descends (Below lib) levels next (left + 1) (.str s)

def ContainerText : Prop := ∃ value, Embeds lib s value

/-- Every text that is hidden is one of the secrets that are replaced. -/
def EchoesScrubbed : Prop :=
  ∀ s, s ≠ "" → ¬ ContainerText lib s → StoredDirectly lib body s ∨ StoredInside lib body s →
    s ∈ sensitiveValues lib 9 body ∧
      ∀ secrets, s ∈ secretSet (secrets ++ sensitiveValues lib 9 body)

end Positions

section Collector
variable {lib : DiagnosticLibrary} {body : Json} {s : String}

/-- What a field holds itself. -/
def fieldValues (field : String × Json) : List String :=
  match field.2 with
  | .str item => if sensitiveKey field.1 && decide (item ≠ "") then [item] else []
  | _ => []

theorem mem_fieldValues {key : String} {item : Json} :
    s ∈ fieldValues (key, item) ↔ s ≠ "" ∧ item = .str s ∧ sensitiveKey key = true := by
  cases item with
  | str text =>
    by_cases hkey : sensitiveKey key = true
    · by_cases htext : text = ""
      · simp only [fieldValues, htext, Json.str.injEq]
        grind
      · simp only [fieldValues, Json.str.injEq]
        grind
    · simp [fieldValues, hkey]
  | _ => simp [fieldValues]

theorem sensitiveValues_obj (levels : Nat) (fields : List (String × Json)) :
    sensitiveValues lib (levels + 1) (.obj fields) =
      fields.flatMap fun field => fieldValues field ++ sensitiveValues lib levels field.2 :=
  rfl

theorem mem_sensitiveValues_nested {levels : Nat} {text : String} :
    s ∈ sensitiveValues lib (levels + 1) (.str text) ↔
      ∃ nested, looksNested text = true ∧ lib.jsonLoads text = .ok nested ∧
        s ∈ sensitiveValues lib levels nested := by
  rw [sensitiveValues]
  by_cases hnested : looksNested text = true
  · cases hload : lib.jsonLoads text with
    | ok nested => simp [hnested]
    | error e => simp [hnested]
  · simp [hnested]

/-- One level of the collector, by the kind of the value. -/
theorem sensitiveValues_level (levels : Nat) (value : Json) (s : String) :
    s ∈ sensitiveValues lib (levels + 1) value ↔
      (s ≠ "" ∧ HoldsUnderKey value (.str s)) ∨
        ∃ next, Below lib value next ∧ s ∈ sensitiveValues lib levels next := by
  cases value with
  | obj fields =>
    rw [sensitiveValues_obj, List.mem_flatMap]
    constructor
    · rintro ⟨⟨key, item⟩, hmem, hs⟩
      rcases List.mem_append.mp hs with hown | hnext
      · obtain ⟨hempty, rfl, hkey⟩ := mem_fieldValues.mp hown
        exact Or.inl ⟨hempty, fields, key, rfl, hmem, hkey⟩
      · exact Or.inr ⟨item, .field hmem, hnext⟩
    · rintro (⟨hempty, _, key, ⟨⟩, hmem, hkey⟩ | ⟨next, hbelow, hnext⟩)
      · exact ⟨_, hmem, List.mem_append_left _ (mem_fieldValues.mpr ⟨hempty, rfl, hkey⟩)⟩
      · cases hbelow with
        | field hmem => exact ⟨_, hmem, List.mem_append_right _ hnext⟩
  | arr items =>
    rw [sensitiveValues, List.mem_flatMap]
    constructor
    · rintro ⟨item, hmem, hs⟩
      exact Or.inr ⟨item, .item hmem, hs⟩
    · rintro (⟨_, _, _, ⟨⟩, _⟩ | ⟨next, hbelow, hnext⟩)
      cases hbelow with
      | item hmem => exact ⟨next, hmem, hnext⟩
  | str text =>
    rw [mem_sensitiveValues_nested]
    constructor
    · rintro ⟨nested, hlooks, hload, hs⟩
      exact Or.inr ⟨nested, .nested hlooks hload, hs⟩
    · rintro (⟨_, _, _, ⟨⟩, _⟩ | ⟨next, hbelow, hnext⟩)
      cases hbelow with
      | nested hlooks hload => exact ⟨next, hlooks, hload, hnext⟩
  | _ =>
    constructor
    · intro hs
      cases hs
    · rintro (⟨_, _, _, ⟨⟩, _⟩ | ⟨_, ⟨⟩, _⟩)

theorem sensitiveValues_collects :
    Collects (Below lib) (fun holder s => s ≠ "" ∧ HoldsUnderKey holder (.str s))
      fun levels value s => s ∈ sensitiveValues lib levels value where
  stop := by
    intro value s hs
    cases hs
  level := sensitiveValues_level

/-- The collector finds the texts that are stored under a sensitive key themselves. -/
theorem mem_sensitiveValues_iff :
    s ∈ sensitiveValues lib 9 body ↔ s ≠ "" ∧ StoredDirectly lib body s := by
  rw [sensitiveValues_collects.iff_descends 9 body s, StoredDirectly]
  constructor
  · rintro ⟨left, holder, hdown, hempty, hholds⟩
    exact ⟨hempty, left, holder, hdown, hholds⟩
  · rintro ⟨hempty, left, holder, hdown, hholds⟩
    exact ⟨left, holder, hdown, hempty, hholds⟩

theorem mem_secretSet_of_collected (hs : s ∈ sensitiveValues lib 9 body) (secrets : List String) :
    s ∈ secretSet (secrets ++ sensitiveValues lib 9 body) :=
  mem_secretSet.mpr ⟨List.mem_append_right _ hs, (mem_sensitiveValues_iff.mp hs).1⟩

theorem echoesScrubbed_of_stored
    (h : ∀ s, s ≠ "" → ¬ ContainerText lib s → StoredInside lib body s →
      StoredDirectly lib body s) : EchoesScrubbed lib body := by
  intro s hempty hplain hstored
  have hdirect : StoredDirectly lib body s := by
    rcases hstored with hdirect | hinside
    · exact hdirect
    · exact h s hempty hplain hinside
  have hcollected := mem_sensitiveValues_iff.mpr ⟨hempty, hdirect⟩
  exact ⟨hcollected, mem_secretSet_of_collected hcollected⟩

/-- A body that has nothing but plain values under its sensitive keys is scrubbed. -/
theorem echoesScrubbed_of_plain
    (h : ∀ left holder item next, Descends (Below lib) 9 body (left + 1) holder →
      HoldsUnderKey holder item → ¬ Below lib item next) : EchoesScrubbed lib body := by
  apply echoesScrubbed_of_stored
  rintro s _ _ ⟨levels, holder, item, next, _, hdown, hholds, hbelow, _⟩
  exact absurd hbelow (h (levels + 1) holder item next hdown hholds)

/-- A text that is stored under a sensitive key itself is gone from each text that the walk scrubs,
before the patterns are applied to it. -/
theorem stored_text_scrubbed {secrets : List String} (hempty : s ≠ "") (hplain : Unmarked s)
    (hstored : StoredDirectly lib body s) (text : String) :
    containsText (replaceSecrets
      (lib.sortedSecrets (secretSet (secrets ++ sensitiveValues lib 9 body))) text) s = false := by
  have horder := loopOrder_sortedSecrets lib (secrets ++ sensitiveValues lib 9 body)
  have hcollected := mem_sensitiveValues_iff.mpr ⟨hempty, hstored⟩
  have hmem := (horder.members s).mpr (mem_secretSet_of_collected hcollected secrets)
  exact containsText_replaceSecrets horder.nonempty hmem hplain text

end Collector

/-- What is hidden is scrubbed if and only if each text inside of a hidden value is also stored
under a sensitive key itself. -/
theorem echoesScrubbed_iff (lib : DiagnosticLibrary) (body : Json) :
    EchoesScrubbed lib body ↔
      ∀ s, s ≠ "" → ¬ ContainerText lib s → StoredInside lib body s →
        StoredDirectly lib body s := by
  constructor
  · intro h s hempty hplain hinside
    have hcollected := (h s hempty hplain (Or.inr hinside)).1
    exact (mem_sensitiveValues_iff.mp hcollected).2
  · exact echoesScrubbed_of_stored

/-- The message echoes a token that the answer has in a list. -/
def echoBody : Json :=
  .obj [("message", .str "token T-1 refused"), ("tokens", .arr [.str "T-1"])]

/-- No text of the answer is JSON, no pattern matches in it, and the result has this text. -/
def echoDiagnosticLibrary : DiagnosticLibrary :=
  { exampleDiagnosticLibrary with
    jsonDumps := fun _ =>
      .ok "\x7b\"message\": \"token T-1 refused\", \"tokens\": \"[REDACTED]\"\x7d" }

def echoResponse : DiagnosticResponse := ⟨51, .ok echoBody, "", "application/json"⟩

theorem sanitizeText_nil (lib : DiagnosticLibrary) (value : String) :
    sanitizeText lib [] value = String.ofList ((lib.patterns value).toList.take 512) := by
  have hnone : lib.sortedSecrets (secretSet []) = [] := by
    apply List.eq_nil_iff_forall_not_mem.mpr
    intro s hs
    have hmem := (lib.sortedSet (secretSet []) s).mp hs
    simp [secretSet] at hmem
  rw [sanitizeText, hnone]
  rfl

theorem echoBody_inside : StoredInside echoDiagnosticLibrary echoBody "T-1" := by
  refine ⟨7, echoBody, .arr [.str "T-1"], .str "T-1", 6, .here 9 echoBody, ?_,
    .item List.mem_cons_self, .here 7 _⟩
  exact ⟨_, "tokens", rfl, List.mem_cons_of_mem _ List.mem_cons_self, by decide⟩

theorem echoBody_collected : sensitiveValues echoDiagnosticLibrary 9 echoBody = [] := by
  decide

theorem echo_sanitizeText (text : String) (hlength : text.toList.length ≤ 512) :
    sanitizeText echoDiagnosticLibrary [] text = text := by
  rw [sanitizeText_nil]
  show String.ofList (text.toList.take 512) = text
  rw [List.take_of_length_le hlength, String.ofList_toList]

theorem echoBody_walk :
    walk echoDiagnosticLibrary [] 7 false echoBody =
      .obj [("message", .str "token T-1 refused"), ("tokens", REDACTED)] := by
  have hmessage := echo_sanitizeText "message" (by decide)
  have htokens := echo_sanitizeText "tokens" (by decide)
  have htext : walk echoDiagnosticLibrary [] 6 true (.str "token T-1 refused") =
      .str "token T-1 refused" := by
    show Json.str (sanitizeText echoDiagnosticLibrary [] "token T-1 refused") = _
    rw [echo_sanitizeText _ (by decide)]
  have hnames : normalizedKey "message" = "message" ∧ normalizedKey "tokens" = "tokens" := by
    decide
  have hkeys : sensitiveKey "message" = false ∧ sensitiveKey "tokens" = true := by
    decide
  rw [echoBody, walk]
  simp only [List.take_succ_cons, List.take_nil, List.foldl_cons, List.foldl_nil, hmessage, htokens,
    hnames.1, hnames.2, hkeys.1, hkeys.2, htext]
  rfl

/-- The token is hidden where it stands, and the message keeps it. -/
theorem tokens_echoed :
    ¬ EchoesScrubbed echoDiagnosticLibrary echoBody ∧
      sanitizeResponse echoDiagnosticLibrary (some echoResponse) [] false =
        .ok (.obj [("message", .str "token T-1 refused"), ("tokens", REDACTED)]) := by
  constructor
  · intro h
    have hplain : ¬ ContainerText echoDiagnosticLibrary "T-1" := by
      rintro ⟨value, ⟨⟩, _⟩
    have hcollected := (h "T-1" (by decide) hplain (Or.inr echoBody_inside)).1
    rw [echoBody_collected] at hcollected
    cases hcollected
  · have hbody : sanitizeBody echoDiagnosticLibrary [] false echoBody =
        .ok (.obj [("message", .str "token T-1 refused"), ("tokens", REDACTED)]) := by
      rw [sanitizeBody, echoBody_collected, List.append_nil, echoBody_walk]
      rfl
    exact hbody

end MeetingGateway
