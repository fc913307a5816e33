import MeetingGateway.Diagnostics
import MeetingGateway.Library.MarkedReplacement

/-!
# The scrub loop

`sanitize_text` replaces one secret after another, the longest first; the order among secrets of
one length comes from a set. Secrets may overlap or lie in each other. Those without a bracket
that the word of the marker does not show are gone at the end of the loop, whatever the order.
-/

namespace MeetingGateway

open MarkedReplacement

/-- `REDACTED` between its brackets. -/
def redactedMarker : Marker Char := ⟨'[', "REDACTED".toList, ']'⟩

theorem redactedMarker_symbols : redactedMarker.symbols = "[REDACTED]".toList := by
  decide

/-- The loop of `sanitize_text`. -/
def replaceSecrets (order : List String) (value : String) : String :=
  order.foldl (fun value secret => replaceText value secret "[REDACTED]") value

/-- An order in which `sorted` may give the secrets. -/
structure LoopOrder (secrets order : List String) : Prop where
  members : ∀ s, s ∈ order ↔ s ∈ secretSet secrets
  descending : order.Pairwise fun s t => t.length ≤ s.length

/-- No bracket is in the secret, and it is no part of the word `REDACTED`. -/
structure Unmarked (secret : String) : Prop where
  opening : '[' ∉ secret.toList
  closing : ']' ∉ secret.toList
  word : containsText "REDACTED" secret = false

theorem containsText_iff {text word : String} :
    containsText text word = true ↔ word.toList <:+: text.toList := by
  rw [containsText, List.any_eq_true, List.infix_iff_prefix_suffix]
  constructor
  · rintro ⟨tail, htail, hprefix⟩
    exact ⟨tail, List.isPrefixOf_iff_prefix.mp hprefix, (List.mem_tails _ _).mp htail⟩
  · rintro ⟨tail, hprefix, hsuffix⟩
    exact ⟨tail, (List.mem_tails _ _).mpr hsuffix, List.isPrefixOf_iff_prefix.mpr hprefix⟩

theorem containsText_eq_false_iff {text word : String} :
    containsText text word = false ↔ ¬ word.toList <:+: text.toList := by
  rw [← containsText_iff, Bool.not_eq_true]

theorem Unmarked.plain {secret : String} (h : Unmarked secret) :
    Plain redactedMarker secret.toList where
  opening := h.opening
  closing := h.closing
  name := containsText_eq_false_iff.mp h.word

theorem mem_secretSet {secrets : List String} {s : String} :
    s ∈ secretSet secrets ↔ s ∈ secrets ∧ s ≠ "" := by
  simp [secretSet]

theorem toList_ne_nil {s : String} (h : s ≠ "") : s.toList ≠ [] := by
  simpa using h

/-- By induction on the text; what belongs to a match is skipped. -/
theorem replaceChars_replaced {secret marker : List Char} (hsecret : secret ≠ []) (skip : Nat)
    (text : List Char) :
    Replaced secret marker (text.drop skip) (replaceChars secret marker skip text) := by
  induction text generalizing skip with
  | nil =>
    rw [List.drop_nil, replaceChars]
    exact .nil hsecret
  | cons c rest ih =>
    cases skip with
    | succ skip =>
      rw [List.drop_succ_cons, replaceChars]
      exact ih skip
    | zero =>
      rw [List.drop_zero, replaceChars]
      by_cases hc : secret <+: c :: rest
      · have hrest : c :: rest = secret ++ rest.drop (secret.length - 1) := by
          cases secret with
          | nil => exact absurd rfl hsecret
          | cons d tail => simpa using (List.prefix_iff_eq_append.mp hc).symm
        rw [if_pos (List.isPrefixOf_iff_prefix.mpr hc), hrest]
        exact .mark hsecret (ih (secret.length - 1))
      · rw [if_neg (fun h => hc (List.isPrefixOf_iff_prefix.mp h))]
        exact .keep hc (ih 0)

theorem toList_replaceText (value secret marker : String) :
    (replaceText value secret marker).toList =
      replaceChars secret.toList marker.toList 0 value.toList :=
  String.toList_ofList

theorem replaceText_replaced {secret : String} (hsecret : secret ≠ "") (value : String) :
    Replaced secret.toList redactedMarker.symbols value.toList
      (replaceText value secret "[REDACTED]").toList := by
  rw [redactedMarker_symbols, toList_replaceText]
  exact replaceChars_replaced (toList_ne_nil hsecret) 0 value.toList

/-- The loop is a scan for each secret. -/
theorem replaceSecrets_replaced {order : List String} (horder : ∀ s ∈ order, s ≠ "")
    (value : String) :
    ReplacedAll redactedMarker.symbols (order.map String.toList) value.toList
      (replaceSecrets order value).toList := by
  induction order generalizing value with
  | nil => exact .nil
  | cons secret order ih =>
    have hsecret := horder secret List.mem_cons_self
    have hrest : ∀ s ∈ order, s ≠ "" := by
      intro s hs
      exact horder s (List.mem_cons_of_mem _ hs)
    exact .cons (replaceText_replaced hsecret value) (ih hrest _)

theorem loopOrder_sortedSecrets (lib : DiagnosticLibrary) (secrets : List String) :
    LoopOrder secrets (lib.sortedSecrets (secretSet secrets)) where
  members := lib.sortedSet (secretSet secrets)
  descending := lib.sorted (secretSet secrets)

theorem LoopOrder.nonempty {secrets order : List String} (h : LoopOrder secrets order) :
    ∀ s ∈ order, s ≠ "" := by
  intro s hs
  exact (mem_secretSet.mp ((h.members s).mp hs)).2

/-- One replacement removes its secret and brings no other one back. -/
theorem containsText_replaceText {secret s value : String} (hempty : secret ≠ "")
    (hsecret : Unmarked secret) (hs : Unmarked s)
    (h : containsText (replaceText value secret "[REDACTED]") s = true) :
    containsText value s = true ∧ s ≠ secret := by
  have hscan := replaceText_replaced hempty value
  have hresult := containsText_iff.mp h
  refine ⟨containsText_iff.mpr (hscan.occurred hs.plain hresult), ?_⟩
  rintro rfl
  exact hscan.removed hsecret.plain hresult

/-- An unmarked secret that has had its turn is gone, whatever the others are. -/
theorem containsText_replaceSecrets {order : List String} {s : String}
    (horder : ∀ s ∈ order, s ≠ "") (hmem : s ∈ order) (hs : Unmarked s) (text : String) :
    containsText (replaceSecrets order text) s = false := by
  have hturn : s.toList ∈ order.map String.toList := List.mem_map_of_mem hmem
  have hloop := replaceSecrets_replaced horder text
  exact containsText_eq_false_iff.mpr (hloop.removed hs.plain hturn)

/-- In whatever order secrets of equal length are processed, no secret occurs in the text after the
loop of `sanitize_text`, and no step of it uncovers another secret. -/
theorem no_secret_survives (secrets order : List String) (text : String)
    (hplain : ∀ s ∈ secretSet secrets, Unmarked s) (horder : LoopOrder secrets order) :
    (∀ s ∈ secretSet secrets, containsText (replaceSecrets order text) s = false) ∧
    (∀ secret ∈ secretSet secrets, ∀ s ∈ secretSet secrets, ∀ value,
      containsText (replaceText value secret "[REDACTED]") s = true →
        containsText value s = true ∧ s ≠ secret) ∧
    ∀ lib : DiagnosticLibrary, LoopOrder secrets (lib.sortedSecrets (secretSet secrets)) ∧
      sanitizeText lib secrets text =
        String.ofList ((lib.patterns
          (replaceSecrets (lib.sortedSecrets (secretSet secrets)) text)).toList.take 512) := by
  refine ⟨?_, ?_, fun lib => ⟨loopOrder_sortedSecrets lib secrets, rfl⟩⟩
  · intro s hs
    have hmem : s ∈ order := (horder.members s).mpr hs
    exact containsText_replaceSecrets horder.nonempty hmem (hplain s hs) text
  · intro secret hsecret s hs value h
    exact containsText_replaceText (mem_secretSet.mp hsecret).2 (hplain secret hsecret)
      (hplain s hs) h

/-- Three secrets, one of them a part of another and one over the end of both. -/
def exampleSecrets : List String := ["T-1", "2T", "T-12", ""]

theorem exampleSecrets_order : LoopOrder exampleSecrets ["T-12", "T-1", "2T"] where
  members := by
    intro s
    have hset : ["T-12", "T-1", "2T"].toFinset = secretSet exampleSecrets := by
      decide
    rw [← hset, List.mem_toFinset]
  descending := by
    decide

theorem exampleSecrets_unmarked : ∀ s ∈ secretSet exampleSecrets, Unmarked s := by
  intro s hs
  obtain ⟨hmem, hempty⟩ := mem_secretSet.mp hs
  simp only [exampleSecrets, List.mem_cons, List.not_mem_nil, or_false] at hmem
  rcases hmem with rfl | rfl | rfl | rfl
  · exact ⟨by decide, by decide, by decide⟩
  · exact ⟨by decide, by decide, by decide⟩
  · exact ⟨by decide, by decide, by decide⟩
  · exact absurd rfl hempty

theorem no_secret_survives_overlap :
    replaceSecrets ["T-12", "T-1", "2T"] "T-12T-1" = "[REDACTED][REDACTED]" ∧
      containsText "T-12T-1" "2T" = true ∧
      containsText (replaceSecrets ["T-12", "T-1", "2T"] "T-12T-1") "2T" = false := by
  refine ⟨by decide, by decide, ?_⟩
  exact (no_secret_survives exampleSecrets ["T-12", "T-1", "2T"] "T-12T-1"
    exampleSecrets_unmarked exampleSecrets_order).1 "2T" (by decide)

end MeetingGateway
