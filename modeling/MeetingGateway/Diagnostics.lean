import MeetingGateway.Python
import MeetingGateway.Library.GreatestFirst
import Mathlib.Data.Finset.Sort
import Mathlib.Data.String.Basic

/-!
# Provider diagnostics

`apps/convay/diagnostics.py`: outbound payloads and provider answers are logged without what
stands under a sensitive key. The recursions stop at a depth; here a function counts the levels
that are left. Secrets are the strings a caller names, and for an answer also those that stand
under sensitive keys in it.
-/

namespace MeetingGateway

/-- What the module takes from elsewhere: the order in which `sorted` puts the secrets, the four
`re.sub` calls, `json.loads`, whose exceptions are those the module expects, and `json.dumps`.
A text that is read as an object or a list starts with its bracket, after white space. -/
structure DiagnosticLibrary where
  sortedSecrets : Finset String → List String
  patterns : String → String
  jsonLoads : String → Except PyError Json
  jsonDumps : Json → Except PyError String
  sorted : ∀ secrets, (sortedSecrets secrets).Pairwise fun s t => t.length ≤ s.length
  sortedSet : ∀ secrets s, s ∈ sortedSecrets secrets ↔ s ∈ secrets
  objectText : ∀ text fields, jsonLoads text = .ok (.obj fields) →
    (lstrip text).toList.head? = some (Char.ofNat 123)
  listText : ∀ text items, jsonLoads text = .ok (.arr items) →
    (lstrip text).toList.head? = some '['

def REDACTED : Json := .str "[REDACTED]"

def TRUNCATED : Json := .str "[TRUNCATED]"

def OMITTED : Json := .str "[OMITTED]"

def diagnosticFields : List String :=
  ["message", "error", "errors", "detail", "details", "code", "status", "statuscode", "success",
    "title", "type", "validationerrors", "fielderrors"]

def omittedDiagnosticFields : List String := ["stacktrace", "trace", "exceptiontrace"]

/-- `SENSITIVE` of `common/logging.py`. -/
def sensitiveWords : List String :=
  ["password", "secret", "token", "authorization", "startmeetingurl", "credential"]

/-- `re.sub(r"[^a-z0-9]", "", key.lower())`. -/
def normalizedKey (key : String) : String :=
  String.ofList ((key.toList.flatMap lowerOne).filter fun c => c.isLower || c.isDigit)

/-- `word in text`. -/
def containsText (text word : String) : Bool :=
  text.toList.tails.any fun tail => word.toList.isPrefixOf tail

def sensitiveKey (key : String) : Bool :=
  let normalized := normalizedKey key
  sensitiveWords.any (containsText normalized) ||
    decide (normalized ∈ ["username", "email", "encryptionkey", "apikey"])

/-- `value.lstrip().startswith(("{", "["))`. -/
def looksNested (text : String) : Bool :=
  match (lstrip text).toList with
  | c :: _ => c = Char.ofNat 123 || c = '['
  | [] => false

/-- `value.replace(secret, marker)`; `skip` characters belong to a match. -/
def replaceChars (secret marker : List Char) : Nat → List Char → List Char
  | _, [] => []
  | skip + 1, _ :: rest => replaceChars secret marker skip rest
  | 0, c :: rest =>
    if secret.isPrefixOf (c :: rest) then
      marker ++ replaceChars secret marker (secret.length - 1) rest
    else c :: replaceChars secret marker 0 rest

def replaceText (value secret marker : String) : String :=
  String.ofList (replaceChars secret.toList marker.toList 0 value.toList)

section Functions
variable (lib : DiagnosticLibrary)

/-- The strings under sensitive keys, with `levels` to go. -/
def sensitiveValues : Nat → Json → List String
  | 0, _ => []
  | levels + 1, .obj fields =>
    fields.flatMap fun field =>
      (match field.2 with
        | .str item => if sensitiveKey field.1 && decide (item ≠ "") then [item] else []
        | _ => []) ++ sensitiveValues levels field.2
  | levels + 1, .arr items => items.flatMap (sensitiveValues levels)
  | levels + 1, .str text =>
    if looksNested text then
      match lib.jsonLoads text with
      | .ok nested => sensitiveValues levels nested
      | .error _ => []
    else []
  | _ + 1, _ => []

/-- The non-empty secrets as a set. -/
def secretSet (secrets : List String) : Finset String :=
  (secrets.filter fun s => decide (s ≠ "")).toFinset

def sanitizeText (secrets : List String) (value : String) : String :=
  let scrubbed := (lib.sortedSecrets (secretSet secrets)).foldl
    (fun value secret => replaceText value secret "[REDACTED]") value
  String.ofList ((lib.patterns scrubbed).toList.take 512)

/-- The Boolean `PASSWORD` flag is no credential. -/
def booleanPasswordFlag (key : String) (item : Json) : Bool :=
  match item with
  | .bool _ => decide (normalizedKey key = "password")
  | _ => false

def sanitizePayload (secrets : List String) : Nat → Json → Json
  | 0, _ => TRUNCATED
  | levels + 1, .obj fields =>
    .obj ((fields.take 100).foldl (fun result field =>
      OrderedDict.set result field.1
        (if sensitiveKey field.1 && !booleanPasswordFlag field.1 field.2 then REDACTED
        else sanitizePayload secrets levels field.2)) [])
  | levels + 1, .arr items => .arr ((items.take 100).map (sanitizePayload secrets levels))
  | _ + 1, .str text => .str (sanitizeText lib secrets text)
  | _ + 1, value => value

/-- The item of a field of a response may be walked into without a diagnostic name. -/
def walkable : Json → Bool
  | .obj _ => true
  | .arr _ => true
  | .str text => looksNested text
  | _ => false

def walk (secrets : List String) : Nat → Bool → Json → Json
  | 0, _, _ => TRUNCATED
  | levels + 1, diagnostic, .obj fields =>
    .obj ((fields.take 40).foldl (fun result field =>
      let safeKey := sanitizeText lib secrets field.1
      let normalized := normalizedKey field.1
      if normalized ∈ omittedDiagnosticFields then result
      else if sensitiveKey field.1 then OrderedDict.set result safeKey REDACTED
      else if diagnostic || decide (normalized ∈ diagnosticFields) then
        OrderedDict.set result safeKey (walk secrets levels true field.2)
      else if walkable field.2 then
        OrderedDict.set result safeKey (walk secrets levels false field.2)
      else OrderedDict.set result safeKey OMITTED) [])
  | levels + 1, diagnostic, .arr items =>
    .arr ((items.take 20).map (walk secrets levels diagnostic))
  | levels + 1, diagnostic, .str text =>
    match lib.jsonLoads text with
    | .ok (.obj fields) => walk secrets levels diagnostic (.obj fields)
    | .ok (.arr items) => walk secrets levels diagnostic (.arr items)
    | _ => if diagnostic then .str (sanitizeText lib secrets text) else OMITTED
  | _ + 1, diagnostic, value => if diagnostic then value else OMITTED

end Functions

/-- What `sanitize_response` reads of a response. -/
structure DiagnosticResponse where
  contentLength : Nat
  json : Except PyError Json
  text : String
  contentType : String

def summary (text : String) : Json := .obj [("summary", .str text)]

def sizeSummary : Json := summary "Upstream body omitted: exceeds diagnostic size limit."

section Response
variable (lib : DiagnosticLibrary)

/-- The walk over a body, and its text if it is too long. -/
def sanitizeBody (secrets : List String) (preserveSafeFields : Bool) (body : Json) :
    Except PyError Json :=
  let result := walk lib (secrets ++ sensitiveValues lib 9 body) 7 preserveSafeFields body
  match lib.jsonDumps result with
  | .error e => .error e
  | .ok encoded =>
    if encoded.length ≤ 8192 then .ok result
    else
      .ok (.obj [("summary", .str "Truncated sanitized diagnostics"),
        ("preview", .str (String.ofList (encoded.toList.take 8192)))])

/-- `content_type.split(";", 1)[0]`. -/
def beforeSemicolon (contentType : String) : String :=
  String.ofList (contentType.toList.takeWhile (· ≠ ';'))

def sanitizeResponse (response : Option DiagnosticResponse) (secrets : List String)
    (preserveSafeFields : Bool) : Except PyError Json :=
  match response with
  | none => .ok .null
  | some response =>
    if 1048576 < response.contentLength then .ok sizeSummary
    else
      match response.json with
      | .ok body => sanitizeBody lib secrets preserveSafeFields body
      | .error e =>
        if e = .valueError ∨ e = .typeError ∨ e = .recursionError then
          if 65536 < response.contentLength then .ok sizeSummary
          else
            .ok (.obj [("text", .str (sanitizeText lib secrets response.text)),
              ("content_type", .str (beforeSemicolon response.contentType))])
        else .error e

end Response

mutual

/-- Two JSON values are the same but for hidden fields, and but for texts that embed such
values. -/
inductive Agrees (hidden : String → Json → Json → Prop) (embeds : String → Json → Prop) :
    Json → Json → Prop
  | same (value : Json) : Agrees hidden embeds value value
  | embedded {s t : String} {v w : Json} : embeds s v → embeds t w → Agrees hidden embeds v w →
      Agrees hidden embeds (.str s) (.str t)
  | items {xs ys : List Json} : AgreeItems hidden embeds xs ys →
      Agrees hidden embeds (.arr xs) (.arr ys)
  | fields {xs ys : List (String × Json)} : AgreeFields hidden embeds xs ys →
      Agrees hidden embeds (.obj xs) (.obj ys)

inductive AgreeItems (hidden : String → Json → Json → Prop) (embeds : String → Json → Prop) :
    List Json → List Json → Prop
  | nil : AgreeItems hidden embeds [] []
  | cons {v w : Json} {xs ys : List Json} : Agrees hidden embeds v w →
      AgreeItems hidden embeds xs ys → AgreeItems hidden embeds (v :: xs) (w :: ys)

inductive AgreeFields (hidden : String → Json → Json → Prop) (embeds : String → Json → Prop) :
    List (String × Json) → List (String × Json) → Prop
  | nil : AgreeFields hidden embeds [] []
  | hidden {key : String} {v w : Json} {xs ys : List (String × Json)} : hidden key v w →
      AgreeFields hidden embeds xs ys → AgreeFields hidden embeds ((key, v) :: xs) ((key, w) :: ys)
  | shown {key : String} {v w : Json} {xs ys : List (String × Json)} : Agrees hidden embeds v w →
      AgreeFields hidden embeds xs ys → AgreeFields hidden embeds ((key, v) :: xs) ((key, w) :: ys)

end

/-- A Boolean under a password key is the same in both. -/
def HiddenInPayload (key : String) (v w : Json) : Prop :=
  sensitiveKey key = true ∧
    (normalizedKey key = "password" → ∀ b, v = .bool b ↔ w = .bool b)

def HiddenInResponse (key : String) (_ _ : Json) : Prop := sensitiveKey key = true

/-- The text encodes an object or a list. -/
def Embeds (lib : DiagnosticLibrary) (text : String) (value : Json) : Prop :=
  lib.jsonLoads text = .ok value ∧ ((∃ fields, value = .obj fields) ∨ ∃ items, value = .arr items)

section Runs
variable {lib : DiagnosticLibrary} {hidden : String → Json → Json → Prop}
  {embeds : String → Json → Prop} {secrets : List String}

theorem AgreeItems.map_eq {α : Type} {f g : Json → α} {xs ys : List Json}
    (h : AgreeItems hidden embeds xs ys)
    (hfg : ∀ v ∈ xs, ∀ w, Agrees hidden embeds v w → f v = g w) : xs.map f = ys.map g := by
  induction xs generalizing ys with
  | nil =>
    cases h
    rfl
  | cons v xs ih =>
    cases h with
    | cons hvw hrest =>
      rw [List.map_cons, List.map_cons, hfg v List.mem_cons_self _ hvw,
        ih hrest fun v hv => hfg v (List.mem_cons_of_mem _ hv)]

theorem AgreeItems.map_take {f g : Json → Json} {xs ys : List Json}
    (h : AgreeItems hidden embeds xs ys) (hfg : ∀ v w, Agrees hidden embeds v w → f v = g w)
    (n : Nat) : (xs.take n).map f = (ys.take n).map g := by
  rw [List.map_take, List.map_take, h.map_eq fun v _ => hfg v]

/-- A loop over the first fields does not tell them apart if its body does not. -/
theorem AgreeFields.foldl_take {α : Type} {step : α → String × Json → α}
    {xs ys : List (String × Json)} (h : AgreeFields hidden embeds xs ys)
    (hhidden : ∀ acc key v w, hidden key v w → step acc (key, v) = step acc (key, w))
    (hshown : ∀ acc key v w, Agrees hidden embeds v w → step acc (key, v) = step acc (key, w))
    (n : Nat) (acc : α) : (xs.take n).foldl step acc = (ys.take n).foldl step acc := by
  induction xs generalizing ys n acc with
  | nil =>
    cases h
    rfl
  | cons field xs ih =>
    cases n with
    | zero => rfl
    | succ n =>
      cases h with
      | hidden hvw hrest =>
        simp only [List.take_succ_cons, List.foldl_cons, hhidden _ _ _ _ hvw, ih hrest n]
      | shown hvw hrest =>
        simp only [List.take_succ_cons, List.foldl_cons, hshown _ _ _ _ hvw, ih hrest n]

theorem AgreeFields.map_eq {α : Type} {f : String × Json → α} {xs ys : List (String × Json)}
    (h : AgreeFields hidden embeds xs ys)
    (alike : ∀ key v w, hidden key v w → f (key, v) = f (key, w))
    (same : ∀ field ∈ xs, ∀ w, Agrees hidden embeds field.2 w → f field = f (field.1, w)) :
    xs.map f = ys.map f := by
  induction xs generalizing ys with
  | nil =>
    cases h
    rfl
  | cons field xs ih =>
    cases h with
    | hidden hvw rest =>
      rw [List.map_cons, List.map_cons, alike _ _ _ hvw,
        ih rest fun field hf => same field (List.mem_cons_of_mem _ hf)]
    | shown hvw rest =>
      rw [List.map_cons, List.map_cons, same _ List.mem_cons_self _ hvw,
        ih rest fun field hf => same field (List.mem_cons_of_mem _ hf)]

theorem booleanPasswordFlag_iff {key : String} {item : Json} :
    booleanPasswordFlag key item = true ↔ normalizedKey key = "password" ∧ ∃ b, item = .bool b := by
  cases item with
  | bool b => simp [booleanPasswordFlag]
  | _ => simp [booleanPasswordFlag]

/-- Hidden fields of a payload are redacted alike, or are the same flag. -/
theorem hiddenInPayload_redacted {key : String} {v w : Json} (h : HiddenInPayload key v w) :
    (booleanPasswordFlag key v = false ∧ booleanPasswordFlag key w = false) ∨ v = w := by
  obtain ⟨_, hflag⟩ := h
  by_cases hv : booleanPasswordFlag key v = true
  · obtain ⟨hname, b, rfl⟩ := booleanPasswordFlag_iff.mp hv
    exact Or.inr ((hflag hname b).mp rfl).symm
  · by_cases hw : booleanPasswordFlag key w = true
    · obtain ⟨hname, b, rfl⟩ := booleanPasswordFlag_iff.mp hw
      exact Or.inr ((hflag hname b).mpr rfl)
    · exact Or.inl ⟨by simpa using hv, by simpa using hw⟩

/-- By induction on the levels that are left. -/
theorem sanitizePayload_agrees (levels : Nat) {v w : Json}
    (h : Agrees HiddenInPayload (fun _ _ => False) v w) :
    sanitizePayload lib secrets levels v = sanitizePayload lib secrets levels w := by
  induction levels generalizing v w with
  | zero => rfl
  | succ levels ih =>
    cases h with
    | same => rfl
    | embedded h => exact h.elim
    | items h =>
      rw [sanitizePayload, sanitizePayload, h.map_take fun v w => ih]
    | fields h =>
      rw [sanitizePayload, sanitizePayload]
      congr 1
      refine h.foldl_take ?_ ?_ 100 []
      · intro result key v w hvw
        rcases hiddenInPayload_redacted hvw with ⟨hv, hw⟩ | rfl
        · simp [hv, hw, hvw.1]
        · rfl
      · intro result key v w hvw
        have hflag : booleanPasswordFlag key v = booleanPasswordFlag key w := by
          cases hvw with
          | same => rfl
          | embedded h => exact h.elim
          | items _ => rfl
          | fields _ => rfl
        simp only [hflag, ih hvw]

theorem looksNested_of_head {text : String} {c : Char} (hhead : (lstrip text).toList.head? = some c)
    (hc : c = Char.ofNat 123 ∨ c = '[') : looksNested text = true := by
  unfold looksNested
  cases hchars : (lstrip text).toList with
  | nil => simp [hchars] at hhead
  | cons d rest =>
    rw [hchars] at hhead
    cases hhead
    simpa using hc

/-- A text that embeds a value starts with a bracket. -/
theorem looksNested_of_embeds {text : String} {value : Json} (h : Embeds lib text value) :
    looksNested text = true := by
  obtain ⟨hload, ⟨fields, rfl⟩ | ⟨items, rfl⟩⟩ := h
  · exact looksNested_of_head (lib.objectText text fields hload) (Or.inl rfl)
  · exact looksNested_of_head (lib.listText text items hload) (Or.inr rfl)

theorem walkable_agrees {v w : Json} (h : Agrees hidden (Embeds lib) v w) :
    walkable v = walkable w := by
  cases h with
  | same => rfl
  | embedded hs ht _ =>
    rw [walkable, walkable, looksNested_of_embeds hs, looksNested_of_embeds ht]
  | items _ => rfl
  | fields _ => rfl

/-- The walk goes on into what a text embeds. -/
theorem walk_embedded {levels : Nat} {diagnostic : Bool} {text : String} {value : Json}
    (h : Embeds lib text value) :
    walk lib secrets (levels + 1) diagnostic (.str text) =
      walk lib secrets levels diagnostic value := by
  obtain ⟨hload, ⟨fields, rfl⟩ | ⟨items, rfl⟩⟩ := h
  · rw [walk, hload]
  · rw [walk, hload]

theorem walk_agrees (levels : Nat) (diagnostic : Bool) {v w : Json}
    (h : Agrees HiddenInResponse (Embeds lib) v w) :
    walk lib secrets levels diagnostic v = walk lib secrets levels diagnostic w := by
  induction levels generalizing diagnostic v w with
  | zero => rfl
  | succ levels ih =>
    cases h with
    | same => rfl
    | embedded hs ht h => rw [walk_embedded hs, walk_embedded ht, ih diagnostic h]
    | items h =>
      rw [walk, walk, h.map_take fun v w => ih diagnostic]
    | fields h =>
      rw [walk, walk]
      congr 1
      refine h.foldl_take ?_ ?_ 40 []
      · intro result key v w hvw
        simp only [show sensitiveKey key = true from hvw, if_true]
      · intro result key v w hvw
        simp only [ih _ hvw, walkable_agrees hvw]

/-- Names that the secrets contain already add nothing to their set. -/
theorem secretSet_append {found : List String} (h : ∀ s ∈ found, s ∈ secrets) :
    secretSet (secrets ++ found) = secretSet secrets := by
  ext s
  simp only [secretSet, List.mem_toFinset, List.mem_filter, List.mem_append, and_congr_left_iff]
  intro _
  exact or_iff_left_of_imp (h s)

/-- Texts are scrubbed by the set of the secrets. -/
theorem sanitizeText_congr {secrets' : List String} (h : secretSet secrets = secretSet secrets') :
    sanitizeText lib secrets = sanitizeText lib secrets' := by
  funext value
  rw [sanitizeText, sanitizeText, h]

theorem walk_congr {secrets' : List String} (h : secretSet secrets = secretSet secrets')
    (levels : Nat) : walk lib secrets levels = walk lib secrets' levels := by
  induction levels with
  | zero =>
    funext diagnostic value
    rfl
  | succ levels ih =>
    funext diagnostic value
    cases value with
    | obj fields => rw [walk, walk, ih, sanitizeText_congr h]
    | arr items => rw [walk, walk, ih]
    | str text => rw [walk, walk, ih, sanitizeText_congr h]
    | _ => rfl

theorem sanitizeBody_agrees {v w : Json} (preserve : Bool)
    (h : Agrees HiddenInResponse (Embeds lib) v w)
    (hv : ∀ s ∈ sensitiveValues lib 9 v, s ∈ secrets)
    (hw : ∀ s ∈ sensitiveValues lib 9 w, s ∈ secrets) :
    sanitizeBody lib secrets preserve v = sanitizeBody lib secrets preserve w := by
  rw [sanitizeBody, sanitizeBody, walk_congr (secretSet_append hv),
    walk_congr (secretSet_append hw),
    walk_agrees 7 preserve h]

/-- What is stored under sensitive keys leaves no trace in the diagnostics of payloads and
responses, apart from a Boolean password flag of a payload. -/
theorem credentials_stay_out (lib : DiagnosticLibrary) (secrets : List String) :
    (∀ v w, Agrees HiddenInPayload (fun _ _ => False) v w →
      sanitizePayload lib secrets 9 v = sanitizePayload lib secrets 9 w) ∧
    ∀ (first second : DiagnosticResponse) (v w : Json) (preserveSafeFields : Bool),
      first.contentLength ≤ 1048576 → second.contentLength ≤ 1048576 →
      first.json = .ok v → second.json = .ok w → Agrees HiddenInResponse (Embeds lib) v w →
      (∀ s ∈ sensitiveValues lib 9 v, s ∈ secrets) →
      (∀ s ∈ sensitiveValues lib 9 w, s ∈ secrets) →
      sanitizeResponse lib (some first) secrets preserveSafeFields =
        sanitizeResponse lib (some second) secrets preserveSafeFields := by
  refine ⟨fun v w h => sanitizePayload_agrees 9 h, ?_⟩
  intro first second v w preserve hfirst hsecond hv hw h hvs hws
  simp only [sanitizeResponse, not_lt.mpr hfirst, not_lt.mpr hsecond, if_false, hv, hw]
  exact sanitizeBody_agrees preserve h hvs hws

end Runs

def exampleAnswerBody (token : String) : Json :=
  .obj [("message", .str "invalid title"), ("accessToken", .str token)]

/-- The library on these answers: no pattern matches, no text in them is JSON, and the result has
this text. -/
def exampleDiagnosticLibrary : DiagnosticLibrary where
  sortedSecrets := fun secrets =>
    GreatestFirst.sort String.length (secrets.sort (· ≤ ·))
  patterns := id
  jsonLoads := fun _ => .error .valueError
  jsonDumps := fun _ =>
    .ok "\x7b\"message\": \"invalid title\", \"accessToken\": \"[REDACTED]\"\x7d"
  sorted := fun _ => GreatestFirst.sort_pairwise _ _
  sortedSet := fun secrets s => GreatestFirst.sort_perm.mem_iff.trans (Finset.mem_sort _)
  objectText := by
    rintro _ _ ⟨⟩
  listText := by
    rintro _ _ ⟨⟩

def exampleAnswerResponse (token : String) : DiagnosticResponse :=
  ⟨48, .ok (exampleAnswerBody token), "", "application/json"⟩

theorem exampleAnswers_agree (s t : String) :
    Agrees HiddenInResponse (Embeds exampleDiagnosticLibrary) (exampleAnswerBody s)
      (exampleAnswerBody t) := by
  refine .fields (.shown (.same _) (.hidden ?_ .nil))
  show sensitiveKey "accessToken" = true
  decide

theorem credentials_stay_out_token :
    sanitizeResponse exampleDiagnosticLibrary (some (exampleAnswerResponse "T-1"))
        ["T-1", "T-2"] true =
      sanitizeResponse exampleDiagnosticLibrary (some (exampleAnswerResponse "T-2"))
        ["T-1", "T-2"] true := by
  refine (credentials_stay_out exampleDiagnosticLibrary ["T-1", "T-2"]).2
    (exampleAnswerResponse "T-1") (exampleAnswerResponse "T-2") (exampleAnswerBody "T-1")
    (exampleAnswerBody "T-2") true (by decide) (by decide) rfl rfl (exampleAnswers_agree _ _) ?_ ?_
  · decide
  · decide

end MeetingGateway
