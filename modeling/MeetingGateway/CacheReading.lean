import MeetingGateway.TokenFreshness
import MeetingGateway.AuthResponses

/-!
# Whatever the cache holds

`get_token` on the bytes under a token's key: they are decoded, decrypted with the key their
version names, read as JSON, and compared with the clock. Each stage has exceptions of its
own, and the handler around them expects three classes. An exception of another class leaves
the call, and the entry stays where it is.
-/

namespace MeetingGateway

/-- The library functions an entry goes through, with the exceptions they raise. `previousKeys`
is the environment's JSON text as `json.loads` reads it. -/
structure CacheLibrary where
  previousKeys : Except PyError Json
  fernet : String → String → Except PyError ByteArray
  jsonLoads : String → Except PyError Json
  fromIsoFormat : String → Except PyError Datetime
  previousKeysError : ∀ e, previousKeys = .error e → e = .valueError ∨ e = .recursionError
  fernetError : ∀ key text e, fernet key text = .error e → e = .valueError ∨ e = .invalidToken
  jsonError : ∀ text e, jsonLoads text = .error e → e = .valueError ∨ e = .recursionError
  isoError : ∀ text e, fromIsoFormat text = .error e → e = .valueError

/-- `CREDENTIAL_ENCRYPTION_KEY_VERSION` and `CREDENTIAL_ENCRYPTION_KEY`. -/
structure EncryptionKey where
  version : String
  key : String

/-- `bytes.decode()`. -/
def decodeUtf8 (bytes : ByteArray) : Except PyError String :=
  match String.fromUTF8? bytes with
  | some text => .ok text
  | none => .error .valueError

/-- `value.split(":", 1)` into two parts. -/
def splitVersion (value : String) : Except PyError (String × String) :=
  match value.toList.dropWhile (· ≠ ':') with
  | _ :: ciphertext =>
    .ok (String.ofList (value.toList.takeWhile (· ≠ ':')), String.ofList ciphertext)
  | [] => .error .valueError

section Reading
variable (lib : CacheLibrary) (current : EncryptionKey)

/-- `keys[version].encode()`; a key that is no text has no such method. -/
def keyOf (version : String) : Except PyError String :=
  match lib.previousKeys with
  | .error e => .error e
  | .ok (.obj keys) =>
    match OrderedDict.get? (OrderedDict.set keys current.version (.str current.key)) version with
    | none => .error .keyError
    | some (.str key) => .ok key
    | some _ => .error .unexpected
  | .ok _ => .error .typeError

def decryptText (value : String) : Except PyError String := do
  let parts ← splitVersion value
  let key ← keyOf lib current parts.1
  let plain ← lib.fernet key parts.2
  decodeUtf8 plain

/-- `json.loads(decrypt(raw.decode()))`. -/
def entryRecord (raw : ByteArray) : Except PyError Json := do
  let text ← decodeUtf8 raw
  let plain ← decryptText lib current text
  lib.jsonLoads plain

/-- `datetime.fromisoformat(item["expiry"]) if item["expiry"] else None`. -/
def entryExpiry (record : Json) : Except PyError (Option Datetime) := do
  let expiry ← subscript record "expiry"
  if expiry.truthy then
    match expiry with
    | .str text => (lib.fromIsoFormat text).map some
    | _ => .error .typeError
  else .ok none

/-- A naive time cannot be compared with an aware one. -/
def entryFresh (cfg : TokenSettings) (now : Int) : Option Datetime → Except PyError Bool
  | none => .ok true
  | some expiry =>
    if expiry.isNaive then .error .typeError else .ok (cfg.fresh (some expiry.instant) now)

/-- What the `try` block makes of an entry: a token to hand out, or none if it is stale. -/
def readEntry (cfg : TokenSettings) (now : Int) (raw : ByteArray) :
    Except PyError (Option (Json × Option Datetime)) := do
  let record ← entryRecord lib current raw
  let expiry ← entryExpiry lib record
  let fresh ← entryFresh cfg now expiry
  if fresh then
    let token ← subscript record "token"
    .ok (some (token, expiry))
  else .ok none

end Reading

/-- How a call ends: with what an entry holds, or as an authentication does. -/
inductive CallEnd where
  | served (token : Json) (expiry : Option Datetime)
  | ended (outcome : TokenOutcome)

/-- What an unforced call meets besides the entry: the clock where it is read, what
`client.authenticate` does, and the bytes that store a new token. -/
structure CallAnswers where
  comparedAt : Int
  authentication : TokenOutcome
  measuredAt : Int
  sealEntry : ProviderAuthResult → ByteArray

section Call
variable (lib : CacheLibrary) (current : EncryptionKey) (cfg : TokenSettings)
  (answers : CallAnswers)

/-- Authenticate; the entry is replaced by a new token that lasts. -/
def renewEntry (content : Option ByteArray) : CallEnd × Option ByteArray :=
  match answers.authentication with
  | .issued result =>
    if cfg.ttl result.expiresAt answers.measuredAt ≤ 0 then
      (.ended (.refused .providerTokenExpired none), content)
    else (.ended (.issued result), some (answers.sealEntry result))
  | outcome => (.ended outcome, content)

/-- `get_token` under the lock, and the entry it leaves. Empty bytes count as no entry. -/
def unforcedToken (content : Option ByteArray) : CallEnd × Option ByteArray :=
  match content with
  | none => renewEntry cfg answers none
  | some raw =>
    if raw.isEmpty then renewEntry cfg answers (some raw)
    else
      match readEntry lib current cfg answers.comparedAt raw with
      | .ok (some (token, expiry)) => (.served token expiry, some raw)
      | .ok none => renewEntry cfg answers (some raw)
      | .error e =>
        if e.discards then renewEntry cfg answers none else (.ended (.escaped e), some raw)

/-- The entry decrypts to a record with a token text that is still fresh. -/
inductive FreshRecord (raw : ByteArray) : String → Option Datetime → Prop
  | record {fields : JsonObject} {token : String} {expiry : Option Datetime} :
      entryRecord lib current raw = .ok (.obj fields) →
      fields.get? "token" = some (.str token) → entryExpiry lib (.obj fields) = .ok expiry →
      entryFresh cfg answers.comparedAt expiry = .ok true → FreshRecord raw token expiry

/-- The call ends as without an entry, and so does the cache if it ends with a token. -/
def EndsAsEmpty (content : Option ByteArray) : Prop :=
  let call := unforcedToken lib current cfg answers content
  let empty := unforcedToken lib current cfg answers none
  call.1 = empty.1 ∧ ∀ result, empty.1 = .ended (.issued result) → call.2 = empty.2

/-- The token of a fresh record is handed out; any other entry counts for nothing. -/
def ToleratesEntry (raw : ByteArray) : Prop :=
  (∃ token expiry, FreshRecord lib current cfg answers raw token expiry ∧
      unforcedToken lib current cfg answers (some raw) =
        (.served (.str token) expiry, some raw)) ∨
    ((¬ ∃ token expiry, FreshRecord lib current cfg answers raw token expiry) ∧
      EndsAsEmpty lib current cfg answers (some raw))

/-- The entry raises an exception that the handler does not expect: its key is configured as
something else than a text, its text is not authentic under that key, or a JSON text that it
needs is nested too deeply. -/
inductive Unexpected (raw : ByteArray) : PyError → Prop
  | keyNotText {text version ciphertext : String} : decodeUtf8 raw = .ok text →
      splitVersion text = .ok (version, ciphertext) →
      keyOf lib current version = .error .unexpected → Unexpected raw .unexpected
  | inauthentic {text version ciphertext key : String} : decodeUtf8 raw = .ok text →
      splitVersion text = .ok (version, ciphertext) → keyOf lib current version = .ok key →
      lib.fernet key ciphertext = .error .invalidToken → Unexpected raw .invalidToken
  | keysTooDeep {text version ciphertext : String} : decodeUtf8 raw = .ok text →
      splitVersion text = .ok (version, ciphertext) →
      lib.previousKeys = .error .recursionError → Unexpected raw .recursionError
  | recordTooDeep {text plain : String} : decodeUtf8 raw = .ok text →
      decryptText lib current text = .ok plain →
      lib.jsonLoads plain = .error .recursionError → Unexpected raw .recursionError

/-- A fresh record whose token is something else than a text. -/
def UntypedToken (raw : ByteArray) : Prop :=
  ∃ fields token expiry, entryRecord lib current raw = .ok (.obj fields) ∧
    OrderedDict.get? fields "token" = some token ∧ (∀ text, token ≠ .str text) ∧
    entryExpiry lib (.obj fields) = .ok expiry ∧
    entryFresh cfg answers.comparedAt expiry = .ok true

end Call

/-- A failing sequence fails in its first step or after it. -/
theorem bind_eq_error {α β : Type} {x : Except PyError α} {f : α → Except PyError β} {e : PyError} :
    x >>= f = .error e ↔ x = .error e ∨ ∃ a, x = .ok a ∧ f a = .error e := by
  cases x with
  | error e' =>
    constructor
    · rintro ⟨⟩
      exact Or.inl rfl
    · rintro (⟨⟨⟩⟩ | ⟨_, ⟨⟩, _⟩)
      rfl
  | ok a =>
    constructor
    · intro h
      exact Or.inr ⟨a, rfl, h⟩
    · rintro (⟨⟨⟩⟩ | ⟨_, ⟨⟩, h⟩)
      exact h

section Stages
variable {lib : CacheLibrary} {current : EncryptionKey} {cfg : TokenSettings} {e : PyError}

theorem decodeUtf8_error {bytes : ByteArray} (h : decodeUtf8 bytes = .error e) :
    e.discards = true := by
  unfold decodeUtf8 at h
  split at h
  · cases h
  · cases h
    rfl

theorem splitVersion_error {value : String} (h : splitVersion value = .error e) :
    e.discards = true := by
  unfold splitVersion at h
  split at h
  · cases h
  · cases h
    rfl

theorem subscript_error {value : Json} {key : String} (h : subscript value key = .error e) :
    e.discards = true := by
  unfold subscript at h
  split at h
  · split at h
    · cases h
    · cases h
      rfl
  · cases h
    rfl

theorem keyOf_error {version : String} (h : keyOf lib current version = .error e) :
    e.discards = true ∨ e = .unexpected ∨
      (e = .recursionError ∧ lib.previousKeys = .error .recursionError) := by
  unfold keyOf at h
  split at h
  · rename_i e' hkeys
    cases h
    rcases lib.previousKeysError e hkeys with rfl | rfl
    · exact Or.inl rfl
    · exact Or.inr (Or.inr ⟨rfl, hkeys⟩)
  · split at h
    · cases h
      exact Or.inl rfl
    · cases h
    · cases h
      exact Or.inr (Or.inl rfl)
  · cases h
    exact Or.inl rfl

theorem entryExpiry_error {record : Json} (h : entryExpiry lib record = .error e) :
    e.discards = true := by
  rcases bind_eq_error.mp h with hsub | ⟨expiry, _, h⟩
  · exact subscript_error hsub
  · split at h
    · split at h
      · rename_i text _ _
        cases hiso : lib.fromIsoFormat text with
        | ok d =>
          rw [hiso] at h
          cases h
        | error e' =>
          rw [hiso] at h
          cases h
          rw [lib.isoError text e hiso]
          rfl
      · cases h
        rfl
    · cases h

theorem entryFresh_error {now : Int} {expiry : Option Datetime}
    (h : entryFresh cfg now expiry = .error e) : e.discards = true := by
  unfold entryFresh at h
  split at h
  · cases h
  · split at h
    · cases h
      rfl
    · cases h

/-- An entry that cannot be read raises what the handler expects, or is one of the others. -/
theorem entryRecord_error {raw : ByteArray} (h : entryRecord lib current raw = .error e) :
    e.discards = true ∨ Unexpected lib current raw e := by
  rcases bind_eq_error.mp h with hutf | ⟨text, htext, h⟩
  · exact Or.inl (decodeUtf8_error hutf)
  rcases bind_eq_error.mp h with hdecrypt | ⟨plain, hplain, hjson⟩
  · rcases bind_eq_error.mp hdecrypt with hsplit | ⟨⟨version, ciphertext⟩, hparts, hdecrypt⟩
    · exact Or.inl (splitVersion_error hsplit)
    rcases bind_eq_error.mp hdecrypt with hkey | ⟨key, hkey, hdecrypt⟩
    · rcases keyOf_error hkey with discards | rfl | ⟨rfl, hkeys⟩
      · exact Or.inl discards
      · exact Or.inr (.keyNotText htext hparts hkey)
      · exact Or.inr (.keysTooDeep htext hparts hkeys)
    rcases bind_eq_error.mp hdecrypt with hfernet | ⟨bytes, _, hutf⟩
    · rcases lib.fernetError _ _ e hfernet with rfl | rfl
      · exact Or.inl rfl
      · exact Or.inr (.inauthentic htext hparts hkey hfernet)
    · exact Or.inl (decodeUtf8_error hutf)
  · rcases lib.jsonError plain e hjson with rfl | rfl
    · exact Or.inl rfl
    · exact Or.inr (.recordTooDeep htext hplain hjson)

/-- The other exceptions are raised, and are none of those the handler expects. -/
theorem unexpected_error {raw : ByteArray} (h : Unexpected lib current raw e) :
    entryRecord lib current raw = .error e ∧ e.discards = false := by
  have outer : ∀ text, decodeUtf8 raw = .ok text → ∀ e, decryptText lib current text = .error e →
      entryRecord lib current raw = .error e := by
    intro text htext e he
    exact bind_eq_error.mpr (Or.inr ⟨text, htext, bind_eq_error.mpr (Or.inl he)⟩)
  cases h with
  | keyNotText htext hparts hkey =>
    refine ⟨outer _ htext _ ?_, rfl⟩
    exact bind_eq_error.mpr (Or.inr ⟨_, hparts, bind_eq_error.mpr (Or.inl hkey)⟩)
  | inauthentic htext hparts hkey hfernet =>
    refine ⟨outer _ htext _ ?_, rfl⟩
    exact bind_eq_error.mpr (Or.inr ⟨_, hparts,
      bind_eq_error.mpr (Or.inr ⟨_, hkey, bind_eq_error.mpr (Or.inl hfernet)⟩)⟩)
  | @keysTooDeep text version ciphertext htext hparts hkeys =>
    refine ⟨outer _ htext _ ?_, rfl⟩
    have hkey : keyOf lib current version = .error .recursionError := by
      unfold keyOf
      rw [hkeys]
    exact bind_eq_error.mpr (Or.inr ⟨_, hparts, bind_eq_error.mpr (Or.inl hkey)⟩)
  | recordTooDeep htext hplain hjson =>
    exact ⟨bind_eq_error.mpr (Or.inr ⟨_, htext, bind_eq_error.mpr (Or.inr ⟨_, hplain, hjson⟩)⟩),
      rfl⟩

theorem subscript_ok {value item : Json} {key : String} :
    subscript value key = .ok item ↔
      ∃ fields, value = .obj fields ∧ OrderedDict.get? fields key = some item := by
  constructor
  · intro h
    unfold subscript at h
    split at h
    · rename_i fields
      split at h
      · rename_i hitem
        cases h
        exact ⟨fields, rfl, hitem⟩
      · cases h
    · cases h
  · rintro ⟨fields, rfl, hitem⟩
    simp [subscript, hitem]

section Entry
variable {now : Int} {raw : ByteArray}

theorem readEntry_served {token : Json} {expiry : Option Datetime} :
    readEntry lib current cfg now raw = .ok (some (token, expiry)) ↔
      ∃ fields, entryRecord lib current raw = .ok (.obj fields) ∧
        OrderedDict.get? fields "token" = some token ∧
        entryExpiry lib (.obj fields) = .ok expiry ∧ entryFresh cfg now expiry = .ok true := by
  simp only [readEntry, bind_eq_ok]
  constructor
  · rintro ⟨record, hrecord, expiry', hexpiry, fresh, hfresh, h⟩
    split at h
    · rename_i hkept
      obtain ⟨token', htoken, h⟩ := bind_eq_ok.mp h
      cases h
      obtain ⟨fields, rfl, hfield⟩ := subscript_ok.mp htoken
      rw [hkept] at hfresh
      exact ⟨fields, hrecord, hfield, hexpiry, hfresh⟩
    · cases h
  · rintro ⟨fields, hrecord, hfield, hexpiry, hfresh⟩
    refine ⟨_, hrecord, expiry, hexpiry, true, hfresh, ?_⟩
    rw [if_pos rfl, bind_eq_ok]
    exact ⟨token, subscript_ok.mpr ⟨fields, rfl, hfield⟩, rfl⟩

/-- The expiry of a stale entry is known and aware. -/
theorem readEntry_stale (h : readEntry lib current cfg now raw = .ok none) :
    ∃ expiry : Datetime, cfg.fresh (some expiry.instant) now = false := by
  simp only [readEntry, bind_eq_ok] at h
  obtain ⟨record, _, expiry, _, fresh, hfresh, h⟩ := h
  split at h
  · obtain ⟨token, _, h⟩ := bind_eq_ok.mp h
    cases h
  · rename_i hstale
    unfold entryFresh at hfresh
    split at hfresh
    · cases hfresh
      exact absurd rfl hstale
    · rename_i expiry _
      split at hfresh
      · cases hfresh
      · cases hfresh
        exact ⟨expiry, by simpa using hstale⟩

theorem readEntry_error (h : readEntry lib current cfg now raw = .error e) :
    e.discards = true ∨ Unexpected lib current raw e := by
  rcases bind_eq_error.mp h with hrecord | ⟨record, _, h⟩
  · exact entryRecord_error hrecord
  rcases bind_eq_error.mp h with hexpiry | ⟨expiry, _, h⟩
  · exact Or.inl (entryExpiry_error hexpiry)
  rcases bind_eq_error.mp h with hfresh | ⟨fresh, _, h⟩
  · exact Or.inl (entryFresh_error hfresh)
  split at h
  · rcases bind_eq_error.mp h with htoken | ⟨token, _, h⟩
    · exact Or.inl (subscript_error htoken)
    · cases h
  · cases h

theorem readEntry_unexpected (h : Unexpected lib current raw e) :
    readEntry lib current cfg now raw = .error e :=
  bind_eq_error.mpr (Or.inl (unexpected_error h).1)

/-- Empty bytes have no version. -/
theorem entryRecord_empty (h : raw.isEmpty = true) :
    entryRecord lib current raw = .error .valueError := by
  have hsize : raw.size = 0 := by simpa [ByteArray.isEmpty] using h
  have hempty : raw = ByteArray.empty := ByteArray.size_eq_zero_iff.mp hsize
  rw [hempty]
  rfl

end Entry
end Stages

section Tolerance
variable {lib : CacheLibrary} {current : EncryptionKey} {cfg : TokenSettings}
  {answers : CallAnswers} {raw : ByteArray}

/-- What replaces an entry does not depend on the entry, and a new token's entry is new. -/
theorem renewEntry_ends (content : Option ByteArray) :
    (renewEntry cfg answers content).1 = (renewEntry cfg answers none).1 ∧
      ∀ result, (renewEntry cfg answers none).1 = .ended (.issued result) →
        (renewEntry cfg answers content).2 = (renewEntry cfg answers none).2 := by
  unfold renewEntry
  cases answers.authentication with
  | issued result =>
    dsimp only
    split
    · refine ⟨rfl, ?_⟩
      rintro _ ⟨⟩
    · exact ⟨rfl, fun _ _ => rfl⟩
  | refused code statusCode =>
    refine ⟨rfl, ?_⟩
    rintro _ ⟨⟩
  | escaped e =>
    refine ⟨rfl, ?_⟩
    rintro _ ⟨⟩

theorem renewEntry_not_served (content : Option ByteArray) (token : Json)
    (expiry : Option Datetime) : (renewEntry cfg answers content).1 ≠ .served token expiry := by
  unfold renewEntry
  cases answers.authentication with
  | issued result =>
    dsimp only
    split
    · rintro ⟨⟩
    · rintro ⟨⟩
  | refused code statusCode => rintro ⟨⟩
  | escaped e => rintro ⟨⟩

theorem renewEntry_escaped {e : PyError} :
    (renewEntry cfg answers none).1 = .ended (.escaped e) ↔
      answers.authentication = .escaped e := by
  unfold renewEntry
  cases answers.authentication with
  | issued result =>
    dsimp only
    split
    · simp
    · simp
  | refused code statusCode => simp
  | escaped e' => simp

theorem freshRecord_iff {token : String} {expiry : Option Datetime} :
    FreshRecord lib current cfg answers raw token expiry ↔
      readEntry lib current cfg answers.comparedAt raw = .ok (some (.str token, expiry)) := by
  rw [readEntry_served]
  constructor
  · rintro ⟨hrecord, htoken, hexpiry, hfresh⟩
    exact ⟨_, hrecord, htoken, hexpiry, hfresh⟩
  · rintro ⟨fields, hrecord, htoken, hexpiry, hfresh⟩
    exact ⟨hrecord, htoken, hexpiry, hfresh⟩

theorem untypedToken_iff : UntypedToken lib current cfg answers raw ↔
    ∃ token expiry, readEntry lib current cfg answers.comparedAt raw = .ok (some (token, expiry)) ∧
      ∀ text, token ≠ .str text := by
  simp only [readEntry_served]
  constructor
  · rintro ⟨fields, token, expiry, hrecord, htoken, untyped, hexpiry, hfresh⟩
    exact ⟨token, expiry, ⟨fields, hrecord, htoken, hexpiry, hfresh⟩, untyped⟩
  · rintro ⟨token, expiry, ⟨fields, hrecord, htoken, hexpiry, hfresh⟩, untyped⟩
    exact ⟨fields, token, expiry, hrecord, htoken, untyped, hexpiry, hfresh⟩

/-- Where the call authenticates instead, the entry has counted for nothing. -/
theorem tolerates_unread (content : Option ByteArray)
    (hcall : unforcedToken lib current cfg answers (some raw) = renewEntry cfg answers content)
    (unserved : ∀ token expiry,
      readEntry lib current cfg answers.comparedAt raw ≠ .ok (some (token, expiry))) :
    ToleratesEntry lib current cfg answers raw := by
  refine Or.inr ⟨?_, ?_⟩
  · rintro ⟨token, expiry, fresh⟩
    exact unserved _ _ (freshRecord_iff.mp fresh)
  · rw [EndsAsEmpty, hcall]
    exact renewEntry_ends content

/-- A token that is handed out must be a text. -/
theorem tolerates_served_iff {token : Json} {expiry : Option Datetime}
    (hempty : raw.isEmpty = false)
    (hread : readEntry lib current cfg answers.comparedAt raw = .ok (some (token, expiry))) :
    ToleratesEntry lib current cfg answers raw ↔ ∃ text, token = .str text := by
  have hcall : unforcedToken lib current cfg answers (some raw) =
      (.served token expiry, some raw) := by
    simp [unforcedToken, hempty, hread]
  constructor
  · rintro (⟨text, expiry', fresh, _⟩ | ⟨_, same, _⟩)
    · rw [freshRecord_iff.mp fresh] at hread
      cases hread
      exact ⟨text, rfl⟩
    · rw [hcall] at same
      exact absurd same.symm (renewEntry_not_served none token expiry)
  · rintro ⟨text, rfl⟩
    exact Or.inl ⟨text, expiry, freshRecord_iff.mpr hread, hcall⟩

/-- An exception that leaves the call must be one the authentication would raise too. -/
theorem tolerates_escaped_iff {e : PyError} (hempty : raw.isEmpty = false)
    (hread : readEntry lib current cfg answers.comparedAt raw = .error e)
    (kept : e.discards = false) :
    ToleratesEntry lib current cfg answers raw ↔ answers.authentication = .escaped e := by
  have hcall : unforcedToken lib current cfg answers (some raw) =
      (.ended (.escaped e), some raw) := by
    simp [unforcedToken, hempty, hread, kept]
  have empty : unforcedToken lib current cfg answers none = renewEntry cfg answers none := rfl
  rw [← @renewEntry_escaped cfg answers e]
  constructor
  · rintro (⟨text, expiry, fresh, _⟩ | ⟨_, same, _⟩)
    · rw [freshRecord_iff.mp fresh] at hread
      cases hread
    · rw [hcall] at same
      exact same.symm
  · intro escaped
    refine Or.inr ⟨?_, ?_, ?_⟩
    · rintro ⟨token, expiry, fresh⟩
      rw [freshRecord_iff.mp fresh] at hread
      cases hread
    · rw [hcall]
      exact escaped.symm
    · intro result issued
      rw [empty, escaped] at issued
      cases issued

/-- The call tolerates its entry exactly unless reading it raises an exception of a class the
handler does not expect, one that the authentication would not raise anyway, or the entry
is a fresh record with a token that is no text. -/
theorem tolerates_entry_iff :
    ToleratesEntry lib current cfg answers raw ↔
      (∀ e, Unexpected lib current raw e → answers.authentication = .escaped e) ∧
        ¬ UntypedToken lib current cfg answers raw := by
  rw [untypedToken_iff]
  have raised : ∀ e, Unexpected lib current raw e →
      readEntry lib current cfg answers.comparedAt raw = .error e ∧ e.discards = false :=
    fun e unexpected => ⟨readEntry_unexpected unexpected, (unexpected_error unexpected).2⟩
  by_cases hempty : raw.isEmpty = true
  · have hread : readEntry lib current cfg answers.comparedAt raw = .error .valueError :=
      bind_eq_error.mpr (Or.inl (entryRecord_empty hempty))
    rw [hread] at raised ⊢
    refine iff_of_true (tolerates_unread (some raw) (by simp [unforcedToken, hempty])
      (by simp [hread])) ⟨?_, by simp⟩
    intro e unexpected
    obtain ⟨herror, kept⟩ := raised e unexpected
    cases herror
    cases kept
  · have filled : raw.isEmpty = false := by simpa using hempty
    cases hread : readEntry lib current cfg answers.comparedAt raw with
    | ok outcome =>
      rw [hread] at raised
      have expected : ∀ e, Unexpected lib current raw e → answers.authentication = .escaped e :=
        fun e unexpected => absurd (raised e unexpected).1 (by simp)
      rw [and_iff_right expected]
      cases outcome with
      | none =>
        refine iff_of_true (tolerates_unread (some raw) ?_ (by simp [hread])) (by simp)
        simp [unforcedToken, filled, hread]
      | some served =>
        obtain ⟨token, expiry⟩ := served
        rw [tolerates_served_iff filled hread]
        constructor
        · rintro ⟨text, rfl⟩ ⟨token', expiry', hserved, untyped⟩
          cases hserved
          exact untyped text rfl
        · intro typed
          by_contra untyped
          exact typed ⟨token, expiry, rfl, fun text htext => untyped ⟨text, htext⟩⟩
    | error e =>
      rw [hread] at raised
      rw [and_iff_left (by simp)]
      by_cases discards : e.discards = true
      · refine iff_of_true (tolerates_unread none ?_ (by simp [hread])) ?_
        · simp [unforcedToken, filled, hread, discards]
        · intro e' unexpected
          obtain ⟨herror, kept⟩ := raised e' unexpected
          cases herror
          rw [kept] at discards
          cases discards
      · have unexpected := (readEntry_error hread).resolve_left discards
        rw [tolerates_escaped_iff filled hread (by simpa using discards)]
        constructor
        · intro escaped e' unexpected'
          cases (raised e' unexpected').1
          exact escaped
        · intro escaped
          exact escaped e unexpected

end Tolerance

/-- What the caller sees; only a text is a token. -/
def CallEnd.outcome : CallEnd → TokenOutcome
  | .served (.str token) expiry => .issued ⟨token, expiry.map Datetime.instant⟩
  | .served _ _ => .escaped .unexpected
  | .ended outcome => outcome

section Machine
variable {lib : CacheLibrary} {current : EncryptionKey} {cfg : TokenSettings} {room : Room}
  {answers : TokenAnswers} {raw : ByteArray}

/-- The answers of the two models, where Redis does what it is told. -/
def callAnswers (cfg : TokenSettings) (room : Room) (answers : TokenAnswers)
    (sealEntry : ProviderAuthResult → ByteArray) : CallAnswers :=
  ⟨answers.comparedAt, authenticate cfg.toSettings room answers.exchange, answers.measuredAt,
    sealEntry⟩

theorem renewEntry_outcome (sealEntry : ProviderAuthResult → ByteArray)
    (kept : answers.stored = .ok ()) (content : Option ByteArray) :
    (renewEntry cfg (callAnswers cfg room answers sealEntry) content).1.outcome =
      renew cfg room answers := by
  unfold renewEntry renew callAnswers
  cases authenticate cfg.toSettings room answers.exchange with
  | issued result =>
    by_cases short : cfg.ttl result.expiresAt answers.measuredAt ≤ 0
    · simp [short, CallEnd.outcome]
    · simp [short, kept, CallEnd.outcome]
  | refused code statusCode => rfl
  | escaped e => rfl

theorem fresh_of_entryFresh {now : Int} {expiry : Option Datetime}
    (h : entryFresh cfg now expiry = .ok true) :
    cfg.fresh (expiry.map Datetime.instant) now = true := by
  unfold entryFresh at h
  split at h
  · rfl
  · split at h
    · cases h
    · simpa using h

/-- The bytes of an entry act in a call as one of the entries `getToken` is stated for. -/
theorem unforcedToken_underTokenLock (sealEntry : ProviderAuthResult → ByteArray)
    (kept : answers.stored = .ok ()) (deletes : answers.deleted = .ok ())
    (filled : raw.isEmpty = false)
    (typed : ¬ UntypedToken lib current cfg (callAnswers cfg room answers sealEntry) raw) :
    ∃ entry : Stored CacheText,
      underTokenLock cfg room false { answers with cached := .ok (some entry) } =
        (unforcedToken lib current cfg (callAnswers cfg room answers sealEntry)
          (some raw)).1.outcome := by
  have renewed := @renewEntry_outcome cfg room answers sealEntry kept
  have again : ∀ entry : Stored CacheText,
      renew cfg room { answers with cached := .ok (some entry) } = renew cfg room answers :=
    fun _ => rfl
  cases hread : readEntry lib current cfg answers.comparedAt raw with
  | ok found =>
    cases found with
    | none =>
      obtain ⟨expiry, stale⟩ := readEntry_stale hread
      refine ⟨encryptDumps cfg.keyring (.item ⟨"", some expiry.instant⟩), ?_⟩
      have hcall : unforcedToken lib current cfg (callAnswers cfg room answers sealEntry)
          (some raw) = renewEntry cfg (callAnswers cfg room answers sealEntry) (some raw) := by
        simp [unforcedToken, filled, callAnswers, hread]
      rw [hcall, renewed]
      simp [underTokenLock, readItem, stale, again]
    | some served =>
      obtain ⟨token, expiry⟩ := served
      have text : ∃ text, token = .str text := by
        by_contra untyped
        exact typed (untypedToken_iff.mpr
          ⟨token, expiry, hread, fun text htext => untyped ⟨text, htext⟩⟩)
      obtain ⟨text, rfl⟩ := text
      obtain ⟨_, _, _, _, hfresh⟩ := readEntry_served.mp hread
      refine ⟨encryptDumps cfg.keyring (.item ⟨text, expiry.map Datetime.instant⟩), ?_⟩
      simp [underTokenLock, readItem, fresh_of_entryFresh hfresh, unforcedToken, filled,
        callAnswers, hread, CallEnd.outcome]
  | error e =>
    refine ⟨encryptDumps cfg.keyring (.unreadable e), ?_⟩
    by_cases discards : e.discards = true
    · have hcall : unforcedToken lib current cfg (callAnswers cfg room answers sealEntry)
          (some raw) = renewEntry cfg (callAnswers cfg room answers sealEntry) none := by
        simp [unforcedToken, filled, callAnswers, hread, discards]
      rw [hcall, renewed]
      simp only [underTokenLock, readItem, discards, deletes, decrypt_encryptDumps, if_true]
      rfl
    · simp [underTokenLock, readItem, discards, unforcedToken, filled, callAnswers, hread,
        CallEnd.outcome]

end Machine

/-- The key an entry was written under is gone: nothing decrypts. -/
def exampleCacheLibrary : CacheLibrary where
  previousKeys := .ok (.obj [])
  fernet := fun _ _ => .error .invalidToken
  jsonLoads := fun _ => .error .valueError
  fromIsoFormat := fun _ => .error .valueError
  previousKeysError := by rintro e ⟨⟩
  fernetError := by
    rintro key text e ⟨⟩
    exact Or.inr rfl
  jsonError := by
    rintro text e ⟨⟩
    exact Or.inl rfl
  isoError := by
    rintro text e ⟨⟩
    rfl

def exampleCallAnswers : CallAnswers where
  comparedAt := 0
  authentication := .issued ⟨"T-2", some (3600 * secondMicroseconds)⟩
  measuredAt := 0
  sealEntry := fun result => ("1:" ++ result.accessToken).toUTF8

def exampleEntry : ByteArray := "1:gAAAA".toUTF8

/-- The provider would issue a token, and the call fails with `InvalidToken` instead. -/
theorem foreign_key_breaks_call :
    (unforcedToken exampleCacheLibrary ⟨"1", "key-2"⟩ exampleTokenSettings exampleCallAnswers
      (some exampleEntry)).1 = .ended (.escaped .invalidToken) ∧
    ¬ ToleratesEntry exampleCacheLibrary ⟨"1", "key-2"⟩ exampleTokenSettings exampleCallAnswers
      exampleEntry := by
  have hread : readEntry exampleCacheLibrary ⟨"1", "key-2"⟩ exampleTokenSettings 0 exampleEntry =
      .error .invalidToken := by
    rfl
  have hcall : unforcedToken exampleCacheLibrary ⟨"1", "key-2"⟩ exampleTokenSettings
        exampleCallAnswers (some exampleEntry) =
      (.ended (.escaped .invalidToken), some exampleEntry) := by
    have filled : exampleEntry.isEmpty = false := by decide
    simp [unforcedToken, filled, exampleCallAnswers, hread, PyError.discards]
  refine ⟨by rw [hcall], ?_⟩
  rintro (⟨text, expiry, _, served⟩ | ⟨_, same, _⟩)
  · rw [hcall] at served
    cases served
  · rw [hcall] at same
    have issued : (unforcedToken exampleCacheLibrary ⟨"1", "key-2"⟩ exampleTokenSettings
        exampleCallAnswers none).1 ≠ .ended (.escaped .invalidToken) :=
      fun h => by cases renewEntry_escaped.mp h
    exact issued same.symm

end MeetingGateway
