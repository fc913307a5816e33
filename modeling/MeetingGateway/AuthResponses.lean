import MeetingGateway.Services

/-!
# Authentication responses

`normalize_auth`: the token of an authentication body and the earliest expiry found for
it. Two `try` blocks collect what bounds it: the `exp` claim of the token read as a JWT, and
what the body reports, where `expiresIn` is looked at only if there is no `expiresAt`.
-/

namespace MeetingGateway

/-- The library functions the parser applies to parts of the body. `decodeClaims` is
`json.loads` of `base64.urlsafe_b64decode`, `timedelta` takes seconds and gives microseconds. -/
structure AuthLibrary where
  jsonLoads : String → Except PyError Json
  decodeClaims : String → Except PyError Json
  toFloat : Json → Except PyError PyFloat
  fromTimestamp : PyFloat → Except PyError Datetime
  toText : Json → Except PyError String
  fromIsoFormat : String → Except PyError Datetime
  timedelta : PyFloat → Except PyError Int

/-- `ProviderAuthResult` as the parser fills it. -/
structure AuthFields extends ProviderAuthResult where
  refreshToken : Option Json

/-- `value[key]` for a text key. -/
def subscript (value : Json) (key : String) : Except PyError Json :=
  match value with
  | .obj fields =>
    match OrderedDict.get? fields key with
    | some item => .ok item
    | none => .error .keyError
  | _ => .error .typeError

/-- `data.get(key)`, where `None` and `null` are one. -/
def getField (fields : JsonObject) (key : String) : Option Json :=
  match fields.get? key with
  | some .null => none
  | found => found

/-- `segment + "=" * (-len(segment) % 4)`. -/
def padded (segment : List Char) : String :=
  String.ofList (segment ++ List.replicate ((4 - segment.length % 4) % 4) '=')

/-- `text.replace("Z", "+00:00")`. -/
def withOffset (text : String) : String :=
  String.ofList (text.toList.flatMap fun c => if c = 'Z' then "+00:00".toList else [c])

section Parser
variable (lib : AuthLibrary)

/-- The `data` of a body that signals success; a text may encode an object. -/
def authData (body : JsonObject) : Except PyError Json :=
  match body.get? "success" with
  | some (.bool true) =>
    match body.get? "data" with
    | none => .error .keyError
    | some (.str text) =>
      if (lstrip text).startsWith "\x7b" then lib.jsonLoads text else .ok (.str text)
    | some data => .ok data
  | _ => .error .valueError

def dataToken (data : Json) : Except PyError String :=
  match (match data with
    | .obj fields => (OrderedDict.get? fields "accessToken").getD .null
    | other => other) with
  | .str token => if token = "" ∨ 32768 < token.length then .error .valueError else .ok token
  | _ => .error .valueError

def dataRefresh : Json → Option Json
  | .obj fields => getField fields "refreshToken"
  | _ => none

/-- The first `try` block: the second segment of the token as a JWT's claims. -/
def expClaim (segment : List Char) : Except PyError Int := do
  let claims ← lib.decodeClaims (padded segment)
  let exp ← subscript claims "exp"
  let seconds ← lib.toFloat exp
  let expiry ← lib.fromTimestamp seconds
  .ok expiry.instant

def isoExpiry (reported : Json) : Except PyError Int := do
  let text ← lib.toText reported
  let expiry ← lib.fromIsoFormat (withOffset text)
  if expiry.isNaive then .error .valueError else .ok expiry.instant

def relativeExpiry (now : Datetime) (seconds : Json) : Except PyError Int := do
  let float ← lib.toFloat seconds
  let delta ← lib.timedelta float
  let expiry ← now.add delta
  .ok expiry.instant

/-- `pass` for the exceptions a block expects; any other escapes. -/
def passing (expected : PyError → Bool) : Except PyError Int → Except PyError (Option Int)
  | .ok expiry => .ok (some expiry)
  | .error e => if expected e then .ok none else .error e

/-- The first block expects `KeyError` too; `IndexError`, the second segment being absent, is
the caller's `none`. -/
def PyError.claimError : PyError → Bool
  | .valueError | .keyError | .typeError | .overflowError => true
  | _ => false

def PyError.reportError : PyError → Bool
  | .valueError | .typeError | .overflowError => true
  | _ => false

def jwtExpiry (token : String) : Except PyError (Option Int) :=
  match (token.toList.splitOn '.')[1]? with
  | none => .ok none
  | some segment => passing PyError.claimError (expClaim lib segment)

/-- The second block; a token text reports nothing. -/
def reportedExpiry (now : Datetime) : Json → Except PyError (Option Int)
  | .obj fields =>
    match getField fields "expiresAt" with
    | some reported => passing PyError.reportError (isoExpiry lib reported)
    | none =>
      match getField fields "expiresIn" with
      | some seconds => passing PyError.reportError (relativeExpiry lib now seconds)
      | none => .ok none
  | _ => .ok none

/-- `min(expiry, reported) if expiry else reported`, where there is a report. -/
def earlier : Option Int → Option Int → Option Int
  | some a, some b => some (if b < a then b else a)
  | some a, none => some a
  | none, b => b

/-- `except (ValueError, KeyError, TypeError, AttributeError)`. -/
def PyError.malformedAuth : PyError → Bool
  | .valueError | .keyError | .typeError => true
  | _ => false

def malformedAuth (e : PyError) : Raised :=
  if e.malformedAuth then .provider { code := .malformedAuthResponse } else .python e

def normalizeAuth (now : Datetime) (body : JsonObject) : Except Raised AuthFields :=
  match authData lib body with
  | .error e => .error (malformedAuth e)
  | .ok data =>
    match dataToken data with
    | .error e => .error (malformedAuth e)
    | .ok token =>
      match jwtExpiry lib token, reportedExpiry lib now data with
      | .ok claimed, .ok reported => .ok ⟨⟨token, earlier claimed reported⟩, dataRefresh data⟩
      | .error e, _ => .error (.python e)
      | .ok _, .error e => .error (.python e)

end Parser

/-- The least of some instants, and `none` if there are none. -/
def IsEarliest (instants : Int → Prop) : Option Int → Prop
  | some t => instants t ∧ ∀ t', instants t' → t ≤ t'
  | none => ∀ t, ¬ instants t

section Bounds
variable (lib : AuthLibrary) (now : Datetime) (data : Json) (token : String)

/-- An `exp` claim of the token read as a JWT, of a form that is asked for. -/
inductive ExpClaim (form : Json → Bool) : Int → Prop
  | claim {segment : List Char} {claims exp : Json} {seconds : PyFloat} {expiry : Datetime} :
      (token.toList.splitOn '.')[1]? = some segment →
      lib.decodeClaims (padded segment) = .ok claims → subscript claims "exp" = .ok exp →
      form exp = true → lib.toFloat exp = .ok seconds → lib.fromTimestamp seconds = .ok expiry →
      ExpClaim form expiry.instant

/-- The numeric `exp` claim. -/
def ExpBound : Int → Prop := ExpClaim lib token Json.isNumber

/-- An `exp` claim that is no number, but a text or a Boolean that `float` reads. -/
def MisreadExp : Int → Prop := ExpClaim lib token fun exp => !exp.isNumber

/-- The ISO time of `data.expiresAt`, which has an offset. -/
inductive ExpiresAtBound : Int → Prop
  | iso {fields : JsonObject} {reported : Json} {text : String} {expiry : Datetime} :
      data = .obj fields → getField fields "expiresAt" = some reported →
      lib.toText reported = .ok text → lib.fromIsoFormat (withOffset text) = .ok expiry →
      expiry.isNaive = false → ExpiresAtBound expiry.instant

/-- `now + data.expiresIn`. -/
inductive ExpiresInBound : Int → Prop
  | relative {fields : JsonObject} {seconds : Json} {float : PyFloat} {delta : Int}
      {expiry : Datetime} : data = .obj fields → getField fields "expiresIn" = some seconds →
      lib.toFloat seconds = .ok float → lib.timedelta float = .ok delta →
      now.add delta = .ok expiry → ExpiresInBound expiry.instant

inductive WellFormedBound : Int → Prop
  | exp {t : Int} : ExpBound lib token t → WellFormedBound t
  | expiresAt {t : Int} : ExpiresAtBound lib data t → WellFormedBound t
  | expiresIn {t : Int} : ExpiresInBound lib now data t → WellFormedBound t

/-- There is an `expiresAt`, of whatever form, and `expiresIn` is earlier than all others. -/
def HiddenExpiresIn : Prop :=
  (∃ fields reported, data = .obj fields ∧ getField fields "expiresAt" = some reported) ∧
    ∃ t, ExpiresInBound lib now data t ∧
      ∀ t', (ExpBound lib token t' ∨ ExpiresAtBound lib data t') ∨ MisreadExp lib token t' →
        t < t'

/-- A claim that is no number is earlier than every well-formed bound. -/
def MisreadFirst : Prop :=
  ∃ t, MisreadExp lib token t ∧ ∀ t', WellFormedBound lib now data token t' → t < t'

end Bounds

/-- A sequence of steps succeeds if each of them does. -/
theorem bind_eq_ok {α β : Type} {x : Except PyError α} {f : α → Except PyError β} {b : β} :
    x >>= f = .ok b ↔ ∃ a, x = .ok a ∧ f a = .ok b := by
  cases x with
  | error e =>
    constructor
    · rintro ⟨⟩
    · rintro ⟨_, ⟨⟩, _⟩
  | ok a =>
    constructor
    · intro h
      exact ⟨a, rfl, h⟩
    · rintro ⟨_, ⟨⟩, h⟩
      exact h

theorem passing_ok {expected : PyError → Bool} {x : Except PyError Int} {found : Option Int}
    (h : passing expected x = .ok found) (t : Int) : found = some t ↔ x = .ok t := by
  unfold passing at h
  split at h
  · cases h
    simp
  · split at h
    · cases h
      simp
    · cases h

section Blocks
variable {lib : AuthLibrary} {now : Datetime} {data : Json} {token : String}
  {claimed reported found : Option Int}

/-- The first block counts the claim whether it is a number or misread. -/
theorem claimed_iff (h : jwtExpiry lib token = .ok claimed) (t : Int) :
    ExpBound lib token t ∨ MisreadExp lib token t ↔ claimed = some t := by
  unfold jwtExpiry at h
  split at h
  · rename_i hsegment
    cases h
    have nowhere : ∀ form, ¬ ExpClaim lib token form t := by
      rintro form ⟨hsome, _, _, _, _, _⟩
      rw [hsegment] at hsome
      cases hsome
    simp [ExpBound, MisreadExp, nowhere]
  · rename_i segment hsegment
    rw [passing_ok h]
    simp only [expClaim, bind_eq_ok]
    constructor
    · have counted : ∀ form, ExpClaim lib token form t → ∃ claims,
          lib.decodeClaims (padded segment) = .ok claims ∧ ∃ exp,
            subscript claims "exp" = .ok exp ∧ ∃ seconds, lib.toFloat exp = .ok seconds ∧
              ∃ expiry, lib.fromTimestamp seconds = .ok expiry ∧
                Except.ok (ε := PyError) expiry.instant = .ok t := by
        rintro form ⟨hsome, hclaims, hexp, _, hseconds, hexpiry⟩
        rw [hsegment] at hsome
        cases hsome
        exact ⟨_, hclaims, _, hexp, _, hseconds, _, hexpiry, rfl⟩
      rintro (hnumber | hmisread)
      · exact counted _ hnumber
      · exact counted _ hmisread
    · rintro ⟨claims, hclaims, exp, hexp, seconds, hseconds, expiry, hexpiry, ⟨⟩⟩
      cases hform : exp.isNumber with
      | true => exact Or.inl (.claim hsegment hclaims hexp hform hseconds hexpiry)
      | false => exact Or.inr (.claim hsegment hclaims hexp (by simp [hform]) hseconds hexpiry)

theorem isoExpiry_iff {value : Json} (t : Int) : isoExpiry lib value = .ok t ↔
    ∃ text expiry, lib.toText value = .ok text ∧
      lib.fromIsoFormat (withOffset text) = .ok expiry ∧ expiry.isNaive = false ∧
      expiry.instant = t := by
  simp only [isoExpiry, bind_eq_ok]
  constructor
  · rintro ⟨text, htext, expiry, hexpiry, h⟩
    split at h
    · cases h
    · rename_i haware
      cases h
      exact ⟨text, expiry, htext, hexpiry, by simpa using haware, rfl⟩
  · rintro ⟨text, expiry, htext, hexpiry, haware, rfl⟩
    exact ⟨text, htext, expiry, hexpiry, by simp [haware]⟩

/-- With an `expiresAt` the second block finds that bound or nothing. -/
theorem expiresAtBound_iff {fields : JsonObject} {value : Json}
    (present : getField fields "expiresAt" = some value)
    (h : reportedExpiry lib now (.obj fields) = .ok reported) (t : Int) :
    ExpiresAtBound lib (.obj fields) t ↔ reported = some t := by
  simp only [reportedExpiry, present] at h
  rw [passing_ok h, isoExpiry_iff]
  constructor
  · rintro ⟨hfields, hvalue, htext, hexpiry, haware⟩
    cases hfields
    rw [present] at hvalue
    cases hvalue
    exact ⟨_, _, htext, hexpiry, haware, rfl⟩
  · rintro ⟨text, expiry, htext, hexpiry, haware, rfl⟩
    exact .iso rfl present htext hexpiry haware

/-- Without one it finds the bound of `expiresIn`, and there is no other report. -/
theorem expiresInBound_iff {fields : JsonObject} (absent : getField fields "expiresAt" = none)
    (h : reportedExpiry lib now (.obj fields) = .ok reported) (t : Int) :
    ExpiresInBound lib now (.obj fields) t ↔ reported = some t := by
  simp only [reportedExpiry, absent] at h
  split at h
  · rename_i seconds hseconds
    rw [passing_ok h]
    simp only [relativeExpiry, bind_eq_ok]
    constructor
    · rintro ⟨hfields, hvalue, hfloat, hdelta, hexpiry⟩
      cases hfields
      rw [hseconds] at hvalue
      cases hvalue
      exact ⟨_, hfloat, _, hdelta, _, hexpiry, rfl⟩
    · rintro ⟨float, hfloat, delta, hdelta, expiry, hexpiry, ⟨⟩⟩
      exact .relative rfl hseconds hfloat hdelta hexpiry
  · rename_i hseconds
    cases h
    constructor
    · rintro ⟨hfields, hvalue, _, _, _⟩
      cases hfields
      rw [hseconds] at hvalue
      cases hvalue
    · rintro ⟨⟩

end Blocks

section Earliest
variable {p q r : Int → Prop}

theorem isEarliest_earlier {a b : Option Int} (hp : ∀ t, p t ↔ a = some t)
    (hq : ∀ t, q t ↔ b = some t) : IsEarliest (fun t => p t ∨ q t) (earlier a b) := by
  cases a with
  | none =>
    cases b with
    | none => simp [earlier, IsEarliest, hp, hq]
    | some b => simp [earlier, IsEarliest, hp, hq]
  | some a =>
    cases b with
    | none => simp [earlier, IsEarliest, hp, hq]
    | some b =>
      simp only [earlier, IsEarliest, hp, hq, Option.some.injEq]
      split
      · exact ⟨Or.inr rfl, by rintro t (rfl | rfl) <;> omega⟩
      · exact ⟨Or.inl rfl, by rintro t (rfl | rfl) <;> omega⟩

/-- What is earliest among `p` and `q` is so among `p` and `r` exactly unless one of `r` is
before all of the former or one of `q` before all of the latter. -/
theorem isEarliest_exchange {o : Option Int} (h : IsEarliest (fun t => p t ∨ q t) o) :
    IsEarliest (fun t => p t ∨ r t) o ↔
      (¬ ∃ t, r t ∧ ∀ t', p t' ∨ q t' → t < t') ∧ ¬ ∃ t, q t ∧ ∀ t', p t' ∨ r t' → t < t' := by
  cases o with
  | none =>
    have absent : ∀ t, ¬ q t := fun t hq => h t (Or.inr hq)
    constructor
    · intro none_at_all
      exact ⟨fun ⟨t, hr, _⟩ => none_at_all t (Or.inr hr), fun ⟨t, hq, _⟩ => absent t hq⟩
    · rintro ⟨late, _⟩ t (hp | hr)
      · exact h t (Or.inl hp)
      · exact late ⟨t, hr, fun t' hpq => absurd hpq (h t')⟩
  | some least =>
    obtain ⟨found, below⟩ := h
    constructor
    · rintro ⟨found', below'⟩
      constructor
      · rintro ⟨t, hr, before⟩
        have hle := below' t (Or.inr hr)
        have hlt := before least found
        omega
      · rintro ⟨t, hq, before⟩
        have hle := below t (Or.inr hq)
        have hlt := before least found'
        omega
    · rintro ⟨late, first⟩
      have below' : ∀ t, p t ∨ r t → least ≤ t := by
        rintro t (hp | hr)
        · exact below t (Or.inl hp)
        · by_contra hlt
          refine late ⟨t, hr, ?_⟩
          intro t' hpq
          have hle := below t' hpq
          omega
      refine ⟨?_, below'⟩
      rcases found with hp | hq
      · exact Or.inl hp
      · by_contra hother
        refine first ⟨least, hq, ?_⟩
        intro t ht
        have hle := below' t ht
        have hne : t ≠ least := by
          rintro rfl
          exact hother ht
        omega

theorem isEarliest_congr {o : Option Int} (same : ∀ t, p t ↔ q t) :
    IsEarliest p o ↔ IsEarliest q o := by
  rw [show p = q from funext fun t => propext (same t)]

end Earliest

section Normalize
variable {lib : AuthLibrary} {now : Datetime} {data : Json} {token : String}

theorem wellFormedBound_iff (t : Int) : WellFormedBound lib now data token t ↔
    (ExpBound lib token t ∨ ExpiresAtBound lib data t) ∨ ExpiresInBound lib now data t := by
  constructor
  · intro h
    cases h with
    | exp h => exact Or.inl (Or.inl h)
    | expiresAt h => exact Or.inl (Or.inr h)
    | expiresIn h => exact Or.inr h
  · rintro ((h | h) | h)
    · exact .exp h
    · exact .expiresAt h
    · exact .expiresIn h

/-- The two blocks together find the earliest bound unless one is hidden or misread. -/
theorem earlier_blocks_iff {claimed reported : Option Int}
    (hclaimed : jwtExpiry lib token = .ok claimed)
    (hreported : reportedExpiry lib now data = .ok reported) :
    IsEarliest (WellFormedBound lib now data token) (earlier claimed reported) ↔
      ¬ HiddenExpiresIn lib now data token ∧ ¬ MisreadFirst lib now data token := by
  have exp := claimed_iff hclaimed
  have bounds := fun t => @wellFormedBound_iff lib now data token t
  by_cases present : ∃ fields value, data = .obj fields ∧ getField fields "expiresAt" = some value
  · have hidden : HiddenExpiresIn lib now data token ↔ ∃ t, ExpiresInBound lib now data t ∧
        ∀ t', (ExpBound lib token t' ∨ ExpiresAtBound lib data t') ∨ MisreadExp lib token t' →
          t < t' := and_iff_right present
    obtain ⟨fields, value, rfl, hvalue⟩ := present
    have counted := isEarliest_earlier exp (expiresAtBound_iff hvalue hreported)
    have found := (isEarliest_congr fun t => or_right_comm).mp counted
    rw [isEarliest_congr bounds, isEarliest_exchange found, hidden, MisreadFirst]
    simp only [bounds]
  · have visible : ¬ HiddenExpiresIn lib now data token := fun hidden => present hidden.1
    have none_at : ∀ t, ¬ ExpiresAtBound lib data t := by
      rintro t ⟨hfields, hvalue, _, _, _⟩
      exact present ⟨_, _, hfields, hvalue⟩
    have expiresIn : ∀ t, ExpiresInBound lib now data t ↔ reported = some t := by
      intro t
      cases data with
      | obj fields =>
        have absent : getField fields "expiresAt" = none := by
          by_contra hsome
          obtain ⟨value, hvalue⟩ := Option.ne_none_iff_exists'.mp hsome
          exact present ⟨fields, value, rfl, hvalue⟩
        exact expiresInBound_iff absent hreported t
      | _ =>
        cases hreported
        constructor
        · rintro ⟨⟨⟩, _, _, _, _⟩
        · rintro ⟨⟩
    have counted := isEarliest_earlier exp expiresIn
    have found := (isEarliest_congr fun t => or_right_comm).mp counted
    have bounds' : ∀ t, WellFormedBound lib now data token t ↔
        (ExpBound lib token t ∨ ExpiresInBound lib now data t) ∨ False := by
      intro t
      simp [bounds, none_at]
    rw [isEarliest_congr bounds', isEarliest_exchange found, MisreadFirst]
    simp [bounds', visible]

theorem normalizeAuth_ok {body : JsonObject} {auth : AuthFields}
    (h : normalizeAuth lib now body = .ok auth) :
    ∃ data claimed reported, authData lib body = .ok data ∧ dataToken data = .ok auth.accessToken ∧
      jwtExpiry lib auth.accessToken = .ok claimed ∧
      reportedExpiry lib now data = .ok reported ∧ auth.expiresAt = earlier claimed reported := by
  unfold normalizeAuth at h
  split at h
  · cases h
  · rename_i data hdata
    split at h
    · cases h
    · rename_i token htoken
      split at h
      · rename_i claimed reported hclaimed hreported
        cases h
        exact ⟨data, claimed, reported, hdata, htoken, hclaimed, hreported, rfl⟩
      · cases h
      · cases h

/-- The expiry of an accepted body is the earliest of its well-formed bounds exactly unless
there is an `expiresAt` and an `expiresIn` before all other bounds, or an `exp` claim that is no
number before all well-formed ones. -/
theorem expiry_is_earliest_iff {body : JsonObject} {auth : AuthFields}
    (accepted : normalizeAuth lib now body = .ok auth) (hdata : authData lib body = .ok data) :
    IsEarliest (WellFormedBound lib now data auth.accessToken) auth.expiresAt ↔
      ¬ HiddenExpiresIn lib now data auth.accessToken ∧
        ¬ MisreadFirst lib now data auth.accessToken := by
  obtain ⟨data', claimed, reported, hdata', _, hclaimed, hreported, hexpiry⟩ :=
    normalizeAuth_ok accepted
  rw [hdata] at hdata'
  cases hdata'
  rw [hexpiry]
  exact earlier_blocks_iff hclaimed hreported

end Normalize

/-- `ConvayClient.authenticate` for what the transport did. -/
def authOutcome (lib : AuthLibrary) (now : Datetime) (http : HttpResult) : TokenOutcome :=
  match post false (normalizeAuth lib now) http with
  | .ok auth => .issued auth.toProviderAuthResult
  | .error (.provider e) => .refused e.code e.statusCode
  | .error (.python e) => .escaped e
  | .error (.gateway _) => .escaped .unexpected

section Outcome
variable {lib : AuthLibrary} {now : Datetime}

theorem malformedAuth_plain {e : PyError} {p : ProviderError} (h : malformedAuth e = .provider p) :
    p.ambiguous = false ∧ p.providerResult = none := by
  unfold malformedAuth at h
  split at h
  · cases h
    exact ⟨rfl, rfl⟩
  · cases h

/-- The parser raises no error of a creation, and no `GatewayError`. -/
theorem normalizeAuth_error {body : JsonObject} {raised : Raised}
    (h : normalizeAuth lib now body = .error raised) :
    (∃ e, raised = .python e) ∨
      ∃ p, raised = .provider p ∧ p.ambiguous = false ∧ p.providerResult = none := by
  have malformed : ∀ e, (∃ e', malformedAuth e = .python e') ∨
      ∃ p, malformedAuth e = .provider p ∧ p.ambiguous = false ∧ p.providerResult = none := by
    intro e
    cases he : malformedAuth e with
    | python e' => exact Or.inl ⟨e', rfl⟩
    | provider p => exact Or.inr ⟨p, rfl, malformedAuth_plain he⟩
    | gateway g =>
      unfold malformedAuth at he
      split at he
      · cases he
      · cases he
  unfold normalizeAuth at h
  split at h
  · cases h
    exact malformed _
  · split at h
    · cases h
      exact malformed _
    · split at h
      · cases h
      · cases h
        exact Or.inl ⟨_, rfl⟩
      · cases h
        exact Or.inl ⟨_, rfl⟩

/-- An authentication is no creation: its errors are neither ambiguous nor known creations,
so a code and a status are all there is to them. -/
theorem authOutcome_result (lib : AuthLibrary) (now : Datetime) (http : HttpResult) :
    (authOutcome lib now http).result =
      (post false (normalizeAuth lib now) http).map AuthFields.toProviderAuthResult := by
  have plain : ∀ raised, post false (normalizeAuth lib now) http = .error raised →
      (∃ e, raised = .python e) ∨
        ∃ p, raised = .provider p ∧ p.ambiguous = false ∧ p.providerResult = none := by
    intro raised h
    unfold post at h
    split at h
    · split at h
      · cases h
        exact Or.inr ⟨_, rfl, rfl, rfl⟩
      · cases h
        exact Or.inr ⟨_, rfl, rfl, rfl⟩
    · cases h
      exact Or.inl ⟨_, rfl⟩
    · rename_i r
      split at h
      · cases h
        exact Or.inr ⟨_, rfl, rfl, rfl⟩
      · have parsed : ∀ e, parseBody (normalizeAuth lib now) r = .error e →
            (∃ x, e = .python x) ∨
              ∃ p, e = .provider p ∧ p.ambiguous = false ∧ p.providerResult = none := by
          intro e he
          unfold parseBody at he
          split at he
          · cases he
            exact Or.inl ⟨_, rfl⟩
          · exact normalizeAuth_error he
          · cases he
            exact Or.inl ⟨_, rfl⟩
        split at h
        · cases h
        · rename_i p hp
          cases h
          rcases parsed _ hp with ⟨_, ⟨⟩⟩ | ⟨_, ⟨⟩, ambiguous, known⟩
          exact Or.inr ⟨_, rfl, ambiguous, known⟩
        · split at h
          · cases h
            exact Or.inr ⟨_, rfl, rfl, rfl⟩
          · cases h
            exact Or.inl ⟨_, rfl⟩
        · rename_i g hg
          rcases parsed _ hg with ⟨_, ⟨⟩⟩ | ⟨_, ⟨⟩, _, _⟩
  unfold authOutcome
  cases hpost : post false (normalizeAuth lib now) http with
  | ok auth => rfl
  | error raised =>
    rcases plain raised hpost with ⟨e, rfl⟩ | ⟨p, rfl, ambiguous, known⟩
    · rfl
    · obtain ⟨code, _, status, _⟩ := p
      cases ambiguous
      cases known
      rfl

end Outcome

/-- No text can be read as a time. -/
def exampleAuthLibrary : AuthLibrary where
  jsonLoads := fun _ => .error .valueError
  decodeClaims := fun _ => .error .valueError
  toFloat := fun value =>
    match value with
    | .int n => .ok (.finite n)
    | _ => .error .typeError
  fromTimestamp := fun _ => .error .valueError
  toText := fun value =>
    match value with
    | .str s => .ok s
    | _ => .error .valueError
  fromIsoFormat := fun _ => .error .valueError
  timedelta := fun seconds =>
    match seconds with
    | .finite q => .ok (q.num * 1000000 / q.den)
    | _ => .error .valueError

def exampleAuthBody (fields : JsonObject) : JsonObject :=
  [("success", .bool true), ("data", .obj (("accessToken", .str "T-1") :: fields))]

def exampleAuthClock : Datetime := Datetime.utc (739882 * dayMicroseconds)

/-- With `expiresIn` alone the token lasts ten minutes. -/
theorem expiry_is_earliest_relative :
    IsEarliest (WellFormedBound exampleAuthLibrary exampleAuthClock
        (.obj [("accessToken", .str "T-1"), ("expiresIn", .int 600)]) "T-1")
      (some (exampleAuthClock.instant + 600 * 1000000)) := by
  have visible : ¬ HiddenExpiresIn exampleAuthLibrary exampleAuthClock
      (.obj [("accessToken", .str "T-1"), ("expiresIn", .int 600)]) "T-1" := by
    rintro ⟨⟨fields, reported, hfields, hreported⟩, _⟩
    cases hfields
    cases hreported
  have plain : ¬ MisreadFirst exampleAuthLibrary exampleAuthClock
      (.obj [("accessToken", .str "T-1"), ("expiresIn", .int 600)]) "T-1" := by
    have unsegmented : ("T-1".toList.splitOn '.')[1]? = none := by rfl
    rintro ⟨_, ⟨hsegment, _, _, _, _, _⟩, _⟩
    rw [unsegmented] at hsegment
    cases hsegment
  have accepted : normalizeAuth exampleAuthLibrary exampleAuthClock
      (exampleAuthBody [("expiresIn", .int 600)]) =
        .ok ⟨⟨"T-1", some (exampleAuthClock.instant + 600 * 1000000)⟩, none⟩ := by
    rfl
  exact (expiry_is_earliest_iff accepted rfl).mpr ⟨visible, plain⟩

/-- With an `expiresAt` beside it that is no time, the token has no known expiry. -/
theorem malformed_expiresAt_hides_expiresIn :
    ∃ auth data, normalizeAuth exampleAuthLibrary exampleAuthClock
        (exampleAuthBody [("expiresAt", .str "soon"), ("expiresIn", .int 600)]) = .ok auth ∧
      authData exampleAuthLibrary
        (exampleAuthBody [("expiresAt", .str "soon"), ("expiresIn", .int 600)]) = .ok data ∧
      auth.expiresAt = none ∧
      ¬ IsEarliest (WellFormedBound exampleAuthLibrary exampleAuthClock data auth.accessToken)
        auth.expiresAt := by
  refine ⟨⟨⟨"T-1", none⟩, none⟩, _, rfl, rfl, rfl, ?_⟩
  intro earliest
  exact earliest _ (.expiresIn (.relative rfl rfl rfl rfl rfl))

end MeetingGateway
