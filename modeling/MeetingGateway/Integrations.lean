import MeetingGateway.Settings
import MeetingGateway.Library.KeyedTable
import MeetingGateway.Library.Uuid
import Mathlib.Data.List.Sort
import Mathlib.Data.List.Dedup

/-!
# Integration clients and their tokens

`apps/integrations/models.py` and `tokens.py`: what the admin form accepts for a client, the
exchange of credentials, and the gateway token from its nine claims to the checks that are
put to it again. Times are microseconds of Unix time; a token counts in whole seconds.
The address library, the password hasher and PyJWT are given with what they document.
-/

namespace MeetingGateway

/-- `SCOPES`. -/
def gatewayScopes : List String :=
  ["meeting:write", "meeting:read", "meeting:token", "room:read", "meeting:cancel"]

abbrev Scopes := { scopes : List String // ∀ s ∈ scopes, s ∈ gatewayScopes }

def Scopes.none : Scopes := ⟨[], by simp⟩

def Scopes.cons (s : String) (known : s ∈ gatewayScopes) (scopes : Scopes) : Scopes :=
  ⟨s :: scopes.1, by
    intro x hx
    rcases List.mem_cons.mp hx with rfl | hx
    · exact known
    · exact scopes.2 x hx⟩

/-- The scopes that `keep` picks. -/
def Scopes.select (scopes : Scopes) (keep : List String)
    (sub : ∀ s ∈ keep, s ∈ scopes.1) : Scopes :=
  ⟨keep, fun s hs => scopes.2 s (sub s hs)⟩

/-- A `ValidationError` for one field of the form. -/
structure FieldError where
  field : String
  message : String
  deriving DecidableEq

inductive CleanError where
  | field (e : FieldError)
  | python (e : PyError)
  deriving DecidableEq

def unknownScope : CleanError := .field ⟨"scopes", "Unknown scope."⟩

/-- `s not in SCOPES` for each element; a list or an object cannot be hashed. -/
def cleanScopeItems : List Json → Except CleanError Scopes
  | [] => .ok Scopes.none
  | .str s :: rest =>
    if known : s ∈ gatewayScopes then (cleanScopeItems rest).map (Scopes.cons s known)
    else .error unknownScope
  | .arr _ :: _ => .error (.python .typeError)
  | .obj _ :: _ => .error (.python .typeError)
  | _ :: _ => .error unknownScope

def cleanScopes : Json → Except CleanError Scopes
  | .arr items => cleanScopeItems items
  | _ => .error unknownScope

/-- `ipaddress`: `network` takes any JSON value, as the allowlist holds it. -/
structure IpAddresses where
  Address : Type
  Network : Type
  ipAddress : String → Except PyError Address
  ipNetwork : Json → Except PyError Network
  contains : Network → Address → Bool

/-- `except (ValueError, TypeError)`. -/
def PyError.notAnAddress : PyError → Bool
  | .valueError | .typeError => true
  | _ => false

def cleanNetworks (ip : IpAddresses) : List Json → Except CleanError Unit
  | [] => .ok ()
  | network :: rest =>
    match ip.ipNetwork network with
    | .ok _ => cleanNetworks ip rest
    | .error e =>
      if e.notAnAddress then .error (.field
        ⟨"ip_allowlist", "Use a list of IP addresses or CIDR networks."⟩)
      else .error (.python e)

def cleanAllowlist (ip : IpAddresses) : Json → Except CleanError (List Json)
  | .arr items => (cleanNetworks ip items).map fun () => items
  | _ => .error (.field ⟨"ip_allowlist", "Use a list of IP addresses or CIDR networks."⟩)

structure IntegrationClient where
  id : Uuid
  clientId : Uuid
  secretHash : String
  tokenVersion : Uuid
  isActive : Bool
  scopes : Scopes
  ipAllowlist : List Json

/-- The fields of a change request. -/
structure ClientForm where
  isActive : Bool
  scopes : Json
  ipAllowlist : Json

structure ClientValues where
  isActive : Bool
  scopes : Scopes
  ipAllowlist : List Json

/-- `IntegrationClient.clean`. -/
def cleanClient (ip : IpAddresses) (form : ClientForm) : Except CleanError ClientValues :=
  match cleanScopes form.scopes with
  | .error e => .error e
  | .ok scopes =>
    match cleanAllowlist ip form.ipAllowlist with
    | .error e => .error e
    | .ok allowlist => .ok ⟨form.isActive, scopes, allowlist⟩

/-- The instance with the cleaned fields of the form. -/
def IntegrationClient.fill (client : IntegrationClient) (values : ClientValues) :
    IntegrationClient :=
  { client with
    isActive := values.isActive
    scopes := values.scopes
    ipAllowlist := values.ipAllowlist }

/-- `rotate_secret` writes these two columns and no other. -/
def IntegrationClient.rotate (client : IntegrationClient) (secretHash : String)
    (tokenVersion : Uuid) : IntegrationClient :=
  { client with secretHash := secretHash, tokenVersion := tokenVersion }

/-- The table of clients; client ids are unique. -/
structure ClientTable where
  clients : KeyedTable Uuid IntegrationClient IntegrationClient.id
  clientIds : (clients.rows.map IntegrationClient.clientId).Nodup

namespace ClientTable

def get? (t : ClientTable) (pk : Uuid) : Option IntegrationClient := t.clients.get? pk

/-- `filter(client_id=...).first()`. -/
def byClientId (t : ClientTable) (clientId : Uuid) : Option IntegrationClient :=
  t.clients.rows.find? fun c => c.clientId = clientId

/-- `filter(pk=..., is_active=True).first()`. -/
def active? (t : ClientTable) (pk : Uuid) : Option IntegrationClient :=
  match t.get? pk with
  | some client => if client.isActive then some client else none
  | none => none

/-- Change one row; neither key can be edited. -/
def modify (t : ClientTable) (pk : Uuid) (f : IntegrationClient → IntegrationClient)
    (keeps : ∀ c, (f c).id = c.id ∧ (f c).clientId = c.clientId) : ClientTable where
  clients := t.clients.mapRows (fun c => if c.id = pk then f c else c) (by
    intro c
    by_cases h : c.id = pk
    · simp [h, keeps]
    · simp [h])
  clientIds := by
    have same : (t.clients.rows.map fun c => if c.id = pk then f c else c).map
        IntegrationClient.clientId = t.clients.rows.map IntegrationClient.clientId := by
      rw [List.map_map]
      apply List.map_congr_left
      intro c _
      by_cases h : c.id = pk
      · simp [h, keeps]
      · simp [h]
    rw [KeyedTable.mapRows, same]
    exact t.clientIds

section Modify
variable {t : ClientTable} {pk : Uuid} {f : IntegrationClient → IntegrationClient}
variable {keeps : ∀ c, (f c).id = c.id ∧ (f c).clientId = c.clientId}

theorem get?_modify_self : (t.modify pk f keeps).get? pk = (t.get? pk).map f := by
  rw [get?, modify, KeyedTable.get?_mapRows]
  cases h : t.clients.get? pk with
  | none => simp [get?, h]
  | some client => simp [get?, h, KeyedTable.get?_key h]

theorem get?_modify_of_ne {other : Uuid} (hne : other ≠ pk) :
    (t.modify pk f keeps).get? other = t.get? other := by
  rw [get?, modify, KeyedTable.get?_mapRows]
  cases h : t.clients.get? other with
  | none => simp [get?, h]
  | some client =>
    have hid : client.id ≠ pk := by rwa [KeyedTable.get?_key h]
    simp [get?, h, hid]

theorem get?_modify {other : Uuid} {client : IntegrationClient} (h : t.get? other = some client) :
    (t.modify pk f keeps).get? other = some (if other = pk then f client else client) := by
  by_cases hpk : other = pk
  · subst hpk
    rw [get?_modify_self, h, if_pos rfl]
    rfl
  · rw [get?_modify_of_ne hpk, h, if_neg hpk]

theorem mem_modify {client : IntegrationClient} (h : client ∈ (t.modify pk f keeps).clients.rows) :
    client ∈ t.clients.rows ∨ ∃ old ∈ t.clients.rows, client = f old := by
  obtain ⟨old, hold, rfl⟩ := List.mem_map.mp h
  by_cases hid : old.id = pk
  · exact Or.inr ⟨old, hold, by simp [hid]⟩
  · exact Or.inl (by simpa [hid] using hold)

end Modify
end ClientTable

/-- `any(address in ip_network(n) for n in client.ip_allowlist)`. -/
def anyNetwork (ip : IpAddresses) (address : ip.Address) : List Json → Except PyError Bool
  | [] => .ok false
  | network :: rest =>
    match ip.ipNetwork network with
    | .error e => if e.notAnAddress then .ok false else .error e
    | .ok network => if ip.contains network address then .ok true else anyNetwork ip address rest

def ipAllowed (ip : IpAddresses) (client : IntegrationClient) (remote : String) :
    Except PyError Bool :=
  if client.ipAllowlist.isEmpty then .ok true
  else
    match ip.ipAddress remote with
    | .error e => if e.notAnAddress then .ok false else .error e
    | .ok address => anyNetwork ip address client.ipAllowlist

/-- Django's hashers: a hash accepts the secret it was made from. -/
structure PasswordHasher where
  makePassword : String → String → String
  checkPassword : String → String → Bool
  check_make : ∀ secret other salt, checkPassword other (makePassword secret salt) = true ↔
    other = secret

inductive MachineCode where
  | invalidClient
  | invalidToken
  | tokenExpired
  deriving DecidableEq

inductive AuthError where
  | machine (code : MachineCode)
  | escaped (e : PyError)
  deriving DecidableEq

/-- For an unknown client the source checks a dummy hash and drops the result. -/
def authenticateCredentials (hasher : PasswordHasher) (ip : IpAddresses) (t : ClientTable)
    (clientId clientSecret remote : String) : Except AuthError IntegrationClient :=
  match (Uuid.parse isSpace clientId).bind t.byClientId with
  | none => .error (.machine .invalidClient)
  | some client =>
    if !hasher.checkPassword clientSecret client.secretHash || !client.isActive then
      .error (.machine .invalidClient)
    else
      match ipAllowed ip client remote with
      | .ok true => .ok client
      | .ok false => .error (.machine .invalidClient)
      | .error e => .error (.escaped e)

structure GatewayJwtSettings where
  gatewayJwtSigningKey : String
  gatewayJwtIssuer : String
  gatewayJwtAudience : String
  gatewayAccessTokenTtlSeconds : Int

/-- `int(timestamp())`. -/
def timestamp (now : Nat) : Int := (now / 1000000 : Nat)

def secondsToInstant (seconds : Int) : Int := seconds * 1000000

inductive JwtError where
  | expiredSignature
  | invalidToken
  deriving DecidableEq

/-- PyJWT. A token whose issuer, audience and required claims are those asked for, and which
is not from the future, is decoded to its claims until it expires. -/
structure Jwt where
  Token : Type
  encode : JsonObject → String → String → Token
  decode : Token → String → List String → String → String → List String → Nat →
    Except JwtError JsonObject
  decode_encode : ∀ {claims : JsonObject} {key algorithm issuer audience sub jti : String}
    {algorithms required : List String} {now : Nat} {iat exp : Int},
    algorithm ∈ algorithms → (∀ name ∈ required, (claims.get? name).isSome = true) →
    claims.get? "iss" = some (.str issuer) → claims.get? "aud" = some (.str audience) →
    claims.get? "sub" = some (.str sub) → claims.get? "jti" = some (.str jti) →
    claims.get? "iat" = some (.int iat) → secondsToInstant iat ≤ now →
    claims.get? "exp" = some (.int exp) →
    decode (encode claims key algorithm) key algorithms issuer audience required now =
      if (now : Int) < secondsToInstant exp then .ok claims else .error .expiredSignature

/-- `sorted(set(texts))`. -/
def sortedSet (texts : List String) : List String :=
  texts.dedup.insertionSort fun a b => a ≤ b

theorem mem_sortedSet {texts : List String} {s : String} : s ∈ sortedSet texts ↔ s ∈ texts := by
  simp [sortedSet, (List.perm_insertionSort _ _).mem_iff]

theorem sortedSet_sorted (texts : List String) : (sortedSet texts).Pairwise (· ≤ ·) :=
  List.pairwise_insertionSort _ _

theorem sortedSet_nodup (texts : List String) : (sortedSet texts).Nodup :=
  (List.perm_insertionSort _ _).nodup_iff.mpr texts.nodup_dedup

def tokenClaims (cfg : GatewayJwtSettings) (client : IntegrationClient) (now : Nat)
    (jti : Uuid) : JsonObject :=
  [("sub", .str client.id.text), ("client_id", .str client.clientId.text),
    ("scopes", .arr ((sortedSet client.scopes.1).map .str)), ("iat", .int (timestamp now)),
    ("exp", .int (timestamp now + cfg.gatewayAccessTokenTtlSeconds)), ("jti", .str jti.text),
    ("ver", .str client.tokenVersion.text), ("iss", .str cfg.gatewayJwtIssuer),
    ("aud", .str cfg.gatewayJwtAudience)]

def issueToken (jwt : Jwt) (cfg : GatewayJwtSettings) (client : IntegrationClient) (now : Nat)
    (jti : Uuid) : jwt.Token :=
  jwt.encode (tokenClaims cfg client now jti) cfg.gatewayJwtSigningKey "HS256"

/-- The options' `require`. -/
def requiredClaims : List String :=
  ["sub", "client_id", "scopes", "iat", "exp", "jti", "ver", "iss", "aud"]

def invalidToken {α : Type} : Except AuthError α := .error (.machine .invalidToken)

/-- `uuid.UUID(claims[name])`; a `KeyError` is not caught. -/
def claimUuid (claims : JsonObject) (name : String) : Except AuthError Uuid :=
  match claims.get? name with
  | none => .error (.escaped .keyError)
  | some (.str text) =>
    match Uuid.parse isSpace text with
    | some u => .ok u
    | none => invalidToken
  | some _ => invalidToken

def claimScopes : List Json → Except AuthError (List String)
  | [] => .ok []
  | .str s :: rest => if s ∈ gatewayScopes then (claimScopes rest).map (s :: ·) else invalidToken
  | _ :: _ => invalidToken

/-- The checks of types, times and scopes; the scopes are the result. -/
def checkClaims (claims : JsonObject) : Except AuthError (List String) :=
  match claims.get? "iat" with
  | none => .error (.escaped .keyError)
  | some (.int iat) =>
    match claims.get? "exp" with
    | none => .error (.escaped .keyError)
    | some (.int exp) =>
      if exp ≤ iat then invalidToken
      else
        match claims.get? "scopes" with
        | none => .error (.escaped .keyError)
        | some (.arr items) => claimScopes items
        | some _ => invalidToken
    | some _ => invalidToken
  | some _ => invalidToken

/-- The client the claims name and the scopes they carry. -/
def readClaims (claims : JsonObject) : Except AuthError (Uuid × List String) :=
  match claimUuid claims "sub", claimUuid claims "client_id", claimUuid claims "jti",
      claimUuid claims "ver" with
  | .ok identifier, .ok _, .ok _, .ok _ =>
    (checkClaims claims).map fun scopes => (identifier, scopes)
  | .error e, _, _, _ => .error e
  | _, .error e, _, _ => .error e
  | _, _, .error e, _ => .error e
  | _, _, _, .error e => .error e

def claimIs (claims : JsonObject) (name : String) (u : Uuid) : Bool :=
  match claims.get? name with
  | some (.str text) => text = u.text
  | _ => false

/-- Scope removals take effect immediately. -/
def IntegrationClient.granted (client : IntegrationClient) (scopes : List String) :
    IntegrationClient :=
  { client with
    scopes := client.scopes.select (sortedSet (client.scopes.1.filter fun s => s ∈ scopes)) (by
      intro s hs
      exact (List.mem_filter.mp (mem_sortedSet.mp hs)).1) }

/-- The client row is read once and checked against the claims and the address. -/
def admitClient (ip : IpAddresses) (t : ClientTable) (claims : JsonObject) (remote : String)
    (identifier : Uuid) (scopes : List String) :
    Except AuthError (IntegrationClient × JsonObject) :=
  match t.active? identifier with
  | none => invalidToken
  | some client =>
    if !claimIs claims "client_id" client.clientId || !claimIs claims "ver" client.tokenVersion then
      invalidToken
    else
      match ipAllowed ip client remote with
      | .ok true => .ok (client.granted scopes, claims)
      | .ok false => invalidToken
      | .error e => .error (.escaped e)

def validateToken (jwt : Jwt) (ip : IpAddresses) (cfg : GatewayJwtSettings) (t : ClientTable)
    (token : jwt.Token) (remote : String) (now : Nat) :
    Except AuthError (IntegrationClient × JsonObject) :=
  match jwt.decode token cfg.gatewayJwtSigningKey ["HS256"] cfg.gatewayJwtIssuer
      cfg.gatewayJwtAudience requiredClaims now with
  | .error .expiredSignature => .error (.machine .tokenExpired)
  | .error .invalidToken => invalidToken
  | .ok claims =>
    match readClaims claims with
    | .error e => .error e
    | .ok (identifier, scopes) => admitClient ip t claims remote identifier scopes

end MeetingGateway
