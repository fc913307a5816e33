import MeetingGateway.Integrations
import MeetingGateway.Library.LabelledRuns

/-!
# Gateway tokens over the history of their client

An administrator changes clients and rotates their secrets, one step at a time, while the clock
goes on. A token freezes the version, the scopes and the times of its issue; the rest is read
from the row when the token is used.
-/

namespace MeetingGateway

open LabelledRuns

section Claims
variable {cfg : GatewayJwtSettings} {client : IntegrationClient} {now : Nat} {jti : Uuid}

theorem isSpace_digitChar : ∀ d, isSpace (Uuid.digitChar d) = false := by decide

theorem claimUuid_text {claims : JsonObject} {name : String} {u : Uuid}
    (h : claims.get? name = some (.str u.text)) : claimUuid claims name = .ok u := by
  simp [claimUuid, h, Uuid.parse_text isSpace_digitChar]

theorem claimIs_text {claims : JsonObject} {name : String} {u v : Uuid}
    (h : claims.get? name = some (.str v.text)) : claimIs claims name u = true ↔ v = u := by
  simp [claimIs, h, Uuid.text_inj]

theorem claimScopes_known {scopes : List String} (h : ∀ s ∈ scopes, s ∈ gatewayScopes) :
    claimScopes (scopes.map .str) = .ok scopes := by
  induction scopes with
  | nil => rfl
  | cons s rest ih =>
    have hrest := ih fun x hx => h x (List.mem_cons_of_mem s hx)
    simp [claimScopes, h s List.mem_cons_self, hrest, Except.map]

theorem readClaims_issued (lasts : 0 < cfg.gatewayAccessTokenTtlSeconds) :
    readClaims (tokenClaims cfg client now jti) = .ok (client.id, sortedSet client.scopes.1) := by
  have known : ∀ s ∈ sortedSet client.scopes.1, s ∈ gatewayScopes := by
    intro s hs
    exact client.scopes.2 s (mem_sortedSet.mp hs)
  have checked : checkClaims (tokenClaims cfg client now jti) =
      .ok (sortedSet client.scopes.1) := by
    have hexp : ¬ timestamp now + cfg.gatewayAccessTokenTtlSeconds ≤ timestamp now := by omega
    simpa [checkClaims, tokenClaims, OrderedDict.get?, hexp] using claimScopes_known known
  have hsub : claimUuid (tokenClaims cfg client now jti) "sub" = .ok client.id :=
    claimUuid_text rfl
  have hclient : claimUuid (tokenClaims cfg client now jti) "client_id" = .ok client.clientId :=
    claimUuid_text rfl
  have hjti : claimUuid (tokenClaims cfg client now jti) "jti" = .ok jti := claimUuid_text rfl
  have hver : claimUuid (tokenClaims cfg client now jti) "ver" = .ok client.tokenVersion :=
    claimUuid_text rfl
  simp [readClaims, hsub, hclient, hjti, hver, checked, Except.map]

theorem timestamp_le {now later : Nat} (h : now ≤ later) :
    secondsToInstant (timestamp now) ≤ later := by
  simp only [secondsToInstant, timestamp]
  omega

end Claims

/-- Until it expires an issued token comes back as it was, and then the row decides. -/
theorem validate_issued (jwt : Jwt) (ip : IpAddresses) (cfg : GatewayJwtSettings) (t : ClientTable)
    (client : IntegrationClient) (jti : Uuid) (remote : String) {issue use : Nat}
    (later : issue ≤ use) :
    validateToken jwt ip cfg t (issueToken jwt cfg client issue jti) remote use =
      if (use : Int) < secondsToInstant (timestamp issue + cfg.gatewayAccessTokenTtlSeconds) then
        admitClient ip t (tokenClaims cfg client issue jti) remote client.id
          (sortedSet client.scopes.1)
      else .error (.machine .tokenExpired) := by
  have required : ∀ name ∈ requiredClaims,
      ((tokenClaims cfg client issue jti).get? name).isSome = true := by
    simp [requiredClaims, tokenClaims]
  have signed : "HS256" ∈ ["HS256"] := List.mem_singleton.mpr rfl
  have decoded : jwt.decode
      (jwt.encode (tokenClaims cfg client issue jti) cfg.gatewayJwtSigningKey "HS256")
      cfg.gatewayJwtSigningKey ["HS256"] cfg.gatewayJwtIssuer cfg.gatewayJwtAudience
      requiredClaims use = _ :=
    jwt.decode_encode signed required rfl rfl rfl rfl rfl (timestamp_le later) rfl
  simp only [validateToken, issueToken, decoded]
  by_cases alive : (use : Int) <
      secondsToInstant (timestamp issue + cfg.gatewayAccessTokenTtlSeconds)
  · have lasts : 0 < cfg.gatewayAccessTokenTtlSeconds := by
      have := timestamp_le later
      simp only [secondsToInstant] at this alive
      omega
    simp only [if_pos alive, readClaims_issued lasts]
  · simp only [if_neg alive]

section Admission
variable {ip : IpAddresses} {cfg : GatewayJwtSettings} {t : ClientTable}
variable {client : IntegrationClient} {issue : Nat} {jti : Uuid} {remote : String}
variable {scopes : List String}

/-- What the row must say for the token of `client`. -/
structure Admits (ip : IpAddresses) (client row : IntegrationClient) (remote : String) : Prop where
  active : row.isActive = true
  clientId : row.clientId = client.clientId
  version : row.tokenVersion = client.tokenVersion
  allowed : ipAllowed ip row remote = .ok true

theorem admitClient_ok_iff (result : IntegrationClient × JsonObject) :
    admitClient ip t (tokenClaims cfg client issue jti) remote client.id scopes = .ok result ↔
      ∃ row, t.get? client.id = some row ∧ Admits ip client row remote ∧
        result = (row.granted scopes, tokenClaims cfg client issue jti) := by
  have hclient {row : IntegrationClient} :
      claimIs (tokenClaims cfg client issue jti) "client_id" row.clientId = true ↔
        client.clientId = row.clientId := claimIs_text rfl
  have hver {row : IntegrationClient} :
      claimIs (tokenClaims cfg client issue jti) "ver" row.tokenVersion = true ↔
        client.tokenVersion = row.tokenVersion := claimIs_text rfl
  constructor
  · intro h
    unfold admitClient ClientTable.active? at h
    cases hrow : t.get? client.id with
    | none => simp [hrow, invalidToken] at h
    | some row =>
      by_cases active : row.isActive = true
      · simp only [hrow, if_pos active] at h
        split at h
        · cases h
        · rename_i matches_
          simp only [Bool.or_eq_true, Bool.not_eq_true', not_or, Bool.not_eq_false] at matches_
          split at h
          · rename_i allowed
            cases h
            exact ⟨row, rfl, ⟨active, (hclient.mp matches_.1).symm, (hver.mp matches_.2).symm,
              allowed⟩, rfl⟩
          · cases h
          · cases h
      · simp [hrow, active, invalidToken] at h
  · rintro ⟨row, hrow, admits, rfl⟩
    have matches_ : (!claimIs (tokenClaims cfg client issue jti) "client_id" row.clientId ||
        !claimIs (tokenClaims cfg client issue jti) "ver" row.tokenVersion) = false := by
      rw [hclient.mpr admits.clientId.symm, hver.mpr admits.version.symm]
      rfl
    simp only [admitClient, ClientTable.active?, hrow, if_pos admits.active, matches_,
      admits.allowed]
    rfl

end Admission

/-- The clients with the versions that any of them has had. -/
structure Registry where
  table : ClientTable
  now : Nat
  versions : List Uuid
  recorded : ∀ c ∈ table.clients.rows, c.tokenVersion ∈ versions

inductive AdminOp where
  | change (form : ClientForm)
  | rotate (secretHash : String) (tokenVersion : Uuid)

inductive RegistryLabel where
  | tick (now : Nat)
  | admin (pk : Uuid) (op : AdminOp)

def RegistryLabel.rotates (pk : Uuid) : RegistryLabel → Bool
  | .admin pk' (.rotate _ _) => pk' = pk
  | _ => false

namespace Registry

def fill (r : Registry) (pk : Uuid) (values : ClientValues) : Registry where
  table := r.table.modify pk (fun c => c.fill values) fun _ => ⟨rfl, rfl⟩
  now := r.now
  versions := r.versions
  recorded := by
    intro c hc
    rcases ClientTable.mem_modify hc with hold | ⟨old, hold, rfl⟩
    · exact r.recorded c hold
    · exact r.recorded old hold

def rotate (r : Registry) (pk : Uuid) (secretHash : String) (tokenVersion : Uuid) : Registry where
  table := r.table.modify pk (fun c => c.rotate secretHash tokenVersion) fun _ => ⟨rfl, rfl⟩
  now := r.now
  versions := tokenVersion :: r.versions
  recorded := by
    intro c hc
    rcases ClientTable.mem_modify hc with hold | ⟨old, hold, rfl⟩
    · exact List.mem_cons_of_mem _ (r.recorded c hold)
    · exact List.mem_cons_self

/-- A form that is not accepted changes nothing; `uuid4` draws no version a second time. -/
def step (ip : IpAddresses) (r : Registry) : RegistryLabel → Option Registry
  | .tick now => if r.now ≤ now then some { r with now := now } else none
  | .admin pk (.change form) =>
    match cleanClient ip form with
    | .ok values => some (r.fill pk values)
    | .error _ => none
  | .admin pk (.rotate secretHash tokenVersion) =>
    if tokenVersion ∈ r.versions then none else some (r.rotate pk secretHash tokenVersion)

end Registry

/-- What a step leaves of a client: its key, its client id, and each known version that it
had, unless the step rotates. -/
structure ClientFollows (r r' : Registry) (pk : Uuid) (c c' : IntegrationClient) (kept : Prop) :
    Prop where
  row : r'.table.get? pk = some c'
  clientId : c'.clientId = c.clientId
  version : ∀ v ∈ r.versions, c'.tokenVersion = v ↔ c.tokenVersion = v ∧ kept
  versions : ∀ v ∈ r.versions, v ∈ r'.versions
  clock : r.now ≤ r'.now

section Runs
variable {ip : IpAddresses} {r r' : Registry} {pk : Uuid} {c : IntegrationClient}

theorem step_client {l : RegistryLabel} (hc : r.table.get? pk = some c)
    (h : Registry.step ip r l = some r') :
    ∃ c', ClientFollows r r' pk c c' (l.rotates pk = false) := by
  cases l with
  | tick now =>
    simp only [Registry.step] at h
    split at h
    · rename_i hle
      cases h
      exact ⟨c, hc, rfl, fun v _ => by simp [RegistryLabel.rotates], fun v hv => hv, hle⟩
    · cases h
  | admin pk' op =>
    cases op with
    | change form =>
      simp only [Registry.step] at h
      split at h
      · rename_i values _
        cases h
        have row : (r.fill pk' values).table.get? pk =
            some (if pk = pk' then c.fill values else c) := by
          rw [Registry.fill, ClientTable.get?_modify hc]
        refine ⟨_, row, ?_, ?_, fun v hv => hv, le_refl _⟩
        · by_cases hpk : pk = pk'
          · rw [if_pos hpk]
            rfl
          · rw [if_neg hpk]
        · intro v _
          by_cases hpk : pk = pk'
          · simp [hpk, IntegrationClient.fill, RegistryLabel.rotates]
          · simp [hpk, RegistryLabel.rotates]
      · cases h
    | rotate secretHash tokenVersion =>
      simp only [Registry.step] at h
      split at h
      · cases h
      · rename_i fresh
        cases h
        have row : (r.rotate pk' secretHash tokenVersion).table.get? pk =
            some (if pk = pk' then c.rotate secretHash tokenVersion else c) := by
          rw [Registry.rotate, ClientTable.get?_modify hc]
        refine ⟨_, row, ?_, ?_, fun v hv => List.mem_cons_of_mem _ hv, le_refl _⟩
        · by_cases hpk : pk = pk'
          · rw [if_pos hpk]
            rfl
          · rw [if_neg hpk]
        · intro v hv
          by_cases hpk : pk = pk'
          · have hne : tokenVersion ≠ v := by
              rintro rfl
              exact fresh hv
            simp [hpk, IntegrationClient.rotate, RegistryLabel.rotates, hne]
          · simp [hpk, RegistryLabel.rotates, Ne.symm hpk]

theorem run_client {labels : List RegistryLabel} (hc : r.table.get? pk = some c)
    (h : run (Registry.step ip) r labels = some r') :
    ∃ c', ClientFollows r r' pk c c' (∀ l ∈ labels, l.rotates pk = false) := by
  induction labels generalizing r c with
  | nil =>
    cases h
    exact ⟨c, hc, rfl, fun v _ => by simp, fun v hv => hv, le_refl _⟩
  | cons l rest ih =>
    obtain ⟨m, hm, hrest⟩ := Option.bind_eq_some_iff.mp h
    obtain ⟨cm, first⟩ := step_client hc hm
    obtain ⟨c', later⟩ := ih first.row hrest
    refine ⟨c', later.row, later.clientId.trans first.clientId, fun v hv => ?_,
      fun v hv => later.versions v (first.versions v hv), le_trans first.clock later.clock⟩
    rw [later.version v (first.versions v hv), first.version v hv, and_assoc]
    simp

end Runs

/-- A token issued in one state of a history and used in a later one. -/
theorem gateway_token_valid_iff (jwt : Jwt) (ip : IpAddresses) (cfg : GatewayJwtSettings)
    {issue use : Registry} {labels : List RegistryLabel} {pk : Uuid} {client : IntegrationClient}
    (issuer : issue.table.get? pk = some client)
    (history : run (Registry.step ip) issue labels = some use) (jti : Uuid) (remote : String) :
    ∃ row, use.table.get? pk = some row ∧
      ((∃ result, validateToken jwt ip cfg use.table (issueToken jwt cfg client issue.now jti)
          remote use.now = .ok result) ↔
        (use.now : Int) < secondsToInstant
            (timestamp issue.now + cfg.gatewayAccessTokenTtlSeconds) ∧
          (∀ l ∈ labels, l.rotates pk = false) ∧ row.isActive = true ∧
          ipAllowed ip row remote = .ok true) ∧
      ∀ granted claims, validateToken jwt ip cfg use.table
          (issueToken jwt cfg client issue.now jti) remote use.now = .ok (granted, claims) →
        granted.id = pk ∧ granted.scopes.1.Pairwise (· ≤ ·) ∧ granted.scopes.1.Nodup ∧
          ∀ s, s ∈ granted.scopes.1 ↔ s ∈ client.scopes.1 ∧ s ∈ row.scopes.1 := by
  obtain ⟨row, follows⟩ := run_client issuer history
  obtain ⟨hmem, hid⟩ := KeyedTable.get?_eq_some.mp issuer
  have version := follows.version client.tokenVersion (issue.recorded client hmem)
  rw [validate_issued jwt ip cfg use.table client jti remote follows.clock]
  refine ⟨row, follows.row, ?_, ?_⟩
  · constructor
    · rintro ⟨result, h⟩
      split at h
      · rename_i alive
        obtain ⟨found, hfound, admits, _⟩ := (admitClient_ok_iff result).mp h
        rw [hid, follows.row] at hfound
        cases hfound
        exact ⟨alive, (version.mp admits.version).2, admits.active, admits.allowed⟩
      · cases h
    · rintro ⟨alive, unrotated, active, allowed⟩
      have hrow : use.table.get? client.id = some row := by
        rw [hid]
        exact follows.row
      have admits : Admits ip client row remote :=
        ⟨active, follows.clientId, version.mpr ⟨rfl, unrotated⟩, allowed⟩
      rw [if_pos alive]
      exact ⟨_, (admitClient_ok_iff _).mpr ⟨row, hrow, admits, rfl⟩⟩
  · intro granted claims h
    split at h
    · obtain ⟨found, hfound, _, hresult⟩ := (admitClient_ok_iff _).mp h
      rw [hid, follows.row] at hfound
      cases hfound
      cases hresult
      have hkey : row.id = pk := KeyedTable.get?_key follows.row
      refine ⟨hkey, sortedSet_sorted _, sortedSet_nodup _, ?_⟩
      intro s
      simp [IntegrationClient.granted, Scopes.select, mem_sortedSet, and_comm]
    · cases h

/-- Tokens that show what they were made of. -/
def exampleJwt : Jwt where
  Token := JsonObject × String × String
  encode := fun claims key algorithm => (claims, key, algorithm)
  decode := fun token key algorithms issuer audience required now =>
    if token.2.1 ≠ key ∨ token.2.2 ∉ algorithms ∨
        required.any (fun name => (token.1.get? name).isNone) then .error .invalidToken
    else
      match token.1.get? "iss", token.1.get? "aud", token.1.get? "iat", token.1.get? "exp" with
      | some (.str iss), some (.str aud), some (.int iat), some (.int exp) =>
        if iss ≠ issuer ∨ aud ≠ audience ∨ (now : Int) < secondsToInstant iat then
          .error .invalidToken
        else if (now : Int) < secondsToInstant exp then .ok token.1
        else .error .expiredSignature
      | _, _, _, _ => .error .invalidToken
  decode_encode := by
    intro claims key algorithm issuer audience sub jti algorithms required now iat exp signed
      present
      hiss haud _ _ hiat past hexp
    have absent : required.any (fun name => (claims.get? name).isNone) = false := by
      rw [List.any_eq_false]
      intro name hname
      simp [Option.isNone_iff_eq_none, Option.isSome_iff_ne_none.mp (present name hname)]
    simp [signed, absent, hiss, haud, hiat, hexp, past]

/-- Single hosts only. -/
def exampleIp : IpAddresses where
  Address := String
  Network := String
  ipAddress := fun text => .ok text
  ipNetwork := fun value =>
    match value with
    | .str text => .ok text
    | _ => .error .typeError
  contains := fun network address => network = address

def exampleJwtSettings : GatewayJwtSettings := ⟨"signing-key", "gateway", "lms", 3600⟩

def exampleClient : IntegrationClient where
  id := Uuid.all 1
  clientId := Uuid.all 2
  secretHash := "hash"
  tokenVersion := Uuid.all 3
  isActive := true
  scopes := ⟨["meeting:write", "meeting:read"], by decide⟩
  ipAllowlist := []

def exampleClients : ClientTable := ⟨⟨[exampleClient], by simp⟩, by simp⟩

def exampleRegistry : Registry where
  table := exampleClients
  now := 1700000000000000
  versions := [Uuid.all 3]
  recorded := by
    intro c hc
    obtain rfl := List.mem_singleton.mp hc
    exact List.mem_singleton.mpr rfl

/-- The client may read and write meetings when the token is issued, and read meetings and rooms
a minute later. -/
def exampleScopeChange : List RegistryLabel :=
  [.tick 1700000060000000, .admin (Uuid.all 1)
    (.change ⟨true, .arr [.str "meeting:read", .str "room:read"], .arr [.str "192.0.2.1"]⟩)]

theorem gateway_token_valid_scope_change :
    ∃ use granted claims,
      run (Registry.step exampleIp) exampleRegistry exampleScopeChange = some use ∧
      validateToken exampleJwt exampleIp exampleJwtSettings use.table
        (issueToken exampleJwt exampleJwtSettings exampleClient exampleRegistry.now (Uuid.all 4))
        "192.0.2.1" use.now = .ok (granted, claims) ∧
      "meeting:read" ∈ granted.scopes.1 ∧ "room:read" ∉ granted.scopes.1 := by
  obtain ⟨use, row, history, hrow, active, allowed, hnow, hscopes⟩ : ∃ use row,
      run (Registry.step exampleIp) exampleRegistry exampleScopeChange = some use ∧
      use.table.get? (Uuid.all 1) = some row ∧ row.isActive = true ∧
      ipAllowed exampleIp row "192.0.2.1" = .ok true ∧ use.now = 1700000060000000 ∧
      row.scopes.1 = ["meeting:read", "room:read"] := ⟨_, _, rfl, rfl, rfl, rfl, rfl, rfl⟩
  have issuer : exampleRegistry.table.get? (Uuid.all 1) = some exampleClient := rfl
  obtain ⟨row', hrow', valid, granted⟩ := gateway_token_valid_iff exampleJwt exampleIp
    exampleJwtSettings issuer history (Uuid.all 4) "192.0.2.1"
  rw [hrow] at hrow'
  cases hrow'
  have alive : (use.now : Int) < secondsToInstant
      (timestamp exampleRegistry.now + exampleJwtSettings.gatewayAccessTokenTtlSeconds) := by
    rw [hnow]
    decide
  obtain ⟨⟨client, claims⟩, hvalid⟩ := valid.mpr ⟨alive, by decide, active, allowed⟩
  obtain ⟨_, _, _, scopes⟩ := granted client claims hvalid
  refine ⟨use, client, claims, history, hvalid, ?_, ?_⟩
  · rw [scopes, hscopes]
    decide
  · rw [scopes, hscopes]
    decide

end MeetingGateway
