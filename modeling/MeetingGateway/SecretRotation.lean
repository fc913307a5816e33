import MeetingGateway.GatewayTokens
import MeetingGateway.Library.StaleSaves

/-!
# Rotation against changes that loaded the client earlier

`apps/integrations/admin.py`. A change request loads the whole row without a lock, and
`save_model` writes every column of it back later; `rotate_secret` writes its two columns
alone. An exchange or a validation reads one state and writes no column that is read again,
so it is a question put to each state of a run.
-/

namespace MeetingGateway

open LabelledRuns StaleSaves

/-- One client in its table, with every row that was ever committed for it. -/
structure Vault (pk : Uuid) where
  table : ClientTable
  client : IntegrationClient
  present : table.get? pk = some client
  history : List IntegrationClient
  recorded : client ∈ history

/-- Every column of the loaded instance; neither key can be edited. -/
def IntegrationClient.savedOver (obj current : IntegrationClient) : IntegrationClient :=
  { obj with id := current.id, clientId := current.clientId }

namespace Vault
variable {pk : Uuid}

def commit (v : Vault pk) (f : IntegrationClient → IntegrationClient)
    (keeps : ∀ c, (f c).id = c.id ∧ (f c).clientId = c.clientId) : Vault pk where
  table := v.table.modify pk f keeps
  client := f v.client
  present := by rw [ClientTable.get?_modify_self, v.present, Option.map_some]
  history := f v.client :: v.history
  recorded := List.mem_cons_self

/-- `save_model` of a change request whose form is accepted. -/
def saveModel (ip : IpAddresses) (v : Vault pk) (obj : IntegrationClient) (form : ClientForm) :
    Option (Vault pk) :=
  match cleanClient ip form with
  | .ok values => some (v.commit (obj.fill values).savedOver fun _ => ⟨rfl, rfl⟩)
  | .error _ => none

end Vault

structure RotateSecret where
  raw : String
  salt : String
  tokenVersion : Uuid

namespace Vault
variable {pk : Uuid}

/-- `token_urlsafe` and `uuid4` draw nothing that the client has had before. -/
def fresh (hasher : PasswordHasher) (v : Vault pk) (draw : RotateSecret) : Bool :=
  v.history.all fun old =>
    decide (old.tokenVersion ≠ draw.tokenVersion) && !hasher.checkPassword draw.raw old.secretHash

def rotateSecret (hasher : PasswordHasher) (v : Vault pk) (draw : RotateSecret) :
    Option (Vault pk) :=
  if v.fresh hasher draw then
    some (v.commit (fun c => c.rotate (hasher.makePassword draw.raw draw.salt) draw.tokenVersion)
      fun _ => ⟨rfl, rfl⟩)
  else none

end Vault

/-- The form is checked without the database, so a request has no step between its load and
its save. -/
def clientRequests (hasher : PasswordHasher) (ip : IpAddresses) (pk : Uuid) :
    Workflow (Vault pk) IntegrationClient Empty ClientForm RotateSecret where
  load := fun v => some v.client
  work := fun _ _ task => task.elim
  save := Vault.saveModel ip
  update := Vault.rotateSecret hasher

abbrev ClientDesk (pk : Uuid) (κ : Type) := Desk (Vault pk) IntegrationClient κ

abbrev ClientAction (κ : Type) := Action κ Empty ClientForm RotateSecret

def isRotation {κ : Type} : ClientAction κ → Bool
  | .apply _ => true
  | _ => false

def IntegrationClient.credentials (client : IntegrationClient) : String × Uuid :=
  (client.secretHash, client.tokenVersion)

/-- The save finds the secret hash and the token version as the request loaded them. -/
def unrotated {pk : Uuid} (v : Vault pk) (obj : IntegrationClient) (_ : ClientForm) : Bool :=
  obj.credentials = v.client.credentials

/-- The runs in which every save does. -/
abbrev unrotatedStep {κ : Type} [DecidableEq κ] (hasher : PasswordHasher) (ip : IpAddresses)
    (pk : Uuid) : ClientDesk pk κ → ClientAction κ → Option (ClientDesk pk κ) :=
  (clientRequests hasher ip pk).guardedStep unrotated

section Retirement
variable {hasher : PasswordHasher} {ip : IpAddresses} {pk : Uuid} {v v' : Vault pk}
variable {earlier : List IntegrationClient}

/-- The row takes no version and no secret of an earlier row, and its history holds them. -/
structure Retired (hasher : PasswordHasher) (earlier : List IntegrationClient) (v : Vault pk) :
    Prop where
  version : ∀ old ∈ earlier, v.client.tokenVersion ≠ old.tokenVersion
  secret : ∀ old ∈ earlier, ∀ raw, hasher.checkPassword raw old.secretHash = true →
    hasher.checkPassword raw v.client.secretHash = false
  kept : ∀ old ∈ earlier, old ∈ v.history

theorem saveModel_ok {obj : IntegrationClient} {form : ClientForm}
    (h : v.saveModel ip obj form = some v') :
    v'.client.credentials = obj.credentials ∧ v'.history = v'.client :: v.history := by
  simp only [Vault.saveModel] at h
  split at h
  · cases h
    exact ⟨rfl, rfl⟩
  · cases h

/-- A request that nothing interleaves changes the fields of its form alone. -/
theorem saveModel_fill {form : ClientForm} {values : ClientValues}
    (h : cleanClient ip form = .ok values) :
    (v.saveModel ip v.client form).map Vault.client = some (v.client.fill values) := by
  simp only [Vault.saveModel, h]
  rfl

theorem fresh_iff {draw : RotateSecret} : v.fresh hasher draw = true ↔
    ∀ old ∈ v.history, old.tokenVersion ≠ draw.tokenVersion ∧
      hasher.checkPassword draw.raw old.secretHash = false := by
  simp [Vault.fresh]

/-- A rotation retires everything that was committed before it. -/
theorem rotateSecret_retires {draw : RotateSecret} (h : v.rotateSecret hasher draw = some v')
    (held : ∀ old ∈ earlier, old ∈ v.history) : Retired hasher earlier v' := by
  simp only [Vault.rotateSecret] at h
  split at h
  · rename_i hfresh
    cases h
    have unused := fresh_iff.mp hfresh
    constructor
    · intro old hold
      exact Ne.symm (unused old (held old hold)).1
    · intro old hold raw accepted
      have other : raw ≠ draw.raw := by
        rintro rfl
        rw [(unused old (held old hold)).2] at accepted
        cases accepted
      rw [← Bool.not_eq_true]
      exact fun h => other ((hasher.check_make draw.raw raw draw.salt).mp h)
    · intro old hold
      exact List.mem_cons_of_mem _ (held old hold)
  · cases h

theorem Retired.saveModel {obj : IntegrationClient} {form : ClientForm}
    (retired : Retired hasher earlier v) (current : obj.credentials = v.client.credentials)
    (h : v.saveModel ip obj form = some v') : Retired hasher earlier v' := by
  obtain ⟨same, hhistory⟩ := saveModel_ok h
  obtain ⟨hash, version⟩ := Prod.mk.inj (same.trans current)
  constructor
  · intro old hold
    rw [version]
    exact retired.version old hold
  · intro old hold raw accepted
    rw [hash]
    exact retired.secret old hold raw accepted
  · intro old hold
    rw [hhistory]
    exact List.mem_cons_of_mem _ (retired.kept old hold)

theorem Retired.reachable {κ : Type} [DecidableEq κ] {d d' : ClientDesk pk κ}
    (retired : Retired hasher earlier d.row)
    (h : Reachable (unrotatedStep hasher ip pk) d d') : Retired hasher earlier d'.row := by
  apply Workflow.row_invariant retired _ _ h
  · intro v obj form v' current hsave retired
    exact retired.saveModel (by simpa [unrotated] using current) hsave
  · intro v draw v' hrotate retired
    exact rotateSecret_retires hrotate retired.kept

theorem Retired.validate {jwt : Jwt} {cfg : GatewayJwtSettings} {issuer old : IntegrationClient}
    {jti : Uuid} {issue use : Nat} {remote : String} {result : IntegrationClient × JsonObject}
    (retired : Retired hasher earlier v) (hold : old ∈ earlier) (hid : issuer.id = pk)
    (hversion : issuer.tokenVersion = old.tokenVersion) (later : issue ≤ use) :
    validateToken jwt ip cfg v.table (issueToken jwt cfg issuer issue jti) remote use ≠
      .ok result := by
  intro accepted
  rw [validate_issued jwt ip cfg v.table issuer jti remote later] at accepted
  split at accepted
  · obtain ⟨row, hrow, admits, _⟩ := (admitClient_ok_iff result).mp accepted
    rw [hid, v.present] at hrow
    cases hrow
    exact retired.version old hold (admits.version.trans hversion)
  · cases accepted

theorem Retired.authenticate {old client : IntegrationClient} {raw clientId remote : String}
    (retired : Retired hasher earlier v) (hold : old ∈ earlier)
    (opened : hasher.checkPassword raw old.secretHash = true)
    (accepted : authenticateCredentials hasher ip v.table clientId raw remote = .ok client) :
    client.id ≠ pk := by
  intro hid
  have valid : client ∈ v.table.clients.rows ∧
      hasher.checkPassword raw client.secretHash = true := by
    simp only [authenticateCredentials] at accepted
    split at accepted
    · cases accepted
    · rename_i found hfound
      split at accepted
      · cases accepted
      · rename_i checks
        simp only [Bool.or_eq_true, Bool.not_eq_true', not_or, Bool.not_eq_false] at checks
        split at accepted <;> cases accepted
        obtain ⟨identifier, _, hclient⟩ := Option.bind_eq_some_iff.mp hfound
        exact ⟨List.mem_of_find?_eq_some hclient, checks.1⟩
  obtain ⟨hmem, hcheck⟩ := valid
  have hrow : v.table.get? pk = some client := KeyedTable.get?_eq_some.mpr ⟨hmem, hid⟩
  rw [v.present] at hrow
  cases hrow
  rw [retired.secret old hold raw opened] at hcheck
  cases hcheck

end Retirement

/-- Once a rotation has committed, nothing of an earlier row is accepted again, as long as each
save finds the credentials it loaded; and in such runs only rotations change them. -/
theorem rotation_irrevocable_of_unrotated (hasher : PasswordHasher) (jwt : Jwt) (ip : IpAddresses)
    (cfg : GatewayJwtSettings) {κ : Type} [DecidableEq κ] {pk : Uuid}
    {before after later : ClientDesk pk κ} {draw : RotateSecret}
    (rotation : unrotatedStep hasher ip pk before (.apply draw) = some after)
    (afterwards : Reachable (unrotatedStep hasher ip pk) after later) :
    (∀ old ∈ before.row.history,
      (∀ issuer jti issue use remote result, issuer.id = pk →
        issuer.tokenVersion = old.tokenVersion → issue ≤ use →
        validateToken jwt ip cfg later.row.table (issueToken jwt cfg issuer issue jti) remote use ≠
          .ok result) ∧
      ∀ raw clientId remote client, hasher.checkPassword raw old.secretHash = true →
        authenticateCredentials hasher ip later.row.table clientId raw remote = .ok client →
        client.id ≠ pk) ∧
    ∀ (d d' : ClientDesk pk κ) (l : ClientAction κ), isRotation l = false →
      unrotatedStep hasher ip pk d l = some d' →
      d'.row.client.credentials = d.row.client.credentials := by
  constructor
  · have retired : Retired hasher before.row.history after.row := by
      rcases Workflow.guardedStep_cases rotation with ⟨hl, _⟩ | ⟨_, _, _, hl, _⟩ | ⟨_, hl, hrotate⟩
      · cases hl
      · cases hl
      · cases hl
        exact rotateSecret_retires hrotate fun _ hold => hold
    have kept := retired.reachable afterwards
    intro old hold
    constructor
    · intro issuer jti issue use remote result hid hversion later
      exact kept.validate hold hid hversion later
    · intro raw clientId remote client opened accepted
      exact kept.authenticate hold opened accepted
  · intro d d' l other h
    rcases Workflow.guardedStep_cases h with ⟨_, same⟩ | ⟨_, _, obj, _, _, current, hsave⟩ |
      ⟨_, rfl, _⟩
    · rw [same]
    · have loaded : obj.credentials = d.row.client.credentials := by
        simpa [unrotated] using current
      exact (saveModel_ok hsave).1.trans loaded
    · cases other

/-- Keeps the secret as it is. -/
def exampleHasher : PasswordHasher where
  makePassword := fun raw _ => raw
  checkPassword := fun raw hash => raw = hash
  check_make := by simp

def exampleVault : Vault exampleClient.id where
  table := exampleClients
  client := exampleClient
  present := rfl
  history := [exampleClient]
  recorded := List.mem_singleton.mpr rfl

def exampleRotation : RotateSecret := ⟨"another-secret", "salt", Uuid.all (Fin.last 15)⟩

def exampleEdit : ClientForm := ⟨true, .arr [.str "meeting:read"], .arr []⟩

/-- The edit changes the scopes only, and brings the old version and the old hash back. -/
theorem edit_undoes_rotation :
    ∃ after later : ClientDesk exampleClient.id Unit,
      run (clientRequests exampleHasher exampleIp exampleClient.id).step (Desk.start exampleVault)
        [.load (), .apply exampleRotation] = some after ∧
      (clientRequests exampleHasher exampleIp exampleClient.id).step after
        (.save () exampleEdit) = some later ∧
      later.row.client.credentials ≠ after.row.client.credentials ∧
      (∃ result, validateToken exampleJwt exampleIp exampleJwtSettings later.row.table
        (issueToken exampleJwt exampleJwtSettings exampleClient 1700000000000000 (Uuid.all 4))
        "192.0.2.1" 1700000060000000 = .ok result) ∧
      ∃ client, authenticateCredentials exampleHasher exampleIp later.row.table
        exampleClient.clientId.text "hash" "192.0.2.1" = .ok client ∧
        client.id = exampleClient.id := by
  refine ⟨_, _, rfl, rfl, ?_, ⟨_, rfl⟩, ⟨_, rfl, rfl⟩⟩
  decide

/-- The same edit, loaded after the rotation. -/
theorem rotation_irrevocable_of_unrotated_edit :
    ∃ after later : ClientDesk exampleClient.id Unit,
      unrotatedStep exampleHasher exampleIp exampleClient.id (Desk.start exampleVault)
        (.apply exampleRotation) = some after ∧
      run (unrotatedStep exampleHasher exampleIp exampleClient.id) after
        [.load (), .save () exampleEdit] = some later ∧
      ∀ result, validateToken exampleJwt exampleIp exampleJwtSettings later.row.table
        (issueToken exampleJwt exampleJwtSettings exampleClient 1700000000000000 (Uuid.all 4))
        "192.0.2.1" 1700000060000000 ≠ .ok result := by
  obtain ⟨after, later, rotation, edit⟩ : ∃ after later : ClientDesk exampleClient.id Unit,
      unrotatedStep exampleHasher exampleIp exampleClient.id (Desk.start exampleVault)
        (.apply exampleRotation) = some after ∧
      run (unrotatedStep exampleHasher exampleIp exampleClient.id) after
        [.load (), .save () exampleEdit] = some later := ⟨_, _, rfl, rfl⟩
  obtain ⟨irrevocable, _⟩ := rotation_irrevocable_of_unrotated exampleHasher exampleJwt exampleIp
    exampleJwtSettings rotation (reachable_of_run edit)
  obtain ⟨tokens, _⟩ := irrevocable exampleClient List.mem_cons_self
  refine ⟨after, later, rotation, edit, ?_⟩
  intro result
  exact tokens exampleClient _ _ _ _ result rfl rfl (by decide)

end MeetingGateway
