import MeetingGateway.Integrations
import MeetingGateway.TokenRejection
import MeetingGateway.Library.StaleSaves

/-!
# Passwords, credential versions and cached tokens

`apps/rooms/admin.py`. A change request loads the room without a lock, cleans its form, and
`save_model` writes the loaded instance under the lock; only a new password takes its version
from the locked row. The version is all that tells the cache entries of two passwords apart, so
the committed rows of a room are kept here beside the token calls that read them.
-/

namespace MeetingGateway

open LabelledRuns StaleSaves

/-- The fields that only a superuser's form has. -/
structure SuperuserFields where
  username : String
  password : String
  defaultMeetingConfig : Json

structure RoomForm where
  publicId : String
  isActive : Bool
  priority : Int
  maxConcurrentBookings : Nat
  providerActiveMeetingLimit : Option Nat
  superuser : Option SuperuserFields

namespace RoomForm

/-- `cleaned_data.get("password")`, with no text for no field. -/
def password (form : RoomForm) : String :=
  match form.superuser with
  | none => ""
  | some fields => fields.password

/-- The loaded instance with the fields of the form. -/
def fill (form : RoomForm) (obj : VersionedRoom) : VersionedRoom :=
  { obj with
    publicId := form.publicId
    isActive := form.isActive
    priority := form.priority
    maxConcurrentBookings := form.maxConcurrentBookings
    providerActiveMeetingLimit := form.providerActiveMeetingLimit
    username := (form.superuser.map SuperuserFields.username).getD obj.username
    defaultMeetingConfig :=
      (form.superuser.map SuperuserFields.defaultMeetingConfig).getD obj.defaultMeetingConfig }

/-- `add_error` raises for a field that the form does not have. -/
def passwordErrors (form : RoomForm) (obj : VersionedRoom) : Except PyError (List FieldError) :=
  if obj.encryptedPassword.isNone && form.password = "" then
    match form.superuser with
    | none => .error .valueError
    | some _ => .ok [⟨"password", "A password is required for a new room."⟩]
  else .ok []

def usernameErrors (form : RoomForm) (previous : VersionedRoom) (hasMeetings : Bool) :
    List FieldError :=
  match form.superuser with
  | none => []
  | some fields =>
    if previous.username ≠ fields.username && hasMeetings then
      [⟨"username", "Accounts with meeting history cannot be reassigned. Create a new room."⟩]
    else []

def configErrors (form : RoomForm) : List FieldError :=
  match form.superuser.map fun fields => validateConfig fields.defaultMeetingConfig with
  | some (.error (.validationError message)) => [⟨"default_meeting_config", message⟩]
  | _ => []

/-- `Room.clean`. -/
def bookingErrors (form : RoomForm) : List FieldError :=
  if form.maxConcurrentBookings ≠ 1 then
    [⟨"__all__", "This release supports exactly one concurrent booking per room."⟩]
  else []

/-- `RoomForm.clean` and the checks of the model; `previous` is the row as it is read again. -/
def errors (form : RoomForm) (obj previous : VersionedRoom) (hasMeetings : Bool) :
    Except PyError (List FieldError) :=
  match form.passwordErrors obj with
  | .error e => .error e
  | .ok missing =>
    .ok (missing ++ form.usernameErrors previous hasMeetings ++ form.configErrors ++
      form.bookingErrors)

end RoomForm

/-- A text of a form is decoded UTF-8, which `encrypt` always takes. -/
def VersionedRoom.setPassword (keyring : Keyring) (room : VersionedRoom) (value : String) :
    VersionedRoom :=
  { room with
    encryptedPassword := some (.sealed keyring.version keyring.key value)
    credentialVersion := room.credentialVersion + 1 }

/-- The instance that is written: with a new password it counts on from the locked row. -/
def RoomForm.saved (keyring : Keyring) (form : RoomForm) (previous : Option VersionedRoom)
    (obj : VersionedRoom) : VersionedRoom :=
  if form.password ≠ "" && form.superuser.isSome then
    { obj with
      credentialVersion := (previous.map VersionedRoom.credentialVersion).getD 1 }.setPassword
        keyring form.password
  else obj

/-- What is read back with a row. -/
def VersionedRoom.credential (room : VersionedRoom) : Option (Stored String) × Nat :=
  (room.encryptedPassword, room.credentialVersion)

/-- The password the provider is sent. -/
def VersionedRoom.password (cfg : Settings) (room : VersionedRoom) :
    Option (Except PyError String) := room.encryptedPassword.map (decrypt cfg.keyring)

/-- A token that the provider gave out, and the password that it was sent for it. -/
structure ObtainedToken where
  key : TokenKey
  password : String
  token : String

/-- A step gives out a token when it is an exchange that the provider answers with one. -/
def TokenWorld.obtains (cfg : Settings) (w : TokenWorld) : TokenLabel → List ObtainedToken
  | .on c (.exchange (.issued result)) =>
    match w.calls c with
    | none => []
    | some call =>
      match call.room.password cfg with
      | some (.ok password) => [⟨tokenKey call.room, password, result.accessToken⟩]
      | _ => []
  | _ => []

/-- A room with every row that was ever committed for it, and the calls of `get_token`. -/
structure RoomCredentials (pk : RoomId) where
  room : VersionedRoom
  history : List VersionedRoom
  recorded : room ∈ history
  keyed : ∀ r ∈ history, r.id = pk
  tokens : TokenWorld
  obtained : List ObtainedToken

/-- A request: the instance, and the form once it is cleaned. -/
structure RoomRequest where
  obj : VersionedRoom
  form : Option RoomForm

/-- The form that is submitted, and whether the room has meetings when it is cleaned. -/
structure RoomCleaning where
  form : RoomForm
  hasMeetings : Bool

/-- A call takes a row that was read at any earlier moment, named by its place in the history;
`token` is every other step of the calls. -/
inductive RoomOp where
  | setActive (value : Bool)
  | getToken (c : TokenCallId) (snapshot : Nat) (force : Bool)
  | token (l : TokenLabel)

def TokenLabel.calls (pk : RoomId) : TokenLabel → Bool
  | .call _ room _ => room.id = pk
  | _ => false

namespace RoomCredentials

def initial (room : VersionedRoom) (clock : Int) : RoomCredentials room.id where
  room := room
  history := [room]
  recorded := List.mem_singleton.mpr rfl
  keyed := by simp
  tokens := TokenWorld.initial clock
  obtained := []

variable {pk : RoomId}

theorem room_id (v : RoomCredentials pk) : v.room.id = pk := v.keyed v.room v.recorded

/-- The key of a row cannot be edited. -/
def commit (v : RoomCredentials pk) (row : VersionedRoom) (keeps : row.id = pk) :
    RoomCredentials pk where
  room := row
  history := row :: v.history
  recorded := List.mem_cons_self
  keyed := by
    intro r hr
    rcases List.mem_cons.mp hr with rfl | hr
    · exact keeps
    · exact v.keyed r hr
  tokens := v.tokens
  obtained := v.obtained

/-- A form without errors fills the instance. -/
def clean (v : RoomCredentials pk) (request : RoomRequest) (cleaning : RoomCleaning) :
    Option RoomRequest :=
  match request.form with
  | some _ => none
  | none =>
    match cleaning.form.errors request.obj v.room cleaning.hasMeetings with
    | .ok [] => some ⟨cleaning.form.fill request.obj, some cleaning.form⟩
    | _ => none

/-- The account of a room with meetings is refused a second time under the lock. -/
def saveModel (keyring : Keyring) (v : RoomCredentials pk) (request : RoomRequest)
    (hasMeetings : Bool) : Option (RoomCredentials pk) :=
  match request.form with
  | none => none
  | some form =>
    if v.room.username ≠ request.obj.username && hasMeetings then none
    else some (v.commit { form.saved keyring (some v.room) request.obj with id := pk } rfl)

def tokenStep (cfg : TokenSettings) (v : RoomCredentials pk) (l : TokenLabel) :
    Option (RoomCredentials pk) :=
  (v.tokens.step cfg l).map fun w =>
    { v with
      tokens := w
      obtained := v.tokens.obtains cfg.toSettings l ++ v.obtained }

def update (cfg : TokenSettings) (v : RoomCredentials pk) : RoomOp → Option (RoomCredentials pk)
  | .setActive value => some (v.commit { v.room with isActive := value } v.room_id)
  | .getToken c snapshot force =>
    match v.history[snapshot]? with
    | none => none
    | some room => v.tokenStep cfg (.call c room force)
  | .token l => if l.calls pk then none else v.tokenStep cfg l

end RoomCredentials

def roomRequests (cfg : TokenSettings) (pk : RoomId) :
    Workflow (RoomCredentials pk) RoomRequest RoomCleaning Bool RoomOp where
  load := fun v => some ⟨v.room, none⟩
  work := RoomCredentials.clean
  save := RoomCredentials.saveModel cfg.keyring
  update := RoomCredentials.update cfg

abbrev RoomDesk (pk : RoomId) (κ : Type) := Desk (RoomCredentials pk) RoomRequest κ

abbrev RoomAction (κ : Type) := Action κ RoomCleaning Bool RoomOp

def RoomRequest.suppliesPassword (request : RoomRequest) : Bool :=
  request.form.any fun form => form.password ≠ ""

/-- A save without a password finds the credential as the request loaded it. -/
def credentialCurrent {pk : RoomId} (v : RoomCredentials pk) (request : RoomRequest) (_ : Bool) :
    Bool :=
  request.suppliesPassword || decide (request.obj.credential = v.room.credential)

/-- The runs in which every such save does. -/
abbrev currentRoomStep {κ : Type} [DecidableEq κ] (cfg : TokenSettings) (pk : RoomId) :
    RoomDesk pk κ → RoomAction κ → Option (RoomDesk pk κ) :=
  (roomRequests cfg pk).guardedStep credentialCurrent

section Versions
variable {cfg : TokenSettings} {pk : RoomId} {v v' : RoomCredentials pk}

/-- No version above the current one has been committed, and none with two credentials. -/
structure OnePassword (v : RoomCredentials pk) : Prop where
  newest : ∀ r ∈ v.history, r.credentialVersion ≤ v.room.credentialVersion
  one : ∀ a ∈ v.history, ∀ b ∈ v.history, a.credentialVersion = b.credentialVersion →
    a.encryptedPassword = b.encryptedPassword

/-- A row keeps the committed credential or has the next version. -/
def Succeeds (row current : VersionedRoom) : Prop :=
  row.credential = current.credential ∨ row.credentialVersion = current.credentialVersion + 1

theorem OnePassword.commit {row : VersionedRoom} {keeps : row.id = pk} (named : OnePassword v)
    (succeeds : Succeeds row v.room) : OnePassword (v.commit row keeps) := by
  have above : ∀ r ∈ v.history, r.credentialVersion ≤ row.credentialVersion := by
    intro r hr
    have hle := named.newest r hr
    rcases succeeds with same | next
    · rw [(Prod.mk.inj same).2]
      exact hle
    · omega
  have unique : ∀ r ∈ v.history, row.credentialVersion = r.credentialVersion →
      row.encryptedPassword = r.encryptedPassword := by
    intro r hr hversion
    rcases succeeds with same | next
    · obtain ⟨hpassword, hcurrent⟩ := Prod.mk.inj same
      rw [hpassword]
      apply named.one v.room v.recorded r hr
      rw [← hcurrent, hversion]
    · have hle := named.newest r hr
      omega
  constructor
  · intro r hr
    rcases List.mem_cons.mp hr with rfl | hr
    · exact le_refl _
    · exact above r hr
  · intro a ha b hb hversion
    rcases List.mem_cons.mp ha with rfl | hold
    · rcases List.mem_cons.mp hb with rfl | hold
      · rfl
      · exact unique b hold hversion
    · rcases List.mem_cons.mp hb with rfl | hold'
      · exact (unique a hold hversion.symm).symm
      · exact named.one a hold b hold' hversion

theorem saved_without_password {keyring : Keyring} {form : RoomForm}
    {previous : Option VersionedRoom} {obj : VersionedRoom} (h : form.password = "") :
    form.saved keyring previous obj = obj := by
  simp [RoomForm.saved, h]

theorem saved_with_password {keyring : Keyring} {form : RoomForm} {previous obj : VersionedRoom}
    (h : form.password ≠ "") :
    (form.saved keyring (some previous) obj).credentialVersion =
      previous.credentialVersion + 1 := by
  have superuser : form.superuser.isSome = true := by
    cases hfields : form.superuser with
    | none => simp [RoomForm.password, hfields] at h
    | some fields => rfl
  simp [RoomForm.saved, h, superuser, VersionedRoom.setPassword]

/-- What a save commits. -/
theorem saveModel_commits {request : RoomRequest} {hasMeetings : Bool}
    (h : v.saveModel cfg.keyring request hasMeetings = some v') :
    ∃ form row keeps, request.form = some form ∧ v' = v.commit row keeps ∧
      row.credential = (form.saved cfg.keyring (some v.room) request.obj).credential := by
  simp only [RoomCredentials.saveModel] at h
  split at h
  · cases h
  · rename_i form hform
    split at h
    · cases h
    · cases h
      exact ⟨form, _, rfl, hform, rfl, rfl⟩

theorem saveModel_passwordless {request : RoomRequest} {hasMeetings : Bool}
    (h : v.saveModel cfg.keyring request hasMeetings = some v')
    (without : request.suppliesPassword = false)
    (current : credentialCurrent v request hasMeetings = true) :
    v'.room.credential = v.room.credential := by
  obtain ⟨form, row, keeps, hform, rfl, hrow⟩ := saveModel_commits h
  have hpassword : form.password = "" := by
    simpa [RoomRequest.suppliesPassword, hform] using without
  rw [saved_without_password hpassword] at hrow
  exact hrow.trans (by simpa [credentialCurrent, without] using current)

theorem saveModel_succeeds {request : RoomRequest} {hasMeetings : Bool}
    (h : v.saveModel cfg.keyring request hasMeetings = some v')
    (current : credentialCurrent v request hasMeetings = true) :
    ∃ row keeps, v' = v.commit row keeps ∧ Succeeds row v.room := by
  obtain ⟨form, row, keeps, hform, hcommit, hrow⟩ := saveModel_commits h
  refine ⟨row, keeps, hcommit, ?_⟩
  by_cases hpassword : form.password = ""
  · have without : request.suppliesPassword = false := by
      simp [RoomRequest.suppliesPassword, hform, hpassword]
    have kept := saveModel_passwordless h without current
    rw [hcommit] at kept
    exact Or.inl kept
  · exact Or.inr ((Prod.mk.inj hrow).2.trans (saved_with_password hpassword))

end Versions

section Calls
variable {cfg : TokenSettings} {w w' : TokenWorld} {l : TokenLabel} {c : TokenCallId}
variable {key : TokenKey} {t : String}

/-- The room of a call is the one it was made with. -/
theorem change_room (h : TokenChange cfg w l w') {call' : TokenCall}
    (hcall' : w'.calls c = some call') :
    (∃ call, w.calls c = some call ∧ call.room = call'.room) ∨
      ∃ force, l = .call c call'.room force := by
  rcases call_origin h hcall' with same | ⟨room, force, hl, hbegun⟩ |
    ⟨op, moved, v, _, hmoved, hmove, rfl, _⟩
  · exact Or.inl ⟨call', same, rfl⟩
  · rw [(begin_stage hbegun).1]
    exact Or.inr ⟨force, hl⟩
  · rw [move_room hmove]
    exact Or.inl ⟨moved, hmoved, rfl⟩

theorem authenticate_password {room : VersionedRoom} {outcome : TokenOutcome}
    {result : ProviderAuthResult}
    (h : authenticate cfg.toSettings room.toRoom outcome = .issued result) :
    ∃ password, room.password cfg.toSettings = some (.ok password) := by
  unfold authenticate at h
  split at h
  · cases h
  · cases h
  · rename_i password hpassword
    exact ⟨password, hpassword⟩

/-- A token that has just been obtained is recorded with its password. -/
theorem obtains_of_pending (h : TokenChange cfg w l w') (new : w.Issues l c key t)
    (hpending : w'.Pending c key t) :
    ∃ password, ⟨key, password, t⟩ ∈ w.obtains cfg.toSettings l := by
  obtain ⟨result, call, rfl, hcall, rfl, rfl⟩ := new
  obtain ⟨call', hcall', _, hstage⟩ := hpending
  cases h with
  | @operated _ _ moved v hmoved hmove =>
    rw [hcall] at hmoved
    cases hmoved
    have hv : v.call = call' := by simpa using hcall'
    rw [← hv] at hstage
    cases hmove with
    | failed ended =>
      rw [TokenView.goto, TokenCall.goto_stage, (failed_token ended).2] at hstage
      cases hstage
    | authenticated _ accepted =>
      obtain ⟨password, hpassword⟩ : ∃ password,
          call.room.password cfg.toSettings = some (.ok password) := authenticate_password accepted
      exact ⟨password, by simp [TokenWorld.obtains, hcall, hpassword]⟩

end Calls

section Provenance
variable {cfg : TokenSettings} {pk : RoomId} {v v' : RoomCredentials pk}

/-- The password of the token is that of a committed row with the version of its key. -/
def ObtainedToken.Committed (cfg : Settings) (history : List VersionedRoom)
    (o : ObtainedToken) : Prop :=
  ∃ r ∈ history, tokenKey r = o.key ∧ r.password cfg = some (.ok o.password)

structure Provenance (cfg : TokenSettings) (v : RoomCredentials pk) : Prop where
  snapshots : ∀ c call, v.tokens.calls c = some call → call.room.id = pk → call.room ∈ v.history
  committed : ∀ o ∈ v.obtained, o.key.room = pk → o.Committed cfg.toSettings v.history
  pending : ∀ c key t, v.tokens.Pending c key t → ∃ password, ⟨key, password, t⟩ ∈ v.obtained
  cached : ∀ key entry t, v.tokens.cache key = some entry → entry.token cfg = some t →
    ∃ password, ⟨key, password, t⟩ ∈ v.obtained

theorem provenance_initial {room : VersionedRoom} {clock : Int} :
    Provenance cfg (RoomCredentials.initial room clock) := by
  constructor
  · intro c call h
    cases h
  · intro o h
    cases h
  · rintro c key t ⟨call, h, _⟩
    cases h
  · intro key entry t h
    cases h

theorem Provenance.commit {row : VersionedRoom} {keeps : row.id = pk} (known : Provenance cfg v) :
    Provenance cfg (v.commit row keeps) := by
  constructor
  · intro c call hcall hid
    exact List.mem_cons_of_mem _ (known.snapshots c call hcall hid)
  · intro o ho hkey
    obtain ⟨r, hr, same⟩ := known.committed o ho hkey
    exact ⟨r, List.mem_cons_of_mem _ hr, same⟩
  · exact known.pending
  · exact known.cached

theorem obtains_call {w : TokenWorld} {l : TokenLabel} {o : ObtainedToken}
    (h : o ∈ w.obtains cfg.toSettings l) :
    ∃ c call, w.calls c = some call ∧ tokenKey call.room = o.key ∧
      call.room.password cfg.toSettings = some (.ok o.password) := by
  unfold TokenWorld.obtains at h
  split at h
  · rename_i c result
    split at h
    · cases h
    · rename_i call hcall
      split at h
      · rename_i password hpassword
        obtain rfl := List.mem_singleton.mp h
        exact ⟨c, call, hcall, rfl, hpassword⟩
      · cases h
  · cases h

theorem Provenance.tokenStep {l : TokenLabel} (known : Provenance cfg v)
    (read : ∀ c room force, l = .call c room force → room.id = pk → room ∈ v.history)
    (h : v.tokenStep cfg l = some v') : Provenance cfg v' := by
  obtain ⟨w, hstep, rfl⟩ := Option.map_eq_some_iff.mp h
  have change := step_tokenChange hstep
  have old : ∀ key t, (∃ password, (⟨key, password, t⟩ : ObtainedToken) ∈ v.obtained) →
      ∃ password, ⟨key, password, t⟩ ∈ v.tokens.obtains cfg.toSettings l ++ v.obtained := by
    rintro key t ⟨password, hmem⟩
    exact ⟨password, List.mem_append_right _ hmem⟩
  constructor
  · intro c call' hcall' hid
    rcases change_room change hcall' with ⟨call, hcall, same⟩ | ⟨force, hl⟩
    · rw [← same] at hid ⊢
      exact known.snapshots c call hcall hid
    · exact read c call'.room force hl hid
  · intro o ho hkey
    rcases List.mem_append.mp ho with new | earlier
    · obtain ⟨c, call, hcall, hroom, hpassword⟩ := obtains_call new
      have hid : call.room.id = pk := by
        rw [← hkey, ← hroom]
        rfl
      exact ⟨call.room, known.snapshots c call hcall hid, hroom, hpassword⟩
    · exact known.committed o earlier hkey
  · intro c key t hpending
    rcases change_pending change hpending with earlier | ⟨new, _⟩
    · exact old key t (known.pending c key t earlier)
    · obtain ⟨password, hmem⟩ := obtains_of_pending change new hpending
      exact ⟨password, List.mem_append_left _ hmem⟩
  · intro key entry t hentry ht
    apply old key t
    rcases change_entry change hentry ht with earlier | ⟨c, hpending, _⟩
    · exact known.cached key entry t earlier ht
    · exact known.pending c key t hpending

end Provenance

section Runs
variable {cfg : TokenSettings} {pk : RoomId} {v v' : RoomCredentials pk}

structure RoomCredentials.Sound (cfg : TokenSettings) (v : RoomCredentials pk) : Prop where
  versions : OnePassword v
  origins : Provenance cfg v

theorem sound_commit {row : VersionedRoom} {keeps : row.id = pk} (sound : v.Sound cfg)
    (succeeds : Succeeds row v.room) : (v.commit row keeps).Sound cfg :=
  ⟨sound.versions.commit succeeds, sound.origins.commit⟩

theorem sound_tokenStep {l : TokenLabel} (sound : v.Sound cfg)
    (read : ∀ c room force, l = .call c room force → room.id = pk → room ∈ v.history)
    (h : v.tokenStep cfg l = some v') : v'.Sound cfg := by
  have origins := sound.origins.tokenStep read h
  obtain ⟨w, _, rfl⟩ := Option.map_eq_some_iff.mp h
  exact ⟨⟨sound.versions.newest, sound.versions.one⟩, origins⟩

theorem sound_update {o : RoomOp} (sound : v.Sound cfg) (h : v.update cfg o = some v') :
    v'.Sound cfg := by
  cases o with
  | setActive value =>
    cases h
    exact sound_commit sound (Or.inl rfl)
  | getToken c snapshot force =>
    simp only [RoomCredentials.update] at h
    split at h
    · cases h
    · rename_i room hroom
      apply sound_tokenStep sound _ h
      rintro _ _ _ ⟨⟩ _
      exact List.mem_of_getElem? hroom
  | token l =>
    simp only [RoomCredentials.update] at h
    split at h
    · cases h
    · rename_i other
      apply sound_tokenStep sound _ h
      rintro c room force rfl hid
      simp [TokenLabel.calls, hid] at other

theorem sound_reached {κ : Type} [DecidableEq κ] {room : VersionedRoom} {clock : Int}
    {d : RoomDesk room.id κ} (h : Reachable (currentRoomStep cfg room.id)
      (Desk.start (RoomCredentials.initial room clock)) d) : d.row.Sound cfg := by
  have start : (RoomCredentials.initial room clock).Sound cfg := by
    constructor
    · constructor
      · intro r hr
        obtain rfl := List.mem_singleton.mp hr
        exact le_refl _
      · intro a ha b hb _
        obtain rfl := List.mem_singleton.mp ha
        obtain rfl := List.mem_singleton.mp hb
        rfl
    · exact provenance_initial
  apply Workflow.row_invariant start _ _ h
  · intro v request hasMeetings v' current hsave sound
    obtain ⟨row, keeps, rfl, succeeds⟩ := saveModel_succeeds hsave current
    exact sound_commit sound succeeds
  · intro v o v' hupdate sound
    exact sound_update sound hupdate

end Runs

/-- In runs whose saves without a password are current, a version has one password, such saves
keep the credential, and a cached token was obtained with the password of its version. -/
theorem credential_version_names_password_of_current (cfg : TokenSettings) {κ : Type}
    [DecidableEq κ] {room : VersionedRoom} {clock : Int} {d : RoomDesk room.id κ}
    (reached : Reachable (currentRoomStep cfg room.id)
      (Desk.start (RoomCredentials.initial room clock)) d) :
    (∀ a ∈ d.row.history, ∀ b ∈ d.row.history, a.credentialVersion = b.credentialVersion →
      a.encryptedPassword = b.encryptedPassword) ∧
    (∀ k request hasMeetings d', d.pending k = some request →
      request.suppliesPassword = false →
      currentRoomStep cfg room.id d (.save k hasMeetings) = some d' →
      d'.row.room.encryptedPassword = d.row.room.encryptedPassword ∧
        d'.row.room.credentialVersion = d.row.room.credentialVersion) ∧
    ∀ version entry item, d.row.tokens.cache ⟨room.id, version⟩ = some entry →
      readItem cfg.toSettings entry.raw = .ok item →
      ∃ password, ⟨⟨room.id, version⟩, password, item.token⟩ ∈ d.row.obtained ∧
        ∀ r ∈ d.row.history, r.credentialVersion = version →
          r.password cfg.toSettings = some (.ok password) := by
  have sound := sound_reached reached
  refine ⟨sound.versions.one, ?_, ?_⟩
  · intro k request hasMeetings d' hrequest without h
    rcases Workflow.guardedStep_cases h with ⟨hl, _⟩ | ⟨_, _, held, hl, hheld, current, hsave⟩ |
      ⟨_, hl, _⟩
    · cases hl
    · cases hl
      rw [hrequest] at hheld
      cases hheld
      exact Prod.mk.inj (saveModel_passwordless hsave without current)
    · cases hl
  · intro version entry item hentry hitem
    have htoken : entry.token cfg = some item.token := by simp [CacheEntry.token, hitem]
    obtain ⟨password, hmem⟩ := sound.origins.cached _ entry _ hentry htoken
    obtain ⟨source, hsource, hkey, hpassword⟩ := sound.origins.committed _ hmem rfl
    refine ⟨password, hmem, ?_⟩
    intro r hr hversion
    have same : r.encryptedPassword = source.encryptedPassword := by
      apply sound.versions.one r hr source hsource
      rw [hversion]
      exact (congrArg TokenKey.version hkey).symm
    rw [VersionedRoom.password, same]
    exact hpassword

def examplePasswordForm (password : String) : RoomForm where
  publicId := "room-a"
  isActive := true
  priority := 100
  maxConcurrentBookings := 1
  providerActiveMeetingLimit := some 1
  superuser := some ⟨"host-a", password, .obj []⟩

def exampleRoomStep : RoomDesk exampleVersionedRoom.id Nat → RoomAction Nat →
    Option (RoomDesk exampleVersionedRoom.id Nat) :=
  (roomRequests exampleTokenSettings exampleVersionedRoom.id).step

def exampleRoomDesk : RoomDesk exampleVersionedRoom.id Nat :=
  Desk.start (RoomCredentials.initial exampleVersionedRoom 0)

/-- Two requests load version 2. One sets a new password and commits version 3, and a token is
cached for it. -/
def exampleRekeying : List (RoomAction Nat) :=
  [.load 0, .load 1, .work 0 ⟨examplePasswordForm "", true⟩,
    .work 1 ⟨examplePasswordForm "second", true⟩, .save 1 true, .apply (.getToken 7 0 false),
    .apply (.token (.on 7 .enter)), .apply (.token (.on 7 .read)),
    .apply (.token (.on 7 (.exchange (.issued ⟨"T-1", none⟩)))),
    .apply (.token (.on 7 .measure)), .apply (.token (.on 7 .store))]

def exampleReuse : List (RoomAction Nat) :=
  [.load 2, .work 2 ⟨examplePasswordForm "third", true⟩, .save 2 true]

/-- The other request changes nothing and brings version 2 back, so that a third one commits
version 3 with a password of its own. -/
theorem stale_save_reuses_version :
    ∃ before after final : RoomDesk exampleVersionedRoom.id Nat,
      run exampleRoomStep exampleRoomDesk exampleRekeying = some before ∧
      exampleRoomStep before (.save 0 true) = some after ∧
      (before.pending 0).map RoomRequest.suppliesPassword = some false ∧
      after.row.room.credential ≠ before.row.room.credential ∧
      run exampleRoomStep after exampleReuse = some final ∧
      (∃ a ∈ final.row.history, ∃ b ∈ final.row.history,
        a.credentialVersion = b.credentialVersion ∧
        a.password exampleSettings = some (.ok "third") ∧
        b.password exampleSettings = some (.ok "second")) ∧
      ∃ entry, final.row.tokens.cache (tokenKey final.row.room) = some entry ∧
        readItem exampleSettings entry.raw = .ok ⟨"T-1", none⟩ ∧
        ⟨tokenKey final.row.room, "second", "T-1"⟩ ∈ final.row.obtained ∧
        final.row.room.password exampleSettings = some (.ok "third") := by
  refine ⟨_, _, _, rfl, rfl, rfl, ?_, rfl, ?_, ?_⟩
  · decide
  · exact ⟨_, List.mem_cons_self, _, List.mem_cons_of_mem _ (List.mem_cons_of_mem _
      List.mem_cons_self), rfl, rfl, rfl⟩
  · exact ⟨_, rfl, rfl, List.mem_cons_self, rfl⟩

/-- Up to there every save was current: the cached token has the password of its version. -/
theorem credential_version_names_password_of_current_rekeying :
    ∃ d : RoomDesk exampleVersionedRoom.id Nat,
      run (currentRoomStep exampleTokenSettings exampleVersionedRoom.id) exampleRoomDesk
        exampleRekeying = some d ∧
      ∃ password, ⟨⟨1, 3⟩, password, "T-1"⟩ ∈ d.row.obtained ∧
        ∀ r ∈ d.row.history, r.credentialVersion = 3 →
          r.password exampleSettings = some (.ok password) := by
  obtain ⟨d, entry, hrun, hentry, hitem⟩ :
      ∃ (d : RoomDesk exampleVersionedRoom.id Nat) (entry : CacheEntry),
      run (currentRoomStep exampleTokenSettings exampleVersionedRoom.id) exampleRoomDesk
        exampleRekeying = some d ∧ d.row.tokens.cache ⟨exampleVersionedRoom.id, 3⟩ = some entry ∧
      readItem exampleSettings entry.raw = .ok ⟨"T-1", none⟩ := ⟨_, _, rfl, rfl, rfl⟩
  obtain ⟨_, _, cached⟩ := credential_version_names_password_of_current exampleTokenSettings
    (reachable_of_run hrun)
  exact ⟨d, hrun, cached 3 entry _ hentry hitem⟩

end MeetingGateway
