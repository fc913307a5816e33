import MeetingGateway.Settings

/-!
# Provider configuration

Presets are JSON objects. Each layer is validated, merged over the layers before it,
and the nested `config` flags are merged flag by flag.
-/

namespace MeetingGateway

def booleanConfigFields : List String :=
  ["MIC_OFF", "CAMERA_OFF", "PASSWORD", "AUTH_USER", "ALLOW_COUNTRY", "HOST_SCR_SHR",
    "HOST_RECORD_STARTUP", "PRTCPNTS_CHAT_CTRL", "HIDE_REQ_TO_TALK", "PRTCPNTS_RCTN_ENABLED",
    "PRTCPNTS_POLL_ENABLED", "WAITING_ROOM", "PRTCPNTS_SETTINGS_ENABLED",
    "PRTCPNTS_AUD_ENABLED", "PRTCPNTS_VDO_ENABLED", "DIS_CHAT_WBNR", "DIS_WANT_TO_TALK_WBNR"]

def enumConfigFields : OrderedDict String (List String) :=
  [("PRTCPNTS_LIST", ["host", "all"]), ("REJOIN_POPUP", ["host", "all", "none"]),
    ("SHR_OVERLAY", ["host", "all", "none"])]

def booleanTopLevelFields : List String :=
  ["preDefineHostEnabled", "uniqueParticipantJoin", "bigMeeting"]

def invalid (message : String) : Except PyError Unit := .error (.validationError message)

def validateBoolean (field : String) : Json → Except PyError Unit
  | .bool _ => .ok ()
  | _ => invalid ("Invalid value for " ++ field ++ ". Expected a Boolean.")

def validateEnum (field : String) (value : Json) (allowed : List String) :
    Except PyError Unit :=
  let error := invalid ("Invalid value for " ++ field ++ ". Allowed values: " ++
    String.intercalate ", " allowed ++ ".")
  match value with
  | .str s => if s ∈ allowed then .ok () else error
  | _ => error

def validateSetting (field : String) (setting : Json) : Except PyError Unit :=
  if field ∈ booleanConfigFields then validateBoolean field setting
  else match enumConfigFields.get? field with
    | some allowed => validateEnum field setting allowed
    | none => invalid ("Unsupported configuration setting: " ++ field ++ ".")

/-- Run a check over the entries in order; the first failure is the result. -/
def checkEntries (check : String → Json → Except PyError Unit) :
    JsonObject → Except PyError Unit
  | [] => .ok ()
  | (key, value) :: rest =>
    match check key value with
    | .ok () => checkEntries check rest
    | .error e => .error e

def validateEntry (key : String) (value : Json) : Except PyError Unit :=
  if key = "meetingType" then validateEnum key value ["instant", "scheduled"]
  else if key ∈ booleanTopLevelFields then validateBoolean key value
  else if key = "config" then
    match value with
    | .obj fields => checkEntries validateSetting fields
    | _ => invalid "config must be an object."
  else invalid ("Unsupported preset field: " ++ key ++ ".")

def validateConfig : Json → Except PyError Unit
  | .obj fields => checkEntries validateEntry fields
  | _ => invalid "Configuration must be an object."

/-- The entries of a validated layer: `validateConfig` accepts objects only. -/
def layerFields : Json → JsonObject
  | .obj fields => fields
  | _ => []

/-- `layer.get("config", {})`; in a validated layer the value is an object. -/
def configFlags (layer : JsonObject) : JsonObject :=
  match layer.get? "config" with
  | some (.obj flags) => flags
  | _ => []

def mergeLayer (result : JsonObject) (layer : Json) : Except PyError JsonObject :=
  match validateConfig layer with
  | .error e => .error e
  | .ok () =>
    let fields := layerFields layer
    let flags := OrderedDict.update (configFlags result) (configFlags fields)
    let updated := OrderedDict.update result fields
    .ok (if flags.isEmpty then updated else OrderedDict.set updated "config" (.obj flags))

def mergeLayers : JsonObject → List Json → Except PyError JsonObject
  | result, [] => .ok result
  | result, layer :: rest =>
    match mergeLayer result layer with
    | .ok merged => mergeLayers merged rest
    | .error e => .error e

/-- The layers are the system preset, the client's preset and the room's default. -/
def resolveConfig (cfg : Settings) (system client : Option Json) (roomDefault : Json) :
    Except PyError JsonObject :=
  let layers := [system.getD (.obj []), client.getD (.obj []),
    if roomDefault.truthy then roomDefault else .obj []]
  match mergeLayers [("meetingType", .str cfg.defaultProviderMeetingType)] layers with
  | .ok result =>
    match validateConfig (.obj result) with
    | .ok () => .ok result
    | .error e => .error e
  | .error e => .error e

theorem checkEntries_error {check : String → Json → Except PyError Unit} {d : JsonObject}
    {e : PyError} (rejects : ∀ k v e, check k v = .error e → ∃ m, e = .validationError m)
    (h : checkEntries check d = .error e) : ∃ m, e = .validationError m := by
  induction d with
  | nil => cases h
  | cons kv rest ih =>
    obtain ⟨k, v⟩ := kv
    unfold checkEntries at h
    split at h
    · exact ih h
    · rename_i hc
      cases h
      exact rejects k v _ hc

theorem validateBoolean_error {field : String} {value : Json} {e : PyError}
    (h : validateBoolean field value = .error e) : ∃ m, e = .validationError m := by
  unfold validateBoolean at h
  split at h
  · cases h
  · cases h
    exact ⟨_, rfl⟩

theorem validateEnum_error {field : String} {value : Json} {allowed : List String}
    {e : PyError} (h : validateEnum field value allowed = .error e) :
    ∃ m, e = .validationError m := by
  unfold validateEnum invalid at h
  dsimp only at h
  split at h
  · split at h
    · cases h
    · cases h
      exact ⟨_, rfl⟩
  · cases h
    exact ⟨_, rfl⟩

theorem validateSetting_error {field : String} {setting : Json} {e : PyError}
    (h : validateSetting field setting = .error e) : ∃ m, e = .validationError m := by
  unfold validateSetting at h
  split at h
  · exact validateBoolean_error h
  · split at h
    · exact validateEnum_error h
    · cases h
      exact ⟨_, rfl⟩

theorem validateEntry_error {key : String} {value : Json} {e : PyError}
    (h : validateEntry key value = .error e) : ∃ m, e = .validationError m := by
  unfold validateEntry at h
  split at h
  · exact validateEnum_error h
  split at h
  · exact validateBoolean_error h
  split at h
  · split at h
    · exact checkEntries_error (fun _ _ _ => validateSetting_error) h
    · cases h
      exact ⟨_, rfl⟩
  · cases h
    exact ⟨_, rfl⟩

/-- Validation reports a `ValidationError` and nothing else. -/
theorem validateConfig_error {value : Json} {e : PyError}
    (h : validateConfig value = .error e) : ∃ m, e = .validationError m := by
  unfold validateConfig at h
  split at h
  · exact checkEntries_error (fun _ _ _ => validateEntry_error) h
  · cases h
    exact ⟨_, rfl⟩

theorem mergeLayers_error {result : JsonObject} {layers : List Json} {e : PyError}
    (h : mergeLayers result layers = .error e) : ∃ m, e = .validationError m := by
  induction layers generalizing result with
  | nil => cases h
  | cons layer rest ih =>
    unfold mergeLayers at h
    split at h
    · exact ih h
    · rename_i err hm
      cases h
      unfold mergeLayer at hm
      split at hm
      · rename_i hv
        cases hm
        exact validateConfig_error hv
      · cases hm

/-- So the handler of `configured` catches every failure of `resolveConfig`. -/
theorem resolveConfig_error {cfg : Settings} {system client : Option Json} {room : Json}
    {e : PyError} (h : resolveConfig cfg system client room = .error e) :
    ∃ m, e = .validationError m := by
  unfold resolveConfig at h
  dsimp only at h
  split at h
  · split at h
    · cases h
    · rename_i hv
      cases h
      exact validateConfig_error hv
  · rename_i hm
    cases h
    exact mergeLayers_error hm

end MeetingGateway
