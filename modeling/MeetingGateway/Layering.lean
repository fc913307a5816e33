import MeetingGateway.Availability

/-!
# Layers of configuration

What `resolve_config` makes of validated layers: outside the nested `config` object the
last layer that sets a key wins, and inside it the last layer that sets a flag does. The
step of the loop first overwrites the nested object and then puts the merged flags back,
unless there are none.
-/

namespace MeetingGateway

open OrderedDict

/-- A layer that `validate_config` accepts; a dictionary has each key once. -/
structure ConfigLayer where
  fields : JsonObject
  distinct : Distinct fields
  flagsDistinct : Distinct (configFlags fields)
  valid : validateConfig (.obj fields) = .ok ()

def ConfigLayer.empty : ConfigLayer where
  fields := []
  distinct := List.nodup_nil
  flagsDistinct := List.nodup_nil
  valid := rfl

section Checks
variable {check : String → Json → Except PyError Unit}

theorem checkEntries_ok {d : JsonObject} :
    checkEntries check d = .ok () ↔ ∀ e ∈ d, check e.1 e.2 = .ok () := by
  induction d with
  | nil => simp [checkEntries]
  | cons kv rest ih =>
    obtain ⟨k, v⟩ := kv
    cases hc : check k v with
    | ok _ => simp [checkEntries, hc, ih]
    | error e => simp [checkEntries, hc]

/-- An update of checked entries with checked entries passes the check. -/
theorem checkEntries_update {d e : JsonObject} (hd : checkEntries check d = .ok ())
    (he : checkEntries check e = .ok ()) : checkEntries check (d.update e) = .ok () := by
  rw [checkEntries_ok] at hd he ⊢
  intro x hx
  exact (mem_update hx).elim (he x) (hd x)

theorem checkEntries_set {d : JsonObject} {k : String} {v : Json}
    (hd : checkEntries check d = .ok ()) (hv : check k v = .ok ()) :
    checkEntries check (d.set k v) = .ok () := by
  rw [checkEntries_ok] at hd ⊢
  intro x hx
  rcases mem_set hx with rfl | hold
  · exact hv
  · exact hd x hold

end Checks

/-- In a valid object `config` is an object of valid settings. -/
theorem validEntry_config {value : Json} (h : validateEntry "config" value = .ok ()) :
    ∃ flags, value = .obj flags ∧ checkEntries validateSetting flags = .ok () := by
  have hnot : "config" ∉ booleanTopLevelFields := by decide
  simp only [validateEntry, hnot] at h
  cases value with
  | obj flags => exact ⟨flags, rfl, h⟩
  | _ => cases h

theorem configFlags_valid {d : JsonObject} (h : validateConfig (.obj d) = .ok ()) :
    checkEntries validateSetting (configFlags d) = .ok () := by
  cases hconfig : d.get? "config" with
  | none => simp [configFlags, hconfig, checkEntries]
  | some value =>
    have hentry := checkEntries_ok.mp h _ (mem_of_get? hconfig)
    obtain ⟨flags, rfl, hflags⟩ := validEntry_config hentry
    simpa [configFlags, hconfig] using hflags

/-- Without flags the `config` of a valid object is absent or empty. -/
theorem configFlags_of_get? {d : JsonObject} {value : Json}
    (h : validateConfig (.obj d) = .ok ()) (hconfig : d.get? "config" = some value) :
    value = .obj (configFlags d) := by
  have hentry := checkEntries_ok.mp h _ (mem_of_get? hconfig)
  obtain ⟨flags, rfl, _⟩ := validEntry_config hentry
  simp [configFlags, hconfig]

theorem get?_config_of_flags {d : JsonObject} (h : configFlags d ≠ []) :
    (d.get? "config").isSome = true := by
  cases hconfig : d.get? "config" with
  | none => simp [configFlags, hconfig] at h
  | some value => rfl

/-- What the layers merged so far have come to. -/
structure Layered (layers : List JsonObject) (result : JsonObject) : Prop where
  valid : validateConfig (.obj result) = .ok ()
  fields : ∀ key, key ≠ "config" → result.get? key = lastValue layers key
  config : (result.get? "config").isSome = true ↔ ∃ layer ∈ layers,
    (layer.get? "config").isSome = true
  flags : ∀ flag, (configFlags result).get? flag = lastValue (layers.map configFlags) flag

section Merge
variable {layers : List JsonObject} {result : JsonObject}

/-- The loop's step: what it makes of `result` and one more layer. -/
def mergeFields (result layer : JsonObject) : JsonObject :=
  let flags := OrderedDict.update (configFlags result) (configFlags layer)
  let updated := OrderedDict.update result layer
  if flags.isEmpty then updated else OrderedDict.set updated "config" (.obj flags)

theorem mergeLayer_valid (layer : ConfigLayer) :
    mergeLayer result (.obj layer.fields) = .ok (mergeFields result layer.fields) := by
  simp [mergeLayer, layer.valid, layerFields, mergeFields]

/-- The restored flags are the merged ones, also where there are none. -/
theorem configFlags_mergeFields (valid : validateConfig (.obj result) = .ok ())
    (layer : ConfigLayer) :
    configFlags (mergeFields result layer.fields) =
      OrderedDict.update (configFlags result) (configFlags layer.fields) := by
  unfold mergeFields
  dsimp only
  split
  · rename_i hempty
    have hnil := List.isEmpty_iff.mp hempty
    obtain ⟨hresult, hlayer⟩ := update_eq_nil hnil
    rw [hnil, configFlags, get?_update layer.distinct]
    cases hconfig : layer.fields.get? "config" with
    | some value =>
      rw [configFlags_of_get? layer.valid hconfig, hlayer]
      rfl
    | none =>
      cases hold : result.get? "config" with
      | none => rfl
      | some value =>
        rw [configFlags_of_get? valid hold, hresult]
        rfl
  · simp [configFlags, get?_set]

theorem mergeFields_get? {key : String} (hkey : key ≠ "config") (layer : ConfigLayer) :
    (mergeFields result layer.fields).get? key =
      (layer.fields.get? key).or (result.get? key) := by
  unfold mergeFields
  dsimp only
  split
  · exact get?_update layer.distinct key
  · rw [get?_set, if_neg (Ne.symm hkey), get?_update layer.distinct]

theorem mergeFields_config (layer : ConfigLayer) :
    ((mergeFields result layer.fields).get? "config").isSome = true ↔
      (layer.fields.get? "config").isSome = true ∨ (result.get? "config").isSome = true := by
  unfold mergeFields
  dsimp only
  split
  · rw [get?_update layer.distinct, Option.isSome_or, Bool.or_eq_true]
  · rename_i hflags
    have some_flags : configFlags layer.fields ≠ [] ∨ configFlags result ≠ [] := by
      by_contra none
      obtain ⟨hlayer, hresult⟩ := not_or.mp none
      rw [not_not.mp hlayer, not_not.mp hresult] at hflags
      exact hflags rfl
    constructor
    · intro _
      exact some_flags.imp get?_config_of_flags get?_config_of_flags
    · intro _
      simp [get?_set]

theorem mergeFields_valid (valid : validateConfig (.obj result) = .ok ()) (layer : ConfigLayer) :
    validateConfig (.obj (mergeFields result layer.fields)) = .ok () := by
  have updated : checkEntries validateEntry (OrderedDict.update result layer.fields) = .ok () :=
    checkEntries_update valid layer.valid
  have flags := checkEntries_update (configFlags_valid valid) (configFlags_valid layer.valid)
  unfold mergeFields
  dsimp only
  split
  · exact updated
  · refine checkEntries_set updated ?_
    have hnot : "config" ∉ booleanTopLevelFields := by decide
    simpa [validateEntry, hnot] using flags

theorem Layered.merge (h : Layered layers result) (layer : ConfigLayer) :
    Layered (layers ++ [layer.fields]) (mergeFields result layer.fields) := by
  refine ⟨mergeFields_valid h.valid layer, ?_, ?_, ?_⟩
  · intro key hkey
    rw [mergeFields_get? hkey, lastValue_concat, h.fields key hkey]
  · rw [mergeFields_config, h.config]
    simp [or_comm]
  · intro flag
    rw [configFlags_mergeFields h.valid, get?_update layer.flagsDistinct, List.map_append,
      List.map_singleton, lastValue_concat, h.flags flag]

/-- Merging any number of validated layers succeeds. -/
theorem mergeLayers_layered (h : Layered layers result) (more : List ConfigLayer) :
    ∃ merged, mergeLayers result (more.map fun layer => .obj layer.fields) = .ok merged ∧
      Layered (layers ++ more.map ConfigLayer.fields) merged := by
  induction more generalizing layers result with
  | nil => exact ⟨result, rfl, by simpa using h⟩
  | cons layer rest ih =>
    obtain ⟨merged, hmerged, layered⟩ := ih (h.merge layer)
    refine ⟨merged, ?_, by simpa using layered⟩
    simp only [List.map_cons, mergeLayers, mergeLayer_valid]
    exact hmerged

end Merge

/-- The default meeting type is the layer below all others. -/
def defaultLayer (cfg : Settings) : JsonObject :=
  [("meetingType", .str cfg.defaultProviderMeetingType)]

theorem layered_default {cfg : Settings}
    (valid : cfg.defaultProviderMeetingType ∈ ["instant", "scheduled"]) :
    Layered [defaultLayer cfg] (defaultLayer cfg) := by
  refine ⟨?_, ?_, ?_, ?_⟩
  · simp only [validateConfig, defaultLayer, checkEntries, validateEntry, validateEnum, if_true,
      if_pos valid]
  · intro key _
    simp [lastValue]
  · simp
  · intro flag
    simp [lastValue]

/-- Three validated layers over a valid default: the merge succeeds and is valid, each key
outside `config` has the value of the last layer that has it, `config` is there if any layer
has one, and each flag has the value of the last layer whose `config` has that flag. -/
theorem resolve_config_layers {cfg : Settings}
    (valid : cfg.defaultProviderMeetingType ∈ ["instant", "scheduled"])
    (system client : Option ConfigLayer) (room : ConfigLayer) :
    ∃ result, resolveConfig cfg (system.map fun layer => .obj layer.fields)
        (client.map fun layer => .obj layer.fields) (.obj room.fields) = .ok result ∧
      Layered [defaultLayer cfg, (system.getD .empty).fields, (client.getD .empty).fields,
        room.fields] result := by
  obtain ⟨merged, hmerged, layered⟩ := mergeLayers_layered (layered_default valid)
    [system.getD .empty, client.getD .empty, room]
  refine ⟨merged, ?_, by simpa using layered⟩
  have hsystem : (system.map fun layer => Json.obj layer.fields).getD (.obj []) =
      .obj (system.getD .empty).fields := by
    cases system <;> rfl
  have hclient : (client.map fun layer => Json.obj layer.fields).getD (.obj []) =
      .obj (client.getD .empty).fields := by
    cases client <;> rfl
  have hroom : (if (Json.obj room.fields).truthy then Json.obj room.fields else .obj []) =
      .obj room.fields := by
    cases hfields : room.fields with
    | nil => rfl
    | cons e rest => rfl
  have hmerge : mergeLayers [("meetingType", .str cfg.defaultProviderMeetingType)]
      [.obj (system.getD .empty).fields, .obj (client.getD .empty).fields, .obj room.fields] =
        .ok merged := hmerged
  simp only [resolveConfig, hsystem, hclient, hroom, hmerge, layered.valid]

/-- The system preset schedules and mutes, the client's is instant, the room turns cameras off. -/
def exampleSystemLayer : ConfigLayer where
  fields := [("meetingType", .str "scheduled"), ("config", .obj [("MIC_OFF", .bool true)])]
  distinct := by decide
  flagsDistinct := by decide
  valid := by rfl

def exampleClientLayer : ConfigLayer where
  fields := [("meetingType", .str "instant")]
  distinct := by decide
  flagsDistinct := by decide
  valid := by rfl

def exampleRoomLayer : ConfigLayer where
  fields := [("config", .obj [("CAMERA_OFF", .bool true)])]
  distinct := by decide
  flagsDistinct := by decide
  valid := by rfl

def exampleLayers : List JsonObject :=
  [defaultLayer exampleSettings, exampleSystemLayer.fields, exampleClientLayer.fields,
    exampleRoomLayer.fields]

/-- The merged configuration is instant, muted and without cameras. -/
theorem resolve_config_three_layers :
    (∃ result, resolveConfig exampleSettings (some (.obj exampleSystemLayer.fields))
        (some (.obj exampleClientLayer.fields)) (.obj exampleRoomLayer.fields) = .ok result ∧
      Layered exampleLayers result) ∧
      lastValue exampleLayers "meetingType" = some (.str "instant") ∧
      lastValue (exampleLayers.map configFlags) "MIC_OFF" = some (.bool true) :=
  ⟨resolve_config_layers (by decide) (some exampleSystemLayer) (some exampleClientLayer)
    exampleRoomLayer, rfl, rfl⟩

end MeetingGateway
