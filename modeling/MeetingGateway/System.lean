import MeetingGateway.Preservation
import MeetingGateway.Library.LabelledRuns

/-!
# The gateway as a machine

The committed store, the work in progress on each row and the room locks. A step is a
registration, an operation on one row or an administrator's edit, so a run is any
interleaving of any number of create requests, sweeps, cancellations and operator
actions. Steps that a lock blocks are not enabled.
-/

namespace MeetingGateway

open LabelledRuns

/-- `excluded` lists the meetings whose save the exclusion constraint ever refused. -/
structure World where
  store : Store
  sessions : MeetingId → Session
  roomLock : RoomId → Option MeetingId
  excluded : List MeetingId

/-- `register` names the key a new row would get; `on` is an operation on a row. -/
inductive Label where
  | register (r : RequestId) (pk : MeetingId) (client : ClientId) (values : CreateValues)
      (now : Int)
  | on (pk : MeetingId) (op : Operation)
  | editRoom (id : RoomId) (isActive : Bool) (priority : Int) (defaultMeetingConfig : Json)
  | editSystemPreset (preset : Option Json)
  | editClientPreset (client : ClientId) (preset : Option Json)

def Store.insertMeeting (s : Store) (row : Meeting) (fresh : s.meeting? row.id = none) : Store :=
  { s with meetings := s.meetings.insert row fresh }

section Insert
variable {s : Store} {row : Meeting}

theorem Store.meeting?_insert_self (fresh : s.meeting? row.id = none) :
    (s.insertMeeting row fresh).meeting? row.id = some row := by
  show (s.meetings.insert row fresh).get? row.id = some row
  exact KeyedTable.get?_insert_self

theorem Store.meeting?_insert_of_ne (fresh : s.meeting? row.id = none) {pk : MeetingId}
    (hne : pk ≠ row.id) : (s.insertMeeting row fresh).meeting? pk = s.meeting? pk := by
  show (s.meetings.insert row fresh).get? pk = s.meetings.get? pk
  exact KeyedTable.get?_insert_of_ne hne

theorem Store.meeting?_insert {m : Meeting} (fresh : s.meeting? row.id = none)
    (h : (s.insertMeeting row fresh).meeting? m.id = some m) :
    (m.id = row.id ∧ m = row) ∨ (m.id ≠ row.id ∧ s.meeting? m.id = some m) := by
  by_cases he : m.id = row.id
  · rw [he, Store.meeting?_insert_self fresh] at h
    exact Or.inl ⟨he, (Option.some.inj h).symm⟩
  · rw [Store.meeting?_insert_of_ne fresh he] at h
    exact Or.inr ⟨he, h⟩

end Insert

/-- The fields of a room an administrator may change while meetings refer to it. -/
def Room.edit (isActive : Bool) (priority : Int) (defaultMeetingConfig : Json) (room : Room) :
    Room :=
  { room with
    isActive := isActive
    priority := priority
    defaultMeetingConfig := defaultMeetingConfig }

def Store.editRoom (s : Store) (id : RoomId) (edit : Room → Room)
    (keepsId : ∀ room, (edit room).id = room.id)
    (keepsPublicId : ∀ room, (edit room).publicId = room.publicId) : Store where
  meetings := s.meetings
  rooms := s.rooms.mapRows (fun room => if room.id = id then edit room else room) fun room => by
    by_cases h : room.id = id
    · simp [h, keepsId]
    · simp [h]
  publicIds := by
    have same : (s.rooms.rows.map fun room => if room.id = id then edit room else room).map
        Room.publicId = s.rooms.rows.map Room.publicId := by
      rw [List.map_map]
      refine List.map_congr_left fun room _ => ?_
      by_cases h : room.id = id
      · simp [h, keepsPublicId]
      · simp [h]
    exact same ▸ s.publicIds
  systemPreset := s.systemPreset
  clientPreset := s.clientPreset

namespace World

/-- No meeting yet; the rooms and presets are those of `store`. -/
def initial (store : Store) : World :=
  ⟨{ store with meetings := KeyedTable.empty }, fun _ => Session.idle, fun _ => none, []⟩

/-- `register` in a transaction of its own; a refused request leaves everything as it is. -/
def register (w : World) (r : RequestId) (pk : MeetingId) (client : ClientId)
    (values : CreateValues) (now : Int) : Option World :=
  match MeetingGateway.register w.store pk client values now with
  | .error _ => some w
  | .ok (m, true) =>
    if fresh : w.store.meeting? m.id = none then
      some { w with
        store := w.store.insertMeeting m fresh
        sessions := Function.update w.sessions m.id (Session.opened r client values) }
    else none
  | .ok (m, false) =>
    match (w.sessions m.id).requests r with
    | some _ => none
    | none => some { w with
        sessions := Function.update w.sessions m.id
          ((w.sessions m.id).put r ⟨values, .registered⟩) }

def scene (w : World) (row : Meeting) : Scene := ⟨w.store, w.roomLock, row, w.sessions row.id⟩

/-- The effect of an operation on a row, whose save the database may refuse. -/
def settle (w : World) (pk : MeetingId) : Effect → World
  | .quiet session roomLock excluded =>
    { w with
      sessions := Function.update w.sessions pk session
      roomLock := roomLock
      excluded := if excluded then pk :: w.excluded else w.excluded }
  | .write row done failed =>
    match w.store.save row with
    | .ok store =>
      { w with
        store := store
        sessions := Function.update w.sessions pk done
        roomLock := releaseRooms w.roomLock pk }
    | .error e =>
      { w with
        sessions := Function.update w.sessions pk failed
        roomLock := releaseRooms w.roomLock pk
        excluded := if e = .exclusion then pk :: w.excluded else w.excluded }

def step (cfg : Settings) (w : World) : Label → Option World
  | .register r pk client values now => w.register r pk client values now
  | .on pk op =>
    match w.store.meeting? pk with
    | none => none
    | some row => ((w.scene row).operate cfg op).map (w.settle pk)
  | .editRoom id isActive priority config =>
    if (w.roomLock id).isSome then none
    else some { w with
      store := w.store.editRoom id (Room.edit isActive priority config) (fun _ => rfl)
        (fun _ => rfl) }
  | .editSystemPreset preset =>
    some { w with store := { w.store with systemPreset := preset } }
  | .editClientPreset client preset =>
    some { w with store := { w.store with
      clientPreset := Function.update w.store.clientPreset client preset } }

end World

/-- The worlds the service can get into, from a store with these rooms and no meeting. -/
abbrev Reached (cfg : Settings) (store : Store) (w : World) : Prop :=
  Reachable (World.step cfg) (World.initial store) w

section Changes
variable {cfg : Settings} {w w' : World} {pk : MeetingId}

theorem register_created {store : Store} {client : ClientId} {values : CreateValues} {now : Int}
    {m : Meeting} (h : register store pk client values now = .ok (m, true)) :
    m = values.draft pk client now ∧ m.checks = true ∧
      ∀ other ∈ store.meetings.rows, other.keyed client values.classInfo.id = false := by
  unfold register at h
  split at h
  · rename_i hnone
    split at h
    · rename_i hchecks
      cases h
      refine ⟨rfl, hchecks, ?_⟩
      intro other hmem
      have hnot := List.filter_eq_nil_iff.mp hnone other hmem
      simpa using hnot
    · cases h
  · split at h
    · cases h
    · cases h
  · cases h

theorem register_found {store : Store} {client : ClientId} {values : CreateValues} {now : Int}
    {m : Meeting} (h : register store pk client values now = .ok (m, false)) :
    m ∈ store.meetings.rows ∧ m.keyed client values.classInfo.id = true ∧
      m.sameRequest values = true := by
  unfold register at h
  split at h
  · split at h
    · cases h
    · cases h
  · rename_i found hone
    split at h
    · rename_i hsame
      cases h
      have hmem : m ∈ store.meetings.rows.filter (Meeting.keyed client values.classInfo.id) := by
        rw [hone]
        exact List.mem_singleton_self m
      exact ⟨(List.mem_filter.mp hmem).1, (List.mem_filter.mp hmem).2, hsame⟩
    · cases h
  · cases h

/-- What a step can do to the world: register a request, settle an operation, or edit
what an administrator may edit. -/
inductive Change (cfg : Settings) (w : World) : Label → World → Prop
  | refused {r : RequestId} {pk : MeetingId} {client : ClientId} {values : CreateValues}
      {now : Int} {e : Raised} : register w.store pk client values now = .error e →
      Change cfg w (.register r pk client values now) w
  | created {r : RequestId} {pk : MeetingId} {client : ClientId} {values : CreateValues}
      {now : Int} (fresh : w.store.meeting? pk = none) :
      (values.draft pk client now).checks = true →
      (∀ other ∈ w.store.meetings.rows, other.keyed client values.classInfo.id = false) →
      Change cfg w (.register r pk client values now) { w with
        store := w.store.insertMeeting (values.draft pk client now) fresh
        sessions := Function.update w.sessions pk (Session.opened r client values) }
  | joined {r : RequestId} {pk : MeetingId} {client : ClientId} {values : CreateValues}
      {now : Int} {m : Meeting} : w.store.meeting? m.id = some m →
      m.keyed client values.classInfo.id = true → m.sameRequest values = true →
      (w.sessions m.id).requests r = none →
      Change cfg w (.register r pk client values now) { w with
        sessions := Function.update w.sessions m.id
          ((w.sessions m.id).put r ⟨values, .registered⟩) }
  | operated {op : Operation} {row : Meeting} {effect : Effect} :
      w.store.meeting? row.id = some row → Move cfg (w.scene row) op effect →
      Change cfg w (.on row.id op) (w.settle row.id effect)
  | roomEdited {id : RoomId} {isActive : Bool} {priority : Int} {config : Json} :
      w.roomLock id = none →
      Change cfg w (.editRoom id isActive priority config) { w with
        store := w.store.editRoom id (Room.edit isActive priority config) (fun _ => rfl)
          (fun _ => rfl) }
  | systemPresetEdited {preset : Option Json} :
      Change cfg w (.editSystemPreset preset)
        { w with store := { w.store with systemPreset := preset } }
  | clientPresetEdited {client : ClientId} {preset : Option Json} :
      Change cfg w (.editClientPreset client preset)
        { w with store := { w.store with
          clientPreset := Function.update w.store.clientPreset client preset } }

theorem step_change {l : Label} (h : World.step cfg w l = some w') : Change cfg w l w' := by
  cases l with
  | register r pk client values now =>
    simp only [World.step, World.register] at h
    split at h
    · rename_i e he
      cases h
      exact .refused he
    · rename_i m hm
      obtain ⟨rfl, hchecks, hnone⟩ := register_created hm
      split at h
      · rename_i fresh
        cases h
        exact .created fresh hchecks hnone
      · cases h
    · rename_i m hm
      obtain ⟨hmem, hkeyed, hsame⟩ := register_found hm
      split at h
      · cases h
      · rename_i hunused
        cases h
        exact .joined (KeyedTable.get?_eq_some.mpr ⟨hmem, rfl⟩) hkeyed hsame hunused
  | on pk op =>
    simp only [World.step] at h
    split at h
    · cases h
    · rename_i row hrow
      have hid := Store.meeting?_id hrow
      subst hid
      obtain ⟨effect, heffect, rfl⟩ := Option.map_eq_some_iff.mp h
      exact .operated hrow (operate_move hrow heffect)
  | editRoom id isActive priority config =>
    simp only [World.step] at h
    split at h
    · cases h
    · rename_i hfree
      cases h
      exact .roomEdited (by simpa using hfree)
  | editSystemPreset preset =>
    cases h
    exact .systemPresetEdited
  | editClientPreset client preset =>
    cases h
    exact .clientPresetEdited

end Changes
end MeetingGateway
