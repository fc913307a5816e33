import MeetingGateway.Services

/-!
# Availability and allocation agree

A room is eligible for a client and a slot when it is active, configured for the
client, free and below its cap. An attempt on an active room that is not eligible fails with an
error the allocator skips, so the loop and the snapshot answer the same question and the loop
settles on the first eligible room in `(priority, public_id)` order, unless the database takes
no reservation of the slot at all.
-/

namespace MeetingGateway

/-- The room is free for a slot if the database can be asked about it and nothing overlaps it. -/
structure Store.Eligible (cfg : Settings) (store : Store) (client : ClientId)
    (slot : BoundedRange Int) (room : Room) : Prop where
  stored : room ∈ store.rooms.rows
  active : room.isActive = true
  configured : configured cfg store room client = true
  proper : slot.reversed = false
  free : store.FreeFor room.id slot
  below : store.BelowLimit room

instance : Std.Total Room.before where
  total r s := by
    unfold Room.before
    rcases lt_trichotomy r.priority s.priority with h | h | h
    · exact Or.inl (Or.inl h)
    · rcases le_total r.publicId s.publicId with hp | hp
      · exact Or.inl (Or.inr ⟨h, hp⟩)
      · exact Or.inr (Or.inr ⟨h.symm, hp⟩)
    · exact Or.inr (Or.inl h)

instance : IsTrans Room Room.before where
  trans r s t := by
    rintro (h | ⟨h, hp⟩) (k | ⟨k, kp⟩)
    · exact Or.inl (lt_trans h k)
    · exact Or.inl (k ▸ h)
    · exact Or.inl (h ▸ k)
    · exact Or.inr ⟨h.trans k, le_trans hp kp⟩

theorem Room.before_refl (r : Room) : r.before r := Or.inr ⟨rfl, le_rfl⟩

theorem Store.activeRooms_sorted (s : Store) : s.activeRooms.Pairwise Room.before :=
  List.pairwise_insertionSort Room.before _

theorem Store.mem_activeRooms {s : Store} {room : Room} :
    room ∈ s.activeRooms ↔ room ∈ s.rooms.rows ∧ room.isActive = true := by
  simp [Store.activeRooms, List.mem_insertionSort]

section Attempt
variable {cfg : Settings} {store : Store} {locked : Meeting} {room : Room}
variable {start end_ : Datetime} {slot : BoundedRange Int} {now : Int}

/-- An attempt on an active room for a draft, by the room's eligibility. -/
theorem reserveSpecificRoom_active (hslot : interval cfg start end_ = .ok slot)
    (stored : store.meeting? locked.id = some locked) (draft : locked.status = .draft)
    (hmem : room ∈ store.rooms.rows) (active : room.isActive = true) :
    reserveSpecificRoom cfg store locked.id room.publicId start end_ now =
      if !configured cfg store room locked.integrationClient then
        .error (.gateway ⟨.roomUnavailable, "Room does not exist or is inactive.", 409⟩)
      else
        match capacityError store room slot with
        | .error e => .error (.python e)
        | .ok (some conflict) =>
          .error (.gateway ⟨conflict, "Internal capacity is unavailable.", 409⟩)
        | .ok none =>
          if reservable cfg start end_ then .ok (locked.reserve room.id start end_ slot now)
          else .error (.python .integrityError) := by
  have found := activeRoom?_publicId hmem active
  cases hconfigured : configured cfg store room locked.integrationClient with
  | false =>
    simp [reserveSpecificRoom, reservedRow, hslot, stored, draft, found, hconfigured]
  | true =>
    cases hcap : capacityError store room slot with
    | error e =>
      simp [reserveSpecificRoom, reservedRow, hslot, stored, draft, found, hconfigured, hcap]
    | ok conflict =>
      cases conflict with
      | some conflict =>
        simp [reserveSpecificRoom, reservedRow, hslot, stored, draft, found, hconfigured, hcap]
      | none =>
        have hrow : reservedRow cfg store locked.id room.publicId start end_ now =
            .ok (locked.reserve room.id start end_ slot now) := by
          simp [reservedRow, hslot, stored, draft, found, hconfigured, hcap]
        simp [reserveSpecificRoom, hrow, saveReserved_of_reservedRow hrow]

theorem Store.Eligible.capacity {client : ClientId}
    (eligible : store.Eligible cfg client slot room) :
    capacityError store room slot = .ok none :=
  capacityError_eq_none.mpr ⟨eligible.proper, eligible.free, eligible.below⟩

theorem reserveSpecificRoom_eligible (hslot : interval cfg start end_ = .ok slot)
    (stored : store.meeting? locked.id = some locked) (draft : locked.status = .draft)
    (eligible : store.Eligible cfg locked.integrationClient slot room) :
    reserveSpecificRoom cfg store locked.id room.publicId start end_ now =
      if reservable cfg start end_ then .ok (locked.reserve room.id start end_ slot now)
      else .error (.python .integrityError) := by
  rw [reserveSpecificRoom_active hslot stored draft eligible.stored eligible.active,
    eligible.configured, eligible.capacity]
  rfl

/-- An attempt on an active room that is not eligible fails with an error the loop skips, if the
database can be asked about the slot or is not. -/
theorem reserveSpecificRoom_skips (now : Int) (hslot : interval cfg start end_ = .ok slot)
    (askable : slot.reversed = false ∨ configured cfg store room locked.integrationClient = false)
    (stored : store.meeting? locked.id = some locked)
    (draft : locked.status = .draft) (hmem : room ∈ store.rooms.rows)
    (active : room.isActive = true)
    (not_eligible : ¬ store.Eligible cfg locked.integrationClient slot room) :
    ∃ e, reserveSpecificRoom cfg store locked.id room.publicId start end_ now = .error e ∧
      tryNextRoom e = true := by
  rw [reserveSpecificRoom_active hslot stored draft hmem active]
  cases hconfigured : configured cfg store room locked.integrationClient with
  | false => exact ⟨_, rfl, rfl⟩
  | true =>
    have proper : slot.reversed = false := askable.resolve_right (by simp [hconfigured])
    obtain ⟨conflict, hcap⟩ := capacityError_proper store room proper
    rw [hcap]
    cases conflict with
    | some conflict =>
      refine ⟨_, rfl, ?_⟩
      rcases capacityError_skips hcap with rfl | rfl
      · rfl
      · rfl
    | none =>
      obtain ⟨_, free, below⟩ := capacityError_eq_none.mp hcap
      exact absurd ⟨hmem, active, hconfigured, proper, free, below⟩ not_eligible

/-- An attempt succeeds exactly on an eligible room for a reservable interval. -/
theorem reserveSpecificRoom_ok_iff (hslot : interval cfg start end_ = .ok slot)
    (stored : store.meeting? locked.id = some locked) (draft : locked.status = .draft)
    (hmem : room ∈ store.rooms.rows) (active : room.isActive = true) :
    (∃ row, reserveSpecificRoom cfg store locked.id room.publicId start end_ now = .ok row) ↔
      store.Eligible cfg locked.integrationClient slot room ∧
        reservable cfg start end_ = true := by
  constructor
  · rintro ⟨row, h⟩
    obtain ⟨hrow, hreservable, _⟩ := reserveSpecificRoom_ok h
    obtain ⟨slot', locked', room', hslot', stored', _, hroom, hconf, hcap, _⟩ :=
      reservedRow_ok hrow
    rw [hslot] at hslot'
    cases hslot'
    rw [stored] at stored'
    cases stored'
    rw [activeRoom?_publicId hmem active] at hroom
    cases hroom
    obtain ⟨proper, free, below⟩ := capacityError_eq_none.mp hcap
    exact ⟨⟨hmem, active, hconf, proper, free, below⟩, hreservable⟩
  · rintro ⟨eligible, hreservable⟩
    rw [reserveSpecificRoom_eligible hslot stored draft eligible, if_pos hreservable]
    exact ⟨_, rfl⟩

end Attempt

/-- The loop over public ids is a loop over the active rooms. -/
theorem allocateAnyRoom_eq (cfg : Settings) (store : Store) (pk : MeetingId)
    (start end_ : Datetime) (now : Int) :
    allocateAnyRoom cfg store pk start end_ now =
      FirstFit.tryEach
        (fun room : Room => reserveSpecificRoom cfg store pk room.publicId start end_ now)
        tryNextRoom (.gateway noCapacity) store.activeRooms :=
  FirstFit.tryEach_map ..

section Agreement
variable {cfg : Settings} {store : Store} {locked : Meeting}
variable {start end_ : Datetime} {slot : BoundedRange Int} {now : Int}

/-- The slot of a reservable interval does not end before it starts. -/
theorem proper_of_reservable (hslot : interval cfg start end_ = .ok slot)
    (hreservable : reservable cfg start end_ = true) : slot.reversed = false := by
  obtain ⟨lower, upper, rfl, hlower, ordered, hupper⟩ := reservable_ok hslot hreservable
  exact BoundedRange.reversed_halfOpen.mpr (by omega)

theorem allocateAnyRoom_succeeds_iff (hslot : interval cfg start end_ = .ok slot)
    (stored : store.meeting? locked.id = some locked) (draft : locked.status = .draft) :
    (∃ row, allocateAnyRoom cfg store locked.id start end_ now = .ok row) ↔
      (∃ room, store.Eligible cfg locked.integrationClient slot room) ∧
        reservable cfg start end_ = true := by
  rw [allocateAnyRoom_eq]
  constructor
  · rintro ⟨row, h⟩
    obtain ⟨front, room, back, hrooms, hrow, _⟩ := FirstFit.tryEach_ok h
    obtain ⟨hroom, active⟩ := Store.mem_activeRooms.mp
      (show room ∈ store.activeRooms by simp [hrooms])
    obtain ⟨eligible, hreservable⟩ :=
      (reserveSpecificRoom_ok_iff hslot stored draft hroom active).mp ⟨row, hrow⟩
    exact ⟨⟨room, eligible⟩, hreservable⟩
  · rintro ⟨⟨room, eligible⟩, hreservable⟩
    have proper := proper_of_reservable hslot hreservable
    rw [FirstFit.tryEach_succeeds_iff]
    · refine ⟨room, Store.mem_activeRooms.mpr ⟨eligible.stored, eligible.active⟩, ?_⟩
      exact (reserveSpecificRoom_ok_iff hslot stored draft eligible.stored eligible.active).mpr
        ⟨eligible, hreservable⟩
    · intro other hmem e he
      obtain ⟨hother, active⟩ := Store.mem_activeRooms.mp hmem
      obtain ⟨e', he', skips⟩ := reserveSpecificRoom_skips now hslot (.inl proper) stored draft
        hother active (by
          intro eligible'
          rw [reserveSpecificRoom_eligible hslot stored draft eligible', if_pos hreservable] at he
          cases he)
      rw [he] at he'
      cases he'
      exact skips

/-- The snapshot finds an eligible room, if the database can be asked about the slot. -/
theorem anyAvailable_proper {client : ClientId} (proper : slot.reversed = false)
    (rooms : List Room) :
    anyAvailable cfg store client slot rooms = .ok (rooms.any fun room =>
      configured cfg store room client && decide (capacityError store room slot = .ok none)) := by
  induction rooms with
  | nil => rfl
  | cons room rest ih =>
    cases hconfigured : configured cfg store room client with
    | false => simp [anyAvailable, hconfigured, ih]
    | true =>
      obtain ⟨conflict, hcap⟩ := capacityError_proper store room proper
      cases conflict with
      | none => simp [anyAvailable, hconfigured, hcap]
      | some _ => simp [anyAvailable, hconfigured, hcap, ih]

/-- If it cannot be asked, the snapshot finds no room or raises the database's error. -/
theorem anyAvailable_reversed {client : ClientId} (reversed : slot.reversed = true)
    (rooms : List Room) : anyAvailable cfg store client slot rooms =
      if rooms.any fun room => configured cfg store room client then .error .dataError
      else .ok false := by
  have raises : ∀ room, capacityError store room slot = .error .dataError := by
    intro room
    simp [capacityError, reversed]
  induction rooms with
  | nil => rfl
  | cons room rest ih =>
    cases hconfigured : configured cfg store room client with
    | false => simp [anyAvailable, hconfigured, ih]
    | true => simp [anyAvailable, hconfigured, raises]

theorem availability_iff_eligible {client : ClientId}
    (hslot : interval cfg start end_ = .ok slot) :
    (∃ a, availability cfg store client start end_ = .ok a ∧ a.available = true) ↔
      ∃ room, store.Eligible cfg client slot room := by
  cases reversed : slot.reversed with
  | true =>
    have ineligible : ¬ ∃ room, store.Eligible cfg client slot room := by
      rintro ⟨room, eligible⟩
      have proper := eligible.proper
      rw [reversed] at proper
      cases proper
    simp only [availability, hslot, anyAvailable_reversed reversed, ineligible, iff_false]
    rintro ⟨a, ha, havail⟩
    split at ha
    · cases ha
    · rename_i hany
      cases ha
      cases havail
      split at hany
      · cases hany
      · cases hany
  | false =>
    simp only [availability, hslot, anyAvailable_proper reversed]
    constructor
    · rintro ⟨a, ha, havail⟩
      cases ha
      obtain ⟨room, hmem, hroom⟩ := List.any_eq_true.mp havail
      obtain ⟨stored, active⟩ := Store.mem_activeRooms.mp hmem
      obtain ⟨hconf, hcap⟩ := Bool.and_eq_true_iff.mp hroom
      obtain ⟨proper, free, below⟩ := capacityError_eq_none.mp (of_decide_eq_true hcap)
      exact ⟨room, stored, active, hconf, proper, free, below⟩
    · rintro ⟨room, eligible⟩
      refine ⟨_, rfl, List.any_eq_true.mpr ⟨room, ?_, ?_⟩⟩
      · exact Store.mem_activeRooms.mpr ⟨eligible.stored, eligible.active⟩
      · simp [eligible.configured, eligible.capacity]

theorem allocateAnyRoom_least (hslot : interval cfg start end_ = .ok slot)
    (stored : store.meeting? locked.id = some locked) (draft : locked.status = .draft)
    {row : Meeting} (h : allocateAnyRoom cfg store locked.id start end_ now = .ok row) :
    ∃ room, store.Eligible cfg locked.integrationClient slot room ∧
      row = locked.reserve room.id start end_ slot now ∧
      ∀ other, store.Eligible cfg locked.integrationClient slot other → room.before other := by
  rw [allocateAnyRoom_eq] at h
  obtain ⟨room, hmem, hrow, least⟩ :=
    FirstFit.tryEach_least Room.before_refl store.activeRooms_sorted h
  obtain ⟨hroom, active⟩ := Store.mem_activeRooms.mp hmem
  obtain ⟨eligible, hreservable⟩ :=
    (reserveSpecificRoom_ok_iff hslot stored draft hroom active).mp ⟨row, hrow⟩
  have reserves : ∀ {other : Room}, store.Eligible cfg locked.integrationClient slot other →
      reserveSpecificRoom cfg store locked.id other.publicId start end_ now =
        .ok (locked.reserve other.id start end_ slot now) := by
    intro other hother
    rw [reserveSpecificRoom_eligible hslot stored draft hother, if_pos hreservable]
  rw [reserves eligible] at hrow
  refine ⟨room, eligible, (Except.ok.inj hrow).symm, ?_⟩
  intro other hother
  exact least other (Store.mem_activeRooms.mpr ⟨hother.stored, hother.active⟩)
    ⟨_, reserves hother⟩

section Askable
variable (now : Int) (hslot : interval cfg start end_ = .ok slot)
variable (askable : slot.reversed = false ∨ ∀ room ∈ store.activeRooms,
  configured cfg store room locked.integrationClient = false)
variable (stored : store.meeting? locked.id = some locked) (draft : locked.status = .draft)
include hslot askable stored draft

theorem ineligible_skips {room : Room} (hmem : room ∈ store.activeRooms)
    (ineligible : ¬ store.Eligible cfg locked.integrationClient slot room) :
    ∃ e, reserveSpecificRoom cfg store locked.id room.publicId start end_ now = .error e ∧
      tryNextRoom e = true := by
  obtain ⟨hroom, active⟩ := Store.mem_activeRooms.mp hmem
  exact reserveSpecificRoom_skips now hslot (askable.imp_right fun none => none room hmem)
    stored draft hroom active ineligible

/-- An eligible room whose reservation the database does not take ends the loop. -/
theorem allocateAnyRoom_not_taken
    (eligible : ∃ room, store.Eligible cfg locked.integrationClient slot room)
    (untaken : reservable cfg start end_ = false) :
    allocateAnyRoom cfg store locked.id start end_ now = .error (.python .integrityError) := by
  obtain ⟨room, heligible⟩ := eligible
  have refuses : ∀ other, store.Eligible cfg locked.integrationClient slot other →
      reserveSpecificRoom cfg store locked.id other.publicId start end_ now =
        .error (.python .integrityError) := by
    intro other hother
    rw [reserveSpecificRoom_eligible hslot stored draft hother, untaken]
    rfl
  have fails : ∀ other ∈ store.activeRooms, ∃ e,
      reserveSpecificRoom cfg store locked.id other.publicId start end_ now = .error e := by
    intro other hmem
    by_cases hother : store.Eligible cfg locked.integrationClient slot other
    · exact ⟨_, refuses other hother⟩
    · obtain ⟨e, he, _⟩ := ineligible_skips now hslot askable stored draft hmem hother
      exact ⟨e, he⟩
  have stops : tryNextRoom (.python .integrityError) = false := rfl
  rw [allocateAnyRoom_eq]
  obtain ⟨other, hmem, e, he, ends, loop⟩ := FirstFit.tryEach_raises fails
    ⟨room, Store.mem_activeRooms.mpr ⟨heligible.stored, heligible.active⟩, _,
      refuses room heligible, stops⟩
  rw [loop, ← he]
  refine refuses other ?_
  by_contra ineligible
  obtain ⟨e', he', skipped⟩ := ineligible_skips now hslot askable stored draft hmem ineligible
  rw [he] at he'
  cases he'
  rw [ends] at skipped
  cases skipped

/-- Without an eligible room the loop runs out of rooms. -/
theorem allocateAnyRoom_crowded
    (none_eligible : ¬ ∃ room, store.Eligible cfg locked.integrationClient slot room) :
    allocateAnyRoom cfg store locked.id start end_ now = .error (.gateway noCapacity) := by
  cases allocated : allocateAnyRoom cfg store locked.id start end_ now with
  | ok row =>
    obtain ⟨room, heligible, _⟩ := allocateAnyRoom_least hslot stored draft allocated
    exact absurd ⟨room, heligible⟩ none_eligible
  | error e =>
    rw [allocateAnyRoom_eq] at allocated
    refine congrArg Except.error (FirstFit.tryEach_error ?_ allocated)
    intro room hmem err herr
    obtain ⟨e', he', skipped⟩ := ineligible_skips now hslot askable stored draft hmem
      fun h => none_eligible ⟨room, h⟩
    rw [herr] at he'
    cases he'
    exact skipped

/-- The allocator's answers for a draft, if the database is not asked about a slot it refuses: it
reserves an eligible room, the database does not take the reservation of one, or there is none. -/
theorem allocateAnyRoom_cases :
    (∃ room, store.Eligible cfg locked.integrationClient slot room ∧
        reservable cfg start end_ = true ∧
        allocateAnyRoom cfg store locked.id start end_ now =
          .ok (locked.reserve room.id start end_ slot now)) ∨
      ((∃ room, store.Eligible cfg locked.integrationClient slot room) ∧
        reservable cfg start end_ = false ∧
        allocateAnyRoom cfg store locked.id start end_ now = .error (.python .integrityError)) ∨
      ((¬ ∃ room, store.Eligible cfg locked.integrationClient slot room) ∧
        allocateAnyRoom cfg store locked.id start end_ now = .error (.gateway noCapacity)) := by
  by_cases eligible : ∃ room, store.Eligible cfg locked.integrationClient slot room
  · cases hreservable : reservable cfg start end_ with
    | true =>
      obtain ⟨row, hrow⟩ : ∃ row, allocateAnyRoom cfg store locked.id start end_ now = .ok row :=
        (allocateAnyRoom_succeeds_iff hslot stored draft).mpr ⟨eligible, hreservable⟩
      obtain ⟨room, heligible, rfl, _⟩ := allocateAnyRoom_least hslot stored draft hrow
      exact Or.inl ⟨room, heligible, rfl, hrow⟩
    | false =>
      exact Or.inr (Or.inl ⟨eligible, rfl,
        allocateAnyRoom_not_taken now hslot askable stored draft eligible hreservable⟩)
  · exact Or.inr (Or.inr ⟨eligible,
      allocateAnyRoom_crowded now hslot askable stored draft eligible⟩)

end Askable

end Agreement

/-- On the same state the snapshot says "available" exactly if the allocator reserves a room for
a draft of that client, and the room it reserves is the first eligible one. -/
def AvailabilityAgrees (cfg : Settings) (store : Store) (locked : Meeting) (start end_ : Datetime)
    (now : Int) : Prop :=
  ((∃ a, availability cfg store locked.integrationClient start end_ = .ok a ∧
      a.available = true) ↔
    ∃ row, allocateAnyRoom cfg store locked.id start end_ now = .ok row) ∧
  ∀ row, allocateAnyRoom cfg store locked.id start end_ now = .ok row →
    ∃ room slot, interval cfg start end_ = .ok slot ∧ row.room = some room.id ∧
      store.Eligible cfg locked.integrationClient slot room ∧
      ∀ other, store.Eligible cfg locked.integrationClient slot other → room.before other

/-- They agree exactly if the interval is reservable or no room is eligible for it. -/
theorem availability_agrees_with_allocation_iff (cfg : Settings) (store : Store)
    (locked : Meeting) (start end_ : Datetime) (now : Int)
    (stored : store.meeting? locked.id = some locked) (draft : locked.status = .draft)
    (aware : start.isNaive = false ∧ end_.isNaive = false) (ordered : start.lt end_ = true)
    (fits : Datetime.representable (start.wall - cfg.before) = true ∧
      Datetime.representable (end_.wall + cfg.after) = true) :
    AvailabilityAgrees cfg store locked start end_ now ↔
      reservable cfg start end_ = true ∨ ∀ slot, interval cfg start end_ = .ok slot →
        ¬ ∃ room, store.Eligible cfg locked.integrationClient slot room := by
  obtain ⟨slot, hslot⟩ := interval_of_representable aware ordered fits
  have least : ∀ row, allocateAnyRoom cfg store locked.id start end_ now = .ok row →
      ∃ room slot, interval cfg start end_ = .ok slot ∧ row.room = some room.id ∧
        store.Eligible cfg locked.integrationClient slot room ∧
        ∀ other, store.Eligible cfg locked.integrationClient slot other → room.before other := by
    intro row hrow
    obtain ⟨room, eligible, rfl, least⟩ := allocateAnyRoom_least hslot stored draft hrow
    exact ⟨room, _, hslot, rfl, eligible, least⟩
  have only : (∀ slot, interval cfg start end_ = .ok slot →
      ¬ ∃ room, store.Eligible cfg locked.integrationClient slot room) ↔
        ¬ ∃ room, store.Eligible cfg locked.integrationClient slot room := by
    simp [hslot]
  rw [AvailabilityAgrees, and_iff_left least, availability_iff_eligible hslot,
    allocateAnyRoom_succeeds_iff hslot stored draft, only]
  by_cases eligible : ∃ room, store.Eligible cfg locked.integrationClient slot room
  · simp [eligible]
  · simp [eligible]

/-- A small installation with buffers of ten and five minutes. -/
def exampleSettings : Settings where
  keyring := ⟨"v1", 1, fun _ => none⟩
  roomBufferBeforeMinutes := 10
  roomBufferAfterMinutes := 5
  defaultProviderMeetingType := "instant"
  convayTrustedHostSuffixes := ["convay.com"]
  timeZone := asiaDhaka
  urlsplit := fun url =>
    if url = "https://meet.convay.com/start" then
      .ok ⟨"https", "meet.convay.com", some "meet.convay.com", none, none⟩
    else .error .valueError
  jsonLoads := fun _ => .error .valueError
  surrogate := fun c => decide (0xf0000 ≤ c.toNat)
  ascii := by
    intro c hc
    exact decide_eq_false (by omega)

def exampleRoom : Room where
  id := 1
  publicId := "room-a"
  username := "host-a"
  encryptedPassword := (encrypt exampleSettings "secret").toOption
  isActive := true
  priority := 100
  maxConcurrentBookings := 1
  providerActiveMeetingLimit := some 1
  defaultMeetingConfig := .obj []

def exampleStore : Store where
  meetings := KeyedTable.empty
  rooms := ⟨[exampleRoom], by decide⟩
  publicIds := by decide
  systemPreset := none
  clientPreset := fun _ => none

def exampleTime (hour : Int) : Datetime :=
  ⟨739882 * dayMicroseconds + hour * 60 * minuteMicroseconds, false, some (.zone asiaDhaka)⟩

theorem exampleTime_before (hour : Int) :
    (exampleTime hour).lt (exampleTime (hour + 1)) = true := by
  simp [Datetime.lt, exampleTime, minuteMicroseconds]

/-- A request for one hour of that day. -/
def exampleValues (classId : String) (hour : Int) : CreateValues where
  meetingTitle := "Physics"
  teacher := ⟨"T-001", "Teacher"⟩
  batch := ⟨"B-001", "Batch"⟩
  classInfo := ⟨classId, 739882⟩
  startAt := exampleTime hour
  endAt := exampleTime (hour + 1)
  aware := ⟨rfl, rfl⟩
  ordered := exampleTime_before hour

def exampleDraft : Meeting := (exampleValues "CLS-001" 10).draft 1 7 0

def exampleDrafts : Store := { exampleStore with meetings := ⟨[exampleDraft], by decide⟩ }

/-- The room is free at ten, so the snapshot and the allocator both say so. -/
theorem availability_agrees_at_ten :
    AvailabilityAgrees exampleSettings exampleDrafts exampleDraft (exampleTime 10)
      (exampleTime 11) 0 :=
  (availability_agrees_with_allocation_iff exampleSettings exampleDrafts exampleDraft
    (exampleTime 10) (exampleTime 11) 0 rfl rfl (by decide) (by decide) (by decide)).mpr
    (Or.inl (by decide))

/-- A Unix time as the service reads it. -/
def exampleLocal (unix : Int) : Datetime :=
  .inZone asiaDhaka ((719162 * 86400 + unix) * 1000000)

/-- 2009-12-31T17:10Z to 17:30Z lies in an hour that came twice. The arithmetic of the buffers
drops `fold`, so the slot ends before the meeting starts: it is offered, and the reservation of
the room that was offered breaks a CHECK constraint. -/
theorem repeated_hour_offered :
    availability exampleSettings exampleDrafts 7 (exampleLocal 1262279400)
        (exampleLocal 1262280600) = .ok ⟨(exampleLocal 1262279400).instant,
          (exampleLocal 1262280600).instant, true⟩ ∧
      allocateAnyRoom exampleSettings exampleDrafts 1 (exampleLocal 1262279400)
        (exampleLocal 1262280600) 0 = .error (.python .integrityError) ∧
      ¬ AvailabilityAgrees exampleSettings exampleDrafts exampleDraft (exampleLocal 1262279400)
        (exampleLocal 1262280600) 0 := by
  have offered : availability exampleSettings exampleDrafts 7 (exampleLocal 1262279400)
      (exampleLocal 1262280600) = .ok ⟨(exampleLocal 1262279400).instant,
        (exampleLocal 1262280600).instant, true⟩ := by
    rfl
  have refused : allocateAnyRoom exampleSettings exampleDrafts 1 (exampleLocal 1262279400)
      (exampleLocal 1262280600) 0 = .error (.python .integrityError) := by
    rfl
  refine ⟨offered, refused, ?_⟩
  rintro ⟨agree, _⟩
  obtain ⟨row, hrow⟩ := agree.mp ⟨_, offered, rfl⟩
  rw [show exampleDraft.id = 1 from rfl, refused] at hrow
  cases hrow

end MeetingGateway
