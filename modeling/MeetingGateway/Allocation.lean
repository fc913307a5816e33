import MeetingGateway.Models
import MeetingGateway.Library.FirstFit
import Mathlib.Data.List.Sort
import Mathlib.Data.String.Basic

/-!
# Room allocation

`apps/rooms/services.py`: the buffered interval, local eligibility, the capacity check,
the reservation of one room, the allocator's loop over the active rooms and the
availability snapshot. The store argument is what the running transaction sees.
-/

namespace MeetingGateway

def interval (cfg : Settings) (start end_ : Datetime) :
    Except GatewayError (BoundedRange Int) :=
  if start.isNaive || end_.isNaive || !start.lt end_ then
    .error ⟨.invalidInterval, "Provide timezone-aware start and end with end after start.", 400⟩
  else
    match start.add (-cfg.before), end_.add cfg.after with
    | .ok lower, .ok upper => .ok (BoundedRange.halfOpen lower.instant upper.instant)
    | _, _ => .error ⟨.invalidInterval, "Interval exceeds supported date bounds.", 400⟩

/-- Local eligibility. `decrypt` and `resolveConfig` raise nothing the handler misses. -/
def configured (cfg : Settings) (store : Store) (room : Room) (client : ClientId) : Bool :=
  if !room.isActive || decide (room.maxConcurrentBookings ≠ 1) || strip room.username = "" then
    false
  else
    match room.encryptedPassword.map (decrypt cfg.keyring) with
    | some (.ok password) =>
      if password = "" then false
      else
        match resolveConfig cfg store.systemPreset (store.clientPreset client)
            room.defaultMeetingConfig with
        | .ok config =>
          match config.get? "meetingType" with
          | some (.str type) => type = "instant"
          | _ => false
        | .error _ => false
    | _ => false

def Status.countsTowardLimit : Status → Bool
  | .reserved | .provisioning | .ready | .live | .providerResponseInvalid
  | .providerStateUnknown => true
  | _ => false

/-- The row is counted against its room's provider limit. -/
def Meeting.counted (room : RoomId) (m : Meeting) : Bool :=
  decide (m.room = some room) && m.status.countsTowardLimit

/-- PostgreSQL refuses a range that ends before it starts as soon as it is asked about one. -/
def capacityError (store : Store) (room : Room) (slot : BoundedRange Int) :
    Except PyError (Option ErrorCode) :=
  if slot.reversed then .error .dataError
  else if store.meetings.rows.any fun m => m.blocks room.id slot then .ok (some .roomSlotConflict)
  else
    match room.providerActiveMeetingLimit with
    | some limit =>
      if limit ≤ store.meetings.rows.countP (Meeting.counted room.id) then
        .ok (some .providerCapacity)
      else .ok none
    | none => .ok none

/-- The writes of `reserve_specific_room` to the locked row. -/
def Meeting.reserve (locked : Meeting) (room : RoomId) (start end_ : Datetime)
    (slot : BoundedRange Int) (now : Int) : Meeting :=
  { locked with
    room := some room
    startAt := some start.instant
    endAt := some end_.instant
    reservation := some slot
    reservationActive := true
    status := .reserved
    updatedAt := now }

/-- `Room.objects.filter(public_id=..., is_active=True).first()`. -/
def Store.activeRoom? (s : Store) (publicId : String) : Option Room :=
  s.rooms.rows.find? fun r => decide (r.publicId = publicId) && r.isActive

/-- The row `reserve_specific_room` is about to save. -/
def reservedRow (cfg : Settings) (store : Store) (pk : MeetingId) (publicId : String)
    (start end_ : Datetime) (now : Int) : Except Raised Meeting :=
  match interval cfg start end_ with
  | .error e => .error (.gateway e)
  | .ok slot =>
    match store.meeting? pk with
    | none => .error (.python .doesNotExist)
    | some locked =>
      if locked.status ≠ .draft then
        .error (.gateway ⟨.invalidState, "Meeting is already reserved or finalized.", 409⟩)
      else
        match store.activeRoom? publicId with
        | none => .error (.gateway ⟨.roomUnavailable, "Room does not exist or is inactive.", 409⟩)
        | some room =>
          if !configured cfg store room locked.integrationClient then
            .error (.gateway ⟨.roomUnavailable, "Room does not exist or is inactive.", 409⟩)
          else
            match capacityError store room slot with
            | .error e => .error (.python e)
            | .ok (some conflict) =>
              .error (.gateway ⟨conflict, "Internal capacity is unavailable.", 409⟩)
            | .ok none => .ok (locked.reserve room.id start end_ slot now)

/-- `IntegrityError` with SQLSTATE 23P01 is the exclusion constraint. -/
def saveReserved (store : Store) (row : Meeting) : Except Raised Meeting :=
  match store.save row with
  | .ok _ => .ok row
  | .error .exclusion => .error (.gateway
      ⟨.roomSlotConflict, "The selected room is no longer available for this time.", 409⟩)
  | .error .check => .error (.python .integrityError)

def reserveSpecificRoom (cfg : Settings) (store : Store) (pk : MeetingId) (publicId : String)
    (start end_ : Datetime) (now : Int) : Except Raised Meeting :=
  match reservedRow cfg store pk publicId start end_ now with
  | .ok row => saveReserved store row
  | .error e => .error e

/-- `ORDER BY priority, public_id`. -/
def Room.before (r s : Room) : Prop :=
  r.priority < s.priority ∨ (r.priority = s.priority ∧ r.publicId ≤ s.publicId)

instance : DecidableRel Room.before := fun r s => by
  unfold Room.before
  exact inferInstance

def Store.activeRooms (s : Store) : List Room :=
  (s.rooms.rows.filter Room.isActive).insertionSort Room.before

/-- The errors after which the allocator goes on to the next room. -/
def tryNextRoom : Raised → Bool
  | .gateway e => e.code = .roomSlotConflict || e.code = .roomUnavailable ||
      e.code = .providerCapacity
  | _ => false

def noCapacity : GatewayError :=
  ⟨.noCapacityAvailable, "No meeting capacity is available for the requested time.", 409⟩

def allocateAnyRoom (cfg : Settings) (store : Store) (pk : MeetingId) (start end_ : Datetime)
    (now : Int) : Except Raised Meeting :=
  FirstFit.tryEach (fun publicId => reserveSpecificRoom cfg store pk publicId start end_ now)
    tryNextRoom (.gateway noCapacity) (store.activeRooms.map Room.publicId)

/-- The snapshot answer: the requested instants and whether some room could take them. -/
structure Availability where
  startAt : Int
  endAt : Int
  available : Bool
  deriving DecidableEq

/-- `any(configured(room, client) and capacity_error(room, slot) is None for room in ...)`. -/
def anyAvailable (cfg : Settings) (store : Store) (client : ClientId) (slot : BoundedRange Int) :
    List Room → Except PyError Bool
  | [] => .ok false
  | room :: rest =>
    if configured cfg store room client then
      match capacityError store room slot with
      | .error e => .error e
      | .ok none => .ok true
      | .ok (some _) => anyAvailable cfg store client slot rest
    else anyAvailable cfg store client slot rest

def availability (cfg : Settings) (store : Store) (client : ClientId) (start end_ : Datetime) :
    Except Raised Availability :=
  match interval cfg start end_ with
  | .error e => .error (.gateway e)
  | .ok slot =>
    match anyAvailable cfg store client slot store.activeRooms with
    | .error e => .error (.python e)
    | .ok available => .ok ⟨start.instant, end_.instant, available⟩

/-- The interval is stored in order and the bounds of its slot lie around it, as the CHECK
constraints ask of a reservation. -/
def reservable (cfg : Settings) (start end_ : Datetime) : Bool :=
  match start.add (-cfg.before), end_.add cfg.after with
  | .ok lower, .ok upper => decide (start.instant < end_.instant) &&
      decide (lower.instant ≤ start.instant) && decide (end_.instant ≤ upper.instant)
  | _, _ => false

/-- The slot has all of both buffers: the offset is no smaller where it starts than at the start
and no larger where it ends than at the end. -/
def buffered (cfg : Settings) (start end_ : Datetime) : Bool :=
  match start.add (-cfg.before), end_.add cfg.after with
  | .ok lower, .ok upper =>
    decide (start.utcoffset ≤ lower.utcoffset) && decide (upper.utcoffset ≤ end_.utcoffset)
  | _, _ => false

theorem interval_ok {cfg : Settings} {start end_ : Datetime} {slot : BoundedRange Int}
    (h : interval cfg start end_ = .ok slot) :
    start.lt end_ = true ∧ ∃ lower upper, start.add (-cfg.before) = .ok lower ∧
      end_.add cfg.after = .ok upper ∧
      slot = BoundedRange.halfOpen lower.instant upper.instant := by
  unfold interval at h
  split at h
  · cases h
  · rename_i hvalid
    split at h
    · rename_i lower upper hlower hupper
      cases h
      refine ⟨?_, lower, upper, hlower, hupper, rfl⟩
      by_contra hc
      exact hvalid (by simp [hc])
    · cases h

/-- An interval whose buffered bounds are representable is accepted. -/
theorem interval_of_representable {cfg : Settings} {start end_ : Datetime}
    (aware : start.isNaive = false ∧ end_.isNaive = false) (ordered : start.lt end_ = true)
    (fits : Datetime.representable (start.wall - cfg.before) = true ∧
      Datetime.representable (end_.wall + cfg.after) = true) :
    ∃ slot, interval cfg start end_ = .ok slot := by
  have hs : start.add (-cfg.before) = .ok ⟨start.wall - cfg.before, false, start.tzinfo⟩ := by
    have hneg : start.wall + -cfg.before = start.wall - cfg.before := by omega
    simp only [Datetime.add, hneg, fits.1, if_true]
  have he : end_.add cfg.after = .ok ⟨end_.wall + cfg.after, false, end_.tzinfo⟩ := by
    simp [Datetime.add, fits.2]
  simp only [interval, aware.1, aware.2, ordered, hs, he]
  exact ⟨_, rfl⟩

/-- A reservable interval has a slot about it. -/
theorem reservable_ok {cfg : Settings} {start end_ : Datetime} {slot : BoundedRange Int}
    (hslot : interval cfg start end_ = .ok slot) (h : reservable cfg start end_ = true) :
    ∃ lower upper, slot = BoundedRange.halfOpen lower upper ∧ lower ≤ start.instant ∧
      start.instant < end_.instant ∧ end_.instant ≤ upper := by
  obtain ⟨_, lower, upper, hlower, hupper, rfl⟩ := interval_ok hslot
  simp only [reservable, hlower, hupper, Bool.and_eq_true, decide_eq_true_eq] at h
  exact ⟨_, _, rfl, h.1.2, h.1.1, h.2⟩

/-- A reservable interval with both buffers keeps them as stretches of instants. -/
theorem buffered_ok {cfg : Settings} {start end_ : Datetime} {lower upper : Int}
    (hslot : interval cfg start end_ = .ok (BoundedRange.halfOpen lower upper))
    (h : buffered cfg start end_ = true) :
    lower ≤ start.instant - cfg.before ∧ end_.instant + cfg.after ≤ upper := by
  obtain ⟨_, lower', upper', hlower, hupper, heq⟩ := interval_ok hslot
  simp only [buffered, hlower, hupper, Bool.and_eq_true, decide_eq_true_eq] at h
  obtain ⟨rfl, rfl⟩ : lower = lower'.instant ∧ upper = upper'.instant := by
    simpa [BoundedRange.halfOpen] using heq
  obtain ⟨rfl, rfl⟩ := And.intro (Datetime.add_ok hlower) (Datetime.add_ok hupper)
  simp only [Datetime.instant] at h ⊢
  omega

/-- The room is free for the slot: no active reservation of it overlaps. -/
def Store.FreeFor (s : Store) (room : RoomId) (slot : BoundedRange Int) : Prop :=
  ∀ m ∈ s.meetings.rows, m.blocks room slot = false

/-- The room is below its provider cap, if it has one. -/
def Store.BelowLimit (s : Store) (room : Room) : Prop :=
  ∀ limit, room.providerActiveMeetingLimit = some limit →
    s.meetings.rows.countP (Meeting.counted room.id) < limit

/-- The capacity check raises an exception of its own only for a slot in the wrong order. -/
theorem capacityError_reversed {store : Store} {room : Room} {slot : BoundedRange Int} :
    (∃ e, capacityError store room slot = .error e) ↔ slot.reversed = true := by
  unfold capacityError
  cases slot.reversed with
  | true => simp
  | false =>
    simp only [Bool.false_eq_true, if_false, iff_false, not_exists]
    intro e h
    split at h
    · cases h
    · split at h
      · split at h <;> cases h
      · cases h

theorem capacityError_proper (store : Store) (room : Room) {slot : BoundedRange Int}
    (proper : slot.reversed = false) :
    ∃ conflict, capacityError store room slot = .ok conflict := by
  cases hcap : capacityError store room slot with
  | ok conflict => exact ⟨conflict, rfl⟩
  | error e =>
    have reversed := capacityError_reversed.mp ⟨e, hcap⟩
    rw [proper] at reversed
    cases reversed

theorem capacityError_eq_none {store : Store} {room : Room} {slot : BoundedRange Int} :
    capacityError store room slot = .ok none ↔
      slot.reversed = false ∧ store.FreeFor room.id slot ∧ store.BelowLimit room := by
  unfold capacityError Store.FreeFor Store.BelowLimit
  cases slot.reversed with
  | true => simp
  | false =>
    simp only [Bool.false_eq_true, if_false, true_and]
    by_cases hb : (store.meetings.rows.any fun m => m.blocks room.id slot) = true
    · rw [if_pos hb]
      obtain ⟨m, hm, hblock⟩ := List.any_eq_true.mp hb
      constructor
      · intro h
        cases h
      · rintro ⟨free, _⟩
        rw [free m hm] at hblock
        cases hblock
    · rw [if_neg hb]
      have free : ∀ m ∈ store.meetings.rows, m.blocks room.id slot = false := by
        intro m hm
        by_contra hne
        exact hb (List.any_eq_true.mpr ⟨m, hm, by simpa using hne⟩)
      cases hl : room.providerActiveMeetingLimit with
      | none => simpa using free
      | some limit =>
        by_cases hle : limit ≤ store.meetings.rows.countP (Meeting.counted room.id)
        · simp [hle]
        · simp only [if_neg hle, true_iff, Option.some.injEq, forall_eq']
          exact ⟨free, not_le.mp hle⟩

theorem capacityError_skips {store : Store} {room : Room} {slot : BoundedRange Int}
    {code : ErrorCode} (h : capacityError store room slot = .ok (some code)) :
    code = .roomSlotConflict ∨ code = .providerCapacity := by
  unfold capacityError at h
  split at h
  · cases h
  · split at h
    · cases h
      exact Or.inl rfl
    · split at h
      · split at h
        · cases h
          exact Or.inr rfl
        · cases h
      · cases h

/-- The CHECK constraints take a reservation of the interval's own slot exactly if the
interval is reservable. -/
theorem reserve_checks {cfg : Settings} {m : Meeting} {room : RoomId} {start end_ : Datetime}
    {slot : BoundedRange Int} {now : Int} (h : interval cfg start end_ = .ok slot) :
    (m.reserve room start end_ slot now).checks = reservable cfg start end_ := by
  obtain ⟨_, lower, upper, hlower, hupper, rfl⟩ := interval_ok h
  have wide : start.instant < end_.instant → lower.instant ≤ start.instant →
      end_.instant ≤ upper.instant → lower.instant < upper.instant := by
    intro ordered before after
    omega
  simp only [reservable, hlower, hupper, Meeting.checks, Meeting.activeReservationComplete,
    Meeting.positiveMeetingInterval, Meeting.reservationRangeValid, Meeting.reserve]
  by_cases ordered : start.instant < end_.instant
  · by_cases before : lower.instant ≤ start.instant
    · by_cases after : end_.instant ≤ upper.instant
      · have hne := BoundedRange.isEmpty_halfOpen.mpr (wide ordered before after)
        simp only [hne]
        simp [BoundedRange.halfOpen, ordered, before, after]
      · simp [BoundedRange.halfOpen, after]
    · simp [BoundedRange.halfOpen, before]
  · simp [ordered]

/-- A row that reserves a free slot is not refused by the exclusion constraint. -/
theorem not_excluded_of_free {store : Store} {m : Meeting} {room : RoomId}
    {start end_ : Datetime} {slot : BoundedRange Int} {now : Int}
    (free : store.FreeFor room slot) :
    store.excluded (m.reserve room start end_ slot now) = false := by
  rw [Store.excluded_eq_false]
  intro other hmem _
  simpa [Meeting.excludes, Meeting.reserve] using free other hmem

theorem reservedRow_ok {cfg : Settings} {store : Store} {pk : MeetingId} {publicId : String}
    {start end_ : Datetime} {now : Int} {row : Meeting}
    (h : reservedRow cfg store pk publicId start end_ now = .ok row) :
    ∃ slot locked room, interval cfg start end_ = .ok slot ∧ store.meeting? pk = some locked ∧
      locked.status = .draft ∧ store.activeRoom? publicId = some room ∧
      configured cfg store room locked.integrationClient = true ∧
      capacityError store room slot = .ok none ∧
      row = locked.reserve room.id start end_ slot now := by
  unfold reservedRow at h
  split at h
  · cases h
  · rename_i slot hslot
    split at h
    · cases h
    · rename_i locked hlocked
      split at h
      · cases h
      · rename_i hdraft
        split at h
        · cases h
        · rename_i room hroom
          split at h
          · cases h
          · rename_i hconf
            split at h
            · cases h
            · cases h
            · rename_i hcap
              cases h
              exact ⟨slot, locked, room, hslot, hlocked, by simpa using hdraft, hroom,
                by simpa using hconf, hcap, rfl⟩

/-- The exclusion constraint never refuses a row that passed the capacity check; the CHECK
constraints do unless the interval is reservable. -/
theorem saveReserved_of_reservedRow {cfg : Settings} {store : Store} {pk : MeetingId}
    {publicId : String} {start end_ : Datetime} {now : Int} {row : Meeting}
    (h : reservedRow cfg store pk publicId start end_ now = .ok row) :
    saveReserved store row =
      if reservable cfg start end_ then .ok row else .error (.python .integrityError) := by
  obtain ⟨slot, locked, room, hslot, _, _, _, _, hcap, rfl⟩ := reservedRow_ok h
  have free := (capacityError_eq_none.mp hcap).2.1
  have hchecks : (locked.reserve room.id start end_ slot now).checks = reservable cfg start end_ :=
    reserve_checks hslot
  cases hreservable : reservable cfg start end_ with
  | true =>
    rw [hreservable] at hchecks
    simp [saveReserved, Store.save_of_not_excluded hchecks (not_excluded_of_free free)]
  | false =>
    rw [hreservable] at hchecks
    simp [saveReserved, Store.save, hchecks]

/-- What `reserve_specific_room` returns is a reservation of an active room in which the slot
is free, for a reservable interval. -/
theorem reserveSpecificRoom_ok {cfg : Settings} {store : Store} {pk : MeetingId}
    {publicId : String} {start end_ : Datetime} {now : Int} {row : Meeting}
    (h : reserveSpecificRoom cfg store pk publicId start end_ now = .ok row) :
    reservedRow cfg store pk publicId start end_ now = .ok row ∧
      reservable cfg start end_ = true ∧ store.save row = .ok (store.putMeeting row) := by
  unfold reserveSpecificRoom at h
  split at h
  · rename_i row' hrow
    obtain ⟨slot, locked, room, hslot, _, _, _, _, hcap, hreserve⟩ := reservedRow_ok hrow
    have free := (capacityError_eq_none.mp hcap).2.1
    rw [saveReserved_of_reservedRow hrow] at h
    split at h
    · rename_i hreservable
      cases h
      refine ⟨hrow, hreservable, ?_⟩
      rw [hreserve]
      exact Store.save_of_not_excluded ((reserve_checks hslot).trans hreservable)
        (not_excluded_of_free free)
    · cases h
  · cases h

theorem activeRoom?_mem {store : Store} {publicId : String} {room : Room}
    (h : store.activeRoom? publicId = some room) :
    room ∈ store.rooms.rows ∧ room.publicId = publicId ∧ room.isActive = true := by
  have hp := List.find?_some h
  simp only [Bool.and_eq_true, decide_eq_true_eq] at hp
  exact ⟨List.mem_of_find?_eq_some h, hp.1, hp.2⟩

/-- Public ids are unique, so an active room is the one its public id finds. -/
theorem activeRoom?_publicId {store : Store} {room : Room} (hmem : room ∈ store.rooms.rows)
    (active : room.isActive = true) : store.activeRoom? room.publicId = some room := by
  cases found : store.activeRoom? room.publicId with
  | none =>
    have hne := List.find?_eq_none.mp found room hmem
    simp [active] at hne
  | some other =>
    obtain ⟨hother, hid, _⟩ := activeRoom?_mem found
    rw [List.inj_on_of_nodup_map store.publicIds hother hmem hid]

end MeetingGateway
