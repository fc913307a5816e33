import MeetingGateway.Availability
import MeetingGateway.Library.FirstFitRace
import MeetingGateway.Library.LabelledRuns

/-!
# Requests that allocate at the same time

`allocate_any_room` for several drafts, attempt by attempt: every request walks the list of
active rooms on its own, and an attempt on one room runs alone under that room's lock. The
requests race by first fit: a room that everybody may use goes to exactly one of them, and a
request is turned away only after all such rooms are taken.
-/

namespace MeetingGateway

open LabelledRuns FirstFitRace

/-- Where the loop of one request stands; `reserved` and `failed` are its outcomes. -/
inductive Loop where
  | trying (untried : List String)
  | reserved (row : Meeting)
  | failed (e : Raised)

def Loop.ended : Loop → Bool
  | .trying _ => false
  | _ => true

def Loop.succeeded : Loop → Bool
  | .reserved _ => true
  | _ => false

structure Race where
  store : Store
  loops : MeetingId → Loop

namespace Race

/-- No step changes the rooms, so every request reads the same list of them. -/
def initial (store : Store) : Race :=
  ⟨store, fun _ => .trying (store.activeRooms.map Room.publicId)⟩

def advance (race : Race) (pk : MeetingId) (store : Store) (loop : Loop) : Race :=
  ⟨store, Function.update race.loops pk loop⟩

section Advance
variable {race : Race} {pk other : MeetingId} {store : Store} {loop : Loop}

@[simp] theorem advance_store : (race.advance pk store loop).store = store := rfl

@[simp] theorem advance_self : (race.advance pk store loop).loops pk = loop :=
  Function.update_self ..

theorem advance_of_ne (h : other ≠ pk) :
    (race.advance pk store loop).loops other = race.loops other :=
  Function.update_of_ne h ..

end Advance

/-- The request for the meeting makes its next attempt or gives up. -/
def step (cfg : Settings) (start end_ : Datetime) (requesters : Finset MeetingId) (race : Race)
    (attempt : MeetingId × Int) : Option Race :=
  if attempt.1 ∈ requesters then
    match race.loops attempt.1 with
    | .trying [] => some (race.advance attempt.1 race.store (.failed (.gateway noCapacity)))
    | .trying (publicId :: rest) =>
      match reserveSpecificRoom cfg race.store attempt.1 publicId start end_ attempt.2 with
      | .ok row => some (race.advance attempt.1 (race.store.putMeeting row) (.reserved row))
      | .error e => some (race.advance attempt.1 race.store
          (if tryNextRoom e then .trying rest else .failed e))
    | _ => none
  else none

end Race

/-- Drafts that ask for one slot, and the rooms of `fit` are those any of them could have:
active, configured, free and below their caps for each request, while every other room
fails one of these tests for each request. -/
structure Contest (cfg : Settings) (store : Store) (start end_ : Datetime)
    (slot : BoundedRange Int) (requesters : Finset MeetingId) (fit : Finset RoomId) : Prop where
  interval : interval cfg start end_ = .ok slot
  drafts : ∀ pk ∈ requesters, ∃ m, store.meeting? pk = some m ∧ m.status = .draft
  rooms : ∀ id ∈ fit, ∃ room ∈ store.rooms.rows, room.id = id ∧ room.isActive = true
  eligible : ∀ pk ∈ requesters, ∀ m, store.meeting? pk = some m → ∀ room ∈ store.rooms.rows,
    (store.Eligible cfg m.integrationClient slot room ↔ room.id ∈ fit)

/-- The database takes the reservation, or no requester gets as far as asking it to: the rooms
configured for it are not free or at their caps, and the slot does not end before it starts. -/
def Takeable (cfg : Settings) (store : Store) (start end_ : Datetime) (slot : BoundedRange Int)
    (requesters : Finset MeetingId) : Prop :=
  reservable cfg start end_ = true ∨ ∀ pk ∈ requesters, ∀ m, store.meeting? pk = some m →
    ∀ room ∈ store.rooms.rows, room.isActive = true →
      configured cfg store room m.integrationClient = true →
        slot.reversed = false ∧ ¬ (store.FreeFor room.id slot ∧ store.BelowLimit room)

/-- No reservation of the store at the start has been released. -/
def Kept (store : Store) (race : Race) : Prop :=
  ∀ m ∈ store.meetings.rows, m.reservationActive = true → race.store.meeting? m.id = some m

section Reservation
variable {cfg : Settings} {store : Store} {locked : Meeting} {room other : Room}
variable {start end_ : Datetime} {slot : BoundedRange Int} {now : Int} {client : ClientId}

theorem reserve_found (stored : store.meeting? locked.id = some locked) :
    (store.putMeeting (locked.reserve room.id start end_ slot now)).meeting? locked.id =
      some (locked.reserve room.id start end_ slot now) :=
  @Store.meeting?_putMeeting_self store (locked.reserve room.id start end_ slot now) locked stored

theorem reserve_elsewhere {pk : MeetingId} (hne : pk ≠ locked.id) :
    (store.putMeeting (locked.reserve room.id start end_ slot now)).meeting? pk =
      store.meeting? pk :=
  @Store.meeting?_putMeeting_of_ne store (locked.reserve room.id start end_ slot now) pk hne

theorem reserve_blocks_self (hslot : interval cfg start end_ = .ok slot)
    (hreservable : reservable cfg start end_ = true) :
    (locked.reserve room.id start end_ slot now).blocks room.id slot = true := by
  obtain ⟨lower, upper, rfl, hlower, ordered, hupper⟩ := reservable_ok hslot hreservable
  have hwide : lower < upper := by omega
  have hself := (BoundedRange.overlaps_halfOpen hwide hwide).mpr ⟨hwide, hwide⟩
  simp [Meeting.blocks, Meeting.reserve, hself]

/-- A reserved room is free for the slot no longer. -/
theorem reserve_takes (hslot : interval cfg start end_ = .ok slot)
    (hreservable : reservable cfg start end_ = true)
    (stored : store.meeting? locked.id = some locked) :
    ¬ (store.putMeeting (locked.reserve room.id start end_ slot now)).Eligible cfg client slot
      room := by
  intro eligible
  have found : (store.putMeeting (locked.reserve room.id start end_ slot now)).meetings.get?
      locked.id = some (locked.reserve room.id start end_ slot now) := reserve_found stored
  have free := eligible.free _ (KeyedTable.get?_eq_some.mp found).1
  rw [reserve_blocks_self hslot hreservable] at free
  cases free

/-- A draft without a reservation that reserves one room leaves all others as they were. -/
theorem reserve_others (stored : store.meeting? locked.id = some locked)
    (draft : locked.status = .draft) (inactive : locked.reservationActive = false)
    (hne : other.id ≠ room.id) :
    (store.putMeeting (locked.reserve room.id start end_ slot now)).Eligible cfg client slot
      other ↔ store.Eligible cfg client slot other := by
  have unblocking : locked.blocks other.id slot = false := by simp [Meeting.blocks, inactive]
  have uncounted : locked.counted other.id = false := by
    simp [Meeting.counted, draft, Status.countsTowardLimit]
  have elsewhere : (locked.reserve room.id start end_ slot now).blocks other.id slot = false := by
    simp [Meeting.blocks, Meeting.reserve, Ne.symm hne]
  have uncounted' : (locked.reserve room.id start end_ slot now).counted other.id = false := by
    simp [Meeting.counted, Meeting.reserve, Ne.symm hne]
  have free :
      (store.putMeeting (locked.reserve room.id start end_ slot now)).FreeFor other.id slot ↔
      store.FreeFor other.id slot := by
    constructor
    · intro free m hm
      by_cases hid : m.id = locked.id
      · have same := KeyedTable.get?_eq_some.mpr ⟨hm, hid⟩
        rw [show store.meetings.get? locked.id = some locked from stored] at same
        cases same
        exact unblocking
      · exact free m (KeyedTable.mem_put.mpr (Or.inl ⟨hm, hid⟩))
    · intro free m hm
      rcases KeyedTable.mem_put.mp hm with ⟨hm, _⟩ | ⟨rfl, _⟩
      · exact free m hm
      · exact elsewhere
  have count := @KeyedTable.countP_put _ _ _ _ store.meetings (Meeting.counted other.id)
    (locked.reserve room.id start end_ slot now) locked stored
  rw [uncounted, uncounted'] at count
  have below : (store.putMeeting (locked.reserve room.id start end_ slot now)).BelowLimit other ↔
      store.BelowLimit other := by
    simp only [Bool.false_eq_true, if_false, Nat.add_zero] at count
    simp only [Store.BelowLimit, Store.putMeeting, count]
  constructor
  · rintro ⟨hmem, active, hconf, proper, hfree, hbelow⟩
    exact ⟨hmem, active, hconf, proper, free.mp hfree, below.mp hbelow⟩
  · rintro ⟨hmem, active, hconf, proper, hfree, hbelow⟩
    exact ⟨hmem, active, hconf, proper, free.mpr hfree, below.mpr hbelow⟩

end Reservation

section Untouched
variable {cfg : Settings} {store : Store} {start end_ : Datetime} {slot : BoundedRange Int}
variable {requesters : Finset MeetingId} {fit : Finset RoomId} {race race' : Race}

/-- A request that reserved nothing has not changed its row. -/
def Untouched (store : Store) (race : Race) : Prop :=
  ∀ pk, (race.loops pk).succeeded = false → race.store.meeting? pk = store.meeting? pk

/-- What one attempt does. -/
inductive Attempt (cfg : Settings) (start end_ : Datetime) (requesters : Finset MeetingId)
    (race : Race) (pk : MeetingId) (now : Int) : Race → Prop
  | gaveUp : pk ∈ requesters → race.loops pk = .trying [] →
      Attempt cfg start end_ requesters race pk now
        (race.advance pk race.store (.failed (.gateway noCapacity)))
  | reserved {publicId : String} {rest : List String} {row : Meeting} : pk ∈ requesters →
      race.loops pk = .trying (publicId :: rest) →
      reserveSpecificRoom cfg race.store pk publicId start end_ now = .ok row →
      Attempt cfg start end_ requesters race pk now
        (race.advance pk (race.store.putMeeting row) (.reserved row))
  | refused {publicId : String} {rest : List String} {e : Raised} : pk ∈ requesters →
      race.loops pk = .trying (publicId :: rest) →
      reserveSpecificRoom cfg race.store pk publicId start end_ now = .error e →
      Attempt cfg start end_ requesters race pk now
        (race.advance pk race.store (if tryNextRoom e then .trying rest else .failed e))

theorem step_attempt {pk : MeetingId} {now : Int}
    (h : Race.step cfg start end_ requesters race (pk, now) = some race') :
    Attempt cfg start end_ requesters race pk now race' := by
  simp only [Race.step] at h
  split at h
  · rename_i requester
    split at h
    · rename_i hloop
      cases h
      exact .gaveUp requester hloop
    · rename_i hloop
      split at h
      · rename_i hrow
        cases h
        exact .reserved requester hloop hrow
      · rename_i herror
        cases h
        exact .refused requester hloop herror
    · cases h
  · cases h

/-- The row of an attempt is the draft it found, with a room that was eligible for it. -/
theorem reserveSpecificRoom_row (hslot : interval cfg start end_ = .ok slot) {pk : MeetingId}
    {publicId : String} {now : Int} {row : Meeting}
    (h : reserveSpecificRoom cfg race.store pk publicId start end_ now = .ok row) :
    ∃ locked room, race.store.meeting? pk = some locked ∧ locked.status = .draft ∧
      race.store.activeRoom? publicId = some room ∧
      race.store.Eligible cfg locked.integrationClient slot room ∧
      reservable cfg start end_ = true ∧ row = locked.reserve room.id start end_ slot now := by
  obtain ⟨hrow, hreservable, _⟩ := reserveSpecificRoom_ok h
  obtain ⟨slot', locked, room, hslot', stored, draft, hroom, hconf, hcap, rfl⟩ :=
    reservedRow_ok hrow
  rw [hslot] at hslot'
  cases hslot'
  obtain ⟨hmem, _, active⟩ := activeRoom?_mem hroom
  obtain ⟨proper, free, below⟩ := capacityError_eq_none.mp hcap
  exact ⟨locked, room, stored, draft, hroom, ⟨hmem, active, hconf, proper, free, below⟩,
    hreservable, rfl⟩

/-- A request that goes on or fails leaves the store as it was. -/
theorem Untouched.advance {pk : MeetingId} {untried : List String} {loop : Loop}
    (same : Untouched store race) (hloop : race.loops pk = .trying untried) :
    Untouched store (race.advance pk race.store loop) := by
  intro other hother
  by_cases heq : other = pk
  · subst heq
    exact same other (by rw [hloop]; rfl)
  · rw [Race.advance_of_ne heq] at hother
    exact same other hother

theorem attempt_untouched (hslot : interval cfg start end_ = .ok slot) {pk : MeetingId} {now : Int}
    (h : Attempt cfg start end_ requesters race pk now race') (same : Untouched store race) :
    Untouched store race' := by
  cases h with
  | gaveUp _ hloop => exact same.advance hloop
  | refused _ hloop _ => exact same.advance hloop
  | reserved _ _ hrow =>
    obtain ⟨locked, room, stored, _, _, _, _, rfl⟩ := reserveSpecificRoom_row hslot hrow
    have hid : locked.id = pk := Store.meeting?_id stored
    intro other hother
    by_cases heq : other = pk
    · subst heq
      rw [Race.advance_self] at hother
      cases hother
    · rw [Race.advance_of_ne heq] at hother
      rw [Race.advance_store, reserve_elsewhere (hid ▸ heq)]
      exact same other hother

theorem activeReservation_kept (contest : Contest cfg store start end_ slot requesters fit)
    {pk : MeetingId} {row : Meeting} (requester : pk ∈ requesters)
    (written : row.status = .reserved)
    (found : race.store.meeting? pk = some row) (kept : Kept store race) {m : Meeting}
    (stored : store.meeting? pk = some m) : m.reservationActive = false := by
  by_contra active
  obtain ⟨m', hm', draft⟩ := contest.drafts pk requester
  rw [stored] at hm'
  cases hm'
  obtain ⟨hmem, hid⟩ := KeyedTable.get?_eq_some.mp stored
  have same := kept m hmem (by simpa using active)
  rw [hid, found] at same
  cases same
  rw [draft] at written
  cases written

/-- Reservations kept in the end were kept all along. -/
theorem kept_before (contest : Contest cfg store start end_ slot requesters fit) {pk : MeetingId}
    {now : Int} (h : Attempt cfg start end_ requesters race pk now race')
    (kept : Kept store race') : Kept store race := by
  cases h with
  | gaveUp _ _ => exact kept
  | refused _ _ _ => exact kept
  | reserved requester _ hrow =>
    obtain ⟨locked, room, stored, _, _, _, _, rfl⟩ :=
      reserveSpecificRoom_row contest.interval hrow
    have hid : locked.id = pk := Store.meeting?_id stored
    subst hid
    intro m hm active
    by_cases heq : m.id = locked.id
    · have inactive := activeReservation_kept contest requester rfl (reserve_found stored) kept
        (KeyedTable.get?_eq_some.mpr ⟨hm, heq⟩)
      rw [inactive] at active
      cases active
    · have same := kept m hm active
      rw [Race.advance_store, reserve_elsewhere heq] at same
      exact same

end Untouched

section Simulation
variable {cfg : Settings} {store : Store} {start end_ : Datetime} {slot : BoundedRange Int}
variable {requesters : Finset MeetingId} {fit : Finset RoomId} {race race' : Race}
variable {p : MeetingId → Progress RoomId}

/-- The loop stands where the seeker stands; a seeker knows the rooms by their keys. -/
inductive Follows (store : Store) : Loop → Progress RoomId → Prop
  | trying {rooms : List Room} :
      (∀ room ∈ rooms, room ∈ store.rooms.rows ∧ room.isActive = true) →
      Follows store (.trying (rooms.map Room.publicId)) (.seeking (rooms.map Room.id))
  | reserved {row : Meeting} {id : RoomId} : row.room = some id →
      Follows store (.reserved row) (.holds id)
  | failed : Follows store (.failed (.gateway noCapacity)) .exhausted

theorem Follows.nil {x : Progress RoomId} (h : Follows store (.trying []) x) :
    x = .seeking [] := by
  generalize hloop : Loop.trying [] = loop at h
  cases h with
  | @trying rooms _ =>
    cases rooms with
    | nil => rfl
    | cons room rest => cases hloop
  | reserved _ => cases hloop
  | failed => cases hloop

theorem Follows.cons {publicId : String} {rest : List String} {x : Progress RoomId}
    (h : Follows store (.trying (publicId :: rest)) x) :
    ∃ (room : Room) (rooms : List Room), room ∈ store.rooms.rows ∧ room.isActive = true ∧
      publicId = room.publicId ∧ x = .seeking (room.id :: rooms.map Room.id) ∧
      Follows store (.trying rest) (.seeking (rooms.map Room.id)) := by
  generalize hloop : Loop.trying (publicId :: rest) = loop at h
  cases h with
  | @trying rooms listed =>
    cases rooms with
    | nil => cases hloop
    | cons room rooms =>
      cases hloop
      obtain ⟨hmem, active⟩ := listed room List.mem_cons_self
      exact ⟨room, rooms, hmem, active, rfl, rfl,
        .trying fun r hr => listed r (List.mem_cons_of_mem room hr)⟩
  | reserved _ => cases hloop
  | failed => cases hloop

/-- The store is the one at the start but for what the holders took. -/
structure Tracks (cfg : Settings) (store : Store) (slot : BoundedRange Int) (race : Race)
    (p : MeetingId → Progress RoomId) : Prop where
  rooms : race.store.rooms = store.rooms
  presets : race.store.systemPreset = store.systemPreset ∧
    race.store.clientPreset = store.clientPreset
  loops : ∀ pk, Follows store (race.loops pk) (p pk)
  saved : ∀ pk row, race.loops pk = .reserved row → race.store.meeting? pk = some row
  eligible : ∀ client, ∀ room ∈ store.rooms.rows, (race.store.Eligible cfg client slot room ↔
    store.Eligible cfg client slot room ∧ ¬ Taken p room.id)

theorem tracks_initial : Tracks cfg store slot (Race.initial store)
    fun _ => .seeking (store.activeRooms.map Room.id) where
  rooms := rfl
  presets := ⟨rfl, rfl⟩
  loops := fun _ => .trying fun _ hmem => Store.mem_activeRooms.mp hmem
  saved := by
    intro pk row h
    cases h
  eligible := by
    intro client room _
    have none_taken : ¬ Taken (fun _ : MeetingId => Progress.seeking
        (store.activeRooms.map Room.id)) room.id := by
      rintro ⟨pk, hpk⟩
      cases hpk
    exact ⟨fun eligible => ⟨eligible, none_taken⟩, fun h => h.1⟩

/-- A loop that goes on or gives up follows its seeker. -/
theorem Tracks.leave {pk : MeetingId} {untried : List RoomId} {loop : Loop}
    {x : Progress RoomId} (tracks : Tracks cfg store slot race p)
    (seeking : p pk = .seeking untried) (holdsNothing : x.holding = false)
    (unsuccessful : loop.succeeded = false) (follows : Follows store loop x) :
    Tracks cfg store slot (race.advance pk race.store loop) (Function.update p pk x) where
  rooms := tracks.rooms
  presets := tracks.presets
  loops := by
    intro other
    by_cases heq : other = pk
    · subst heq
      rw [Race.advance_self, Function.update_self]
      exact follows
    · rw [Race.advance_of_ne heq, Function.update_of_ne heq]
      exact tracks.loops other
  saved := by
    intro other row hrow
    by_cases heq : other = pk
    · subst heq
      rw [Race.advance_self] at hrow
      subst hrow
      cases unsuccessful
    · rw [Race.advance_of_ne heq] at hrow
      exact tracks.saved other row hrow
  eligible := by
    intro client room hmem
    rw [taken_leave seeking holdsNothing]
    exact tracks.eligible client room hmem

/-- A loop that reserves a room follows a seeker that takes it. -/
theorem Tracks.take {locked : Meeting} {room : Room} {untried : List RoomId} {now : Int}
    (tracks : Tracks cfg store slot race p) (seeking : p locked.id = .seeking untried)
    (hslot : interval cfg start end_ = .ok slot) (hreservable : reservable cfg start end_ = true)
    (stored : race.store.meeting? locked.id = some locked) (draft : locked.status = .draft)
    (inactive : locked.reservationActive = false) (hroom : room ∈ store.rooms.rows) :
    Tracks cfg store slot
      (race.advance locked.id (race.store.putMeeting (locked.reserve room.id start end_ slot now))
        (.reserved (locked.reserve room.id start end_ slot now)))
      (Function.update p locked.id (.holds room.id)) where
  rooms := tracks.rooms
  presets := tracks.presets
  loops := by
    intro other
    by_cases heq : other = locked.id
    · subst heq
      rw [Race.advance_self, Function.update_self]
      exact .reserved rfl
    · rw [Race.advance_of_ne heq, Function.update_of_ne heq]
      exact tracks.loops other
  saved := by
    intro other row hrow
    by_cases heq : other = locked.id
    · subst heq
      rw [Race.advance_self] at hrow
      cases hrow
      exact reserve_found stored
    · rw [Race.advance_of_ne heq] at hrow
      rw [Race.advance_store, reserve_elsewhere heq]
      exact tracks.saved other row hrow
  eligible := by
    intro client other hother
    rw [Race.advance_store, taken_take seeking]
    by_cases heq : other.id = room.id
    · have hsame := List.inj_on_of_nodup_map store.rooms.nodup hother hroom heq
      subst hsame
      constructor
      · intro eligible
        exact absurd eligible (reserve_takes hslot hreservable stored)
      · rintro ⟨_, untaken⟩
        exact absurd (Or.inl rfl) untaken
    · rw [reserve_others stored draft inactive heq, tracks.eligible client other hother]
      simp [heq]

/-- Local eligibility reads the presets and the room. -/
theorem Tracks.configured (tracks : Tracks cfg store slot race p) (room : Room)
    (client : ClientId) :
    configured cfg race.store room client = configured cfg store room client := by
  simp only [MeetingGateway.configured, tracks.presets.1, tracks.presets.2]

/-- Where the slot can be taken, an attempt that fails on an active room fails with an error the
loop skips, and the room was not eligible. -/
theorem Takeable.refused {room : Room} {locked : Meeting} {now : Int} {e : Raised}
    (contest : Contest cfg store start end_ slot requesters fit)
    (takeable : Takeable cfg store start end_ slot requesters)
    (tracks : Tracks cfg store slot race p) (requester : locked.id ∈ requesters)
    (stored : store.meeting? locked.id = some locked)
    (current : race.store.meeting? locked.id = some locked) (draft : locked.status = .draft)
    (hmem : room ∈ store.rooms.rows) (active : room.isActive = true)
    (herror : reserveSpecificRoom cfg race.store locked.id room.publicId start end_ now =
      .error e) :
    tryNextRoom e = true ∧ ¬ race.store.Eligible cfg locked.integrationClient slot room := by
  have hslot := contest.interval
  have hroom : room ∈ race.store.rooms.rows := tracks.rooms ▸ hmem
  have ineligible : ¬ race.store.Eligible cfg locked.integrationClient slot room := by
    intro eligible
    rw [reserveSpecificRoom_eligible hslot current draft eligible] at herror
    rcases takeable with hreservable | untouched
    · rw [if_pos hreservable] at herror
      cases herror
    · obtain ⟨before, _⟩ := (tracks.eligible _ room hmem).mp eligible
      exact (untouched _ requester locked stored room hmem active before.configured).2
        ⟨before.free, before.below⟩
  have askable : slot.reversed = false ∨
      configured cfg race.store room locked.integrationClient = false := by
    rw [tracks.configured]
    rcases takeable with hreservable | untouched
    · exact Or.inl (proper_of_reservable hslot hreservable)
    · by_contra hnot
      obtain ⟨reversed, hconfigured⟩ := not_or.mp hnot
      exact reversed
        (untouched _ requester locked stored room hmem active (by simpa using hconfigured)).1
  obtain ⟨e', he', skips⟩ :=
    reserveSpecificRoom_skips now hslot askable current draft hroom active ineligible
  rw [herror] at he'
  cases he'
  exact ⟨skips, ineligible⟩

/-- Every attempt is a step of the race, as long as no reservation is released. -/
theorem attempt_step (contest : Contest cfg store start end_ slot requesters fit)
    (takeable : Takeable cfg store start end_ slot requesters)
    {pk : MeetingId} {now : Int} (h : Attempt cfg start end_ requesters race pk now race')
    (same : Untouched store race) (kept : Kept store race')
    (tracks : Tracks cfg store slot race p) :
    ∃ q, Step requesters fit p q ∧ Tracks cfg store slot race' q := by
  have hslot := contest.interval
  cases h with
  | gaveUp requester hloop =>
    have follows := tracks.loops pk
    rw [hloop] at follows
    have seeking := follows.nil
    exact ⟨_, .exhaust requester seeking, tracks.leave seeking rfl rfl .failed⟩
  | @refused publicId rest e requester hloop herror =>
    have follows := tracks.loops pk
    rw [hloop] at follows
    obtain ⟨room, rooms, hmem, active, rfl, seeking, goesOn⟩ := follows.cons
    obtain ⟨locked, stored, draft⟩ := contest.drafts pk requester
    have current : race.store.meeting? pk = some locked := by
      rw [same pk (by rw [hloop]; rfl), stored]
    have hid : locked.id = pk := Store.meeting?_id stored
    subst hid
    obtain ⟨skips, ineligible⟩ :=
      takeable.refused contest tracks requester stored current draft hmem active herror
    have held : room.id ∈ fit → Taken p room.id := by
      intro fits
      by_contra free
      exact ineligible ((tracks.eligible _ room hmem).mpr
        ⟨(contest.eligible _ requester locked stored room hmem).mpr fits, free⟩)
    rw [if_pos skips]
    exact ⟨_, .pass requester seeking held, tracks.leave seeking rfl rfl goesOn⟩
  | @reserved publicId rest row requester hloop hrow =>
    have follows := tracks.loops pk
    rw [hloop] at follows
    obtain ⟨room, rooms, hmem, active, rfl, seeking, _⟩ := follows.cons
    obtain ⟨locked, other, current, draft, found, eligible, hreservable, rfl⟩ :=
      reserveSpecificRoom_row hslot hrow
    have hroom : room ∈ race.store.rooms.rows := tracks.rooms ▸ hmem
    rw [activeRoom?_publicId hroom active] at found
    cases found
    have hid : locked.id = pk := Store.meeting?_id current
    subst hid
    have stored : store.meeting? locked.id = some locked := by
      rw [← same locked.id (by rw [hloop]; rfl), current]
    obtain ⟨eligible, free⟩ := (tracks.eligible _ room hmem).mp eligible
    have fits := (contest.eligible _ requester locked stored room hmem).mp eligible
    have inactive := activeReservation_kept contest requester rfl (reserve_found current) kept
      stored
    exact ⟨_, .take requester seeking fits free,
      tracks.take seeking hslot hreservable current draft inactive hmem⟩

theorem Race.advance_advance {pk : MeetingId} {other other' : Store} {loop loop' : Loop} :
    (race.advance pk other loop).advance pk other' loop' = race.advance pk other' loop' := by
  simp [Race.advance]

/-- Without interference the attempts add up to the allocator's loop. -/
theorem tryEach_alone {pk : MeetingId} (requester : pk ∈ requesters) (now : Int)
    (untried : List String) (hloop : race.loops pk = .trying untried) :
    ∃ schedule, run (Race.step cfg start end_ requesters) race schedule = some
      (match FirstFit.tryEach (fun publicId =>
          reserveSpecificRoom cfg race.store pk publicId start end_ now) tryNextRoom
          (.gateway noCapacity) untried with
        | .ok row => race.advance pk (race.store.putMeeting row) (.reserved row)
        | .error e => race.advance pk race.store (.failed e)) := by
  induction untried generalizing race with
  | nil => exact ⟨[(pk, now)], by simp [run, Race.step, requester, hloop, FirstFit.tryEach]⟩
  | cons publicId rest ih =>
    cases hrow : reserveSpecificRoom cfg race.store pk publicId start end_ now with
    | ok row =>
      exact ⟨[(pk, now)], by simp [run, Race.step, requester, hloop, hrow, FirstFit.tryEach]⟩
    | error e =>
      by_cases skips : tryNextRoom e = true
      · have hnext : (race.advance pk race.store (.trying rest)).loops pk = .trying rest :=
          Race.advance_self
        obtain ⟨schedule, ran⟩ := ih hnext
        simp only [Race.advance_advance, Race.advance_store] at ran
        refine ⟨(pk, now) :: schedule, ?_⟩
        simp [run, Race.step, requester, hloop, hrow, skips, FirstFit.tryEach, ran]
      · exact ⟨[(pk, now)],
          by simp [run, Race.step, requester, hloop, hrow, skips, FirstFit.tryEach]⟩

theorem allocateAnyRoom_alone {pk : MeetingId} (requester : pk ∈ requesters) (now : Int) :
    ∃ schedule, run (Race.step cfg start end_ requesters) (Race.initial store) schedule = some
      (match allocateAnyRoom cfg store pk start end_ now with
        | .ok row => (Race.initial store).advance pk (store.putMeeting row) (.reserved row)
        | .error e => (Race.initial store).advance pk store (.failed e)) :=
  tryEach_alone requester now _ rfl

theorem run_untouched (hslot : interval cfg start end_ = .ok slot)
    {labels : List (MeetingId × Int)}
    (ran : run (Race.step cfg start end_ requesters) (Race.initial store) labels = some race) :
    Untouched store race := by
  refine (reachable_of_run ran).invariant (fun pk _ => rfl) ?_
  rintro a ⟨pk, now⟩ b _ same hstep
  exact attempt_untouched hslot (step_attempt hstep) same

/-- A run of requests is a run of the race, and each step of it uses up an attempt. -/
theorem run_race (contest : Contest cfg store start end_ slot requesters fit)
    (takeable : Takeable cfg store start end_ slot requesters)
    {labels : List (MeetingId × Int)}
    (ran : run (Race.step cfg start end_ requesters) (Race.initial store) labels = some race)
    (kept : Kept store race) :
    ∃ p, FirstFitRace.Invariant requesters fit p ∧ Tracks cfg store slot race p ∧
      labels.length + work requesters p ≤ requesters.card * (store.activeRooms.length + 1) := by
  induction labels using List.reverseRecOn generalizing race with
  | nil =>
    cases ran
    refine ⟨_, initial_invariant ?_, tracks_initial, ?_⟩
    · intro id hid
      obtain ⟨room, hmem, rfl, active⟩ := contest.rooms id hid
      exact List.mem_map_of_mem (Store.mem_activeRooms.mpr ⟨hmem, active⟩)
    · rw [work_initial, List.length_map, List.length_nil, Nat.zero_add]
  | append_singleton front attempt ih =>
    rw [run_concat] at ran
    obtain ⟨mid, hfront, hstep⟩ := Option.bind_eq_some_iff.mp ran
    have hattempt := step_attempt hstep
    obtain ⟨p, inv, tracks, spent⟩ := ih hfront (kept_before contest hattempt kept)
    obtain ⟨q, hq, tracks'⟩ := attempt_step contest takeable hattempt
      (run_untouched contest.interval hfront) kept tracks
    have less := step_work hq
    refine ⟨q, step_invariant hq inv, tracks', ?_⟩
    rw [List.length_append, List.length_singleton]
    omega

theorem Follows.ended_iff {loop : Loop} {x : Progress RoomId} (h : Follows store loop x) :
    loop.ended = x.ended ∧ loop.succeeded = x.holding := by
  cases h with
  | trying _ => exact ⟨rfl, rfl⟩
  | reserved _ => exact ⟨rfl, rfl⟩
  | failed => exact ⟨rfl, rfl⟩

/-- A request that has not ended can always go on. -/
theorem step_enabled {pk : MeetingId} (requester : pk ∈ requesters)
    (unended : (race.loops pk).ended = false) (now : Int) :
    ∃ race', Race.step cfg start end_ requesters race (pk, now) = some race' := by
  cases hloop : race.loops pk with
  | trying untried =>
    cases untried with
    | nil => exact ⟨_, by simp [Race.step, requester, hloop]; rfl⟩
    | cons publicId rest =>
      cases hrow : reserveSpecificRoom cfg race.store pk publicId start end_ now with
      | ok row => exact ⟨_, by simp [Race.step, requester, hloop, hrow]; rfl⟩
      | error e => exact ⟨_, by simp [Race.step, requester, hloop, hrow]; rfl⟩
  | reserved row =>
    rw [hloop] at unended
    cases unended
  | failed e =>
    rw [hloop] at unended
    cases unended

end Simulation

/-- What the requests have got when all of them have ended. -/
structure Shared (requesters : Finset MeetingId) (fit : Finset RoomId) (race : Race) : Prop where
  count : (requesters.filter fun pk => (race.loops pk).succeeded).card =
    min requesters.card fit.card
  rooms : ∀ pk ∈ requesters, ∀ row, race.loops pk = .reserved row →
    race.store.meeting? pk = some row ∧ ∃ id ∈ fit, row.room = some id
  different : ∀ pk ∈ requesters, ∀ pk' ∈ requesters, ∀ row row', race.loops pk = .reserved row →
    race.loops pk' = .reserved row' → row.room = row'.room → pk = pk'
  others : ∀ pk ∈ requesters, (race.loops pk).succeeded = false →
    race.loops pk = .failed (.gateway noCapacity)

theorem shared_of_over {cfg : Settings} {store : Store} {slot : BoundedRange Int}
    {requesters : Finset MeetingId} {fit : Finset RoomId} {race : Race}
    {p : MeetingId → Progress RoomId} (inv : FirstFitRace.Invariant requesters fit p)
    (tracks : Tracks cfg store slot race p)
    (finished : ∀ pk ∈ requesters, (race.loops pk).ended = true) : Shared requesters fit race := by
  have held : ∀ pk row, race.loops pk = .reserved row → ∃ id, row.room = some id ∧
      p pk = .holds id := by
    intro pk row hrow
    have follows := tracks.loops pk
    generalize p pk = x at follows ⊢
    rw [hrow] at follows
    cases follows with
    | reserved hroom => exact ⟨_, hroom, rfl⟩
  constructor
  · have ended : ∀ pk ∈ requesters, (p pk).ended = true := by
      intro pk hpk
      rw [← (tracks.loops pk).ended_iff.1]
      exact finished pk hpk
    rw [← card_holders inv ended]
    congr 1
    refine Finset.filter_congr ?_
    intro pk _
    rw [(tracks.loops pk).ended_iff.2]
  · intro pk _ row hrow
    obtain ⟨id, hroom, hp⟩ := held pk row hrow
    exact ⟨tracks.saved pk row hrow, id, (inv.fair pk id hp).2, hroom⟩
  · intro pk _ pk' _ row row' hrow hrow' same
    obtain ⟨id, hroom, hp⟩ := held pk row hrow
    obtain ⟨id', hroom', hp'⟩ := held pk' row' hrow'
    rw [hroom, hroom'] at same
    cases same
    exact inv.distinct pk pk' id hp hp'
  · intro pk hpk unsuccessful
    have ended := finished pk hpk
    have follows := tracks.loops pk
    generalize p pk = x at follows
    generalize race.loops pk = loop at follows unsuccessful ended ⊢
    cases follows with
    | trying _ => cases ended
    | reserved _ => cases unsuccessful
    | failed => rfl

/-- A race as it should be: each request can go on until it ends, they end after a bounded number
of attempts, a request that fails has found no capacity, and when all have ended the lesser of the
numbers of requests and of rooms they could have has succeeded, with pairwise different rooms. -/
structure RaceDecided (cfg : Settings) (store : Store) (start end_ : Datetime)
    (requesters : Finset MeetingId) (fit : Finset RoomId) (schedule : List (MeetingId × Int))
    (race : Race) : Prop where
  bounded : schedule.length ≤ requesters.card * (store.activeRooms.length + 1)
  enabled : ∀ pk ∈ requesters, (race.loops pk).ended = false → ∀ now,
    ∃ race', Race.step cfg start end_ requesters race (pk, now) = some race'
  failures : ∀ pk ∈ requesters, ∀ e, race.loops pk = .failed e → e = .gateway noCapacity
  shared : (∀ pk ∈ requesters, (race.loops pk).ended = true) → Shared requesters fit race

section Alone
variable {cfg : Settings} {store : Store} {start end_ : Datetime} {slot : BoundedRange Int}
variable {requesters : Finset MeetingId} {fit : Finset RoomId}

/-- An attempt on an active room that ends the loop without a room ends it with an exception. -/
theorem unskipped_python {locked : Meeting} {room : Room} {now : Int} {e : Raised}
    (hslot : interval cfg start end_ = .ok slot)
    (stored : store.meeting? locked.id = some locked) (draft : locked.status = .draft)
    (hmem : room ∈ store.rooms.rows) (active : room.isActive = true)
    (herror : reserveSpecificRoom cfg store locked.id room.publicId start end_ now = .error e)
    (ends : tryNextRoom e = false) : ∃ error, e = .python error := by
  rw [reserveSpecificRoom_active hslot stored draft hmem active] at herror
  split at herror
  · cases herror
    cases ends
  · split at herror
    · cases herror
      exact ⟨_, rfl⟩
    · rename_i conflict hcap
      cases herror
      rcases capacityError_skips hcap with rfl | rfl
      · cases ends
      · cases ends
    · split at herror
      · cases herror
      · cases herror
        exact ⟨_, rfl⟩

/-- A request that asks the database for a slot it does not take ends in an exception. -/
theorem allocateAnyRoom_raises {locked : Meeting} {room : Room} (now : Int)
    (hslot : interval cfg start end_ = .ok slot)
    (stored : store.meeting? locked.id = some locked) (draft : locked.status = .draft)
    (unreservable : reservable cfg start end_ = false) (hmem : room ∈ store.rooms.rows)
    (active : room.isActive = true)
    (hconfigured : configured cfg store room locked.integrationClient = true)
    (asks : slot.reversed = true ∨ (store.FreeFor room.id slot ∧ store.BelowLimit room)) :
    ∃ error, allocateAnyRoom cfg store locked.id start end_ now = .error (.python error) := by
  have raises : ∃ e, reserveSpecificRoom cfg store locked.id room.publicId start end_ now =
      .error e ∧ tryNextRoom e = false := by
    rw [reserveSpecificRoom_active hslot stored draft hmem active, hconfigured]
    cases reversed : slot.reversed with
    | true =>
      obtain ⟨e, he⟩ := (@capacityError_reversed store room slot).mpr reversed
      rw [he]
      exact ⟨_, rfl, rfl⟩
    | false =>
      have fits := asks.resolve_left (by simp [reversed])
      rw [capacityError_eq_none.mpr ⟨reversed, fits⟩, unreservable]
      exact ⟨_, rfl, rfl⟩
  have fails : ∀ other ∈ store.activeRooms, ∃ e,
      reserveSpecificRoom cfg store locked.id other.publicId start end_ now = .error e := by
    intro other _
    cases hrow : reserveSpecificRoom cfg store locked.id other.publicId start end_ now with
    | error e => exact ⟨e, rfl⟩
    | ok row =>
      rw [(reserveSpecificRoom_ok hrow).2.1] at unreservable
      cases unreservable
  rw [allocateAnyRoom_eq]
  obtain ⟨other, hother, e, he, ends, loop⟩ := FirstFit.tryEach_raises fails
    ⟨room, Store.mem_activeRooms.mpr ⟨hmem, active⟩, raises⟩
  obtain ⟨hroom, hactive⟩ := Store.mem_activeRooms.mp hother
  obtain ⟨error, rfl⟩ := unskipped_python hslot stored draft hroom hactive he ends
  exact ⟨error, loop⟩

end Alone

/-- Requests that allocate one slot at the same time share the rooms they could have, under every
interleaving of their attempts, exactly if the database takes reservations of the slot or none of
them asks it to. -/
theorem concurrent_allocation_iff {cfg : Settings} {store : Store} {start end_ : Datetime}
    {slot : BoundedRange Int} {requesters : Finset MeetingId} {fit : Finset RoomId}
    (contest : Contest cfg store start end_ slot requesters fit) :
    (∀ schedule race, run (Race.step cfg start end_ requesters) (Race.initial store) schedule =
        some race → Kept store race →
      RaceDecided cfg store start end_ requesters fit schedule race) ↔
      Takeable cfg store start end_ slot requesters := by
  constructor
  · intro settles
    by_contra untakeable
    simp only [Takeable, not_or, not_forall, Bool.not_eq_true] at untakeable
    obtain ⟨unreservable, pk, requester, m, stored, room, hmem, active, hconfigured, asks⟩ :=
      untakeable
    have hid : m.id = pk := Store.meeting?_id stored
    subst hid
    obtain ⟨draft, hdraft, isDraft⟩ := contest.drafts m.id requester
    rw [stored] at hdraft
    cases hdraft
    have asked : slot.reversed = true ∨ (store.FreeFor room.id slot ∧ store.BelowLimit room) := by
      by_contra hnot
      obtain ⟨proper, taken⟩ := not_or.mp hnot
      exact asks ⟨by simpa using proper, taken⟩
    obtain ⟨error, raised⟩ := allocateAnyRoom_raises 0 contest.interval stored isDraft
      unreservable hmem active hconfigured asked
    obtain ⟨schedule, ran⟩ :=
      @allocateAnyRoom_alone cfg store start end_ requesters m.id requester 0
    rw [raised] at ran
    have kept : Kept store ((Race.initial store).advance m.id store (.failed (.python error))) :=
      fun row hrow _ => KeyedTable.get?_eq_some.mpr ⟨hrow, rfl⟩
    have failed := (settles schedule _ ran kept).failures m.id requester (.python error)
      Race.advance_self
    cases failed
  · intro takeable schedule race ran kept
    obtain ⟨p, inv, tracks, spent⟩ := run_race contest takeable ran kept
    refine ⟨by omega, fun pk requester unended now => step_enabled requester unended now, ?_,
      shared_of_over inv tracks⟩
    intro pk _ e hfailed
    have follows := tracks.loops pk
    generalize p pk = x at follows
    rw [hfailed] at follows
    cases follows
    rfl

def exampleRivals : Store :=
  { exampleStore with
    meetings := ⟨[exampleDraft, (exampleValues "CLS-002" 10).draft 2 7 0], by decide⟩ }

/-- Two drafts of one client contend for the room that is eligible for it. -/
theorem exampleRivals_contest {start end_ : Datetime} {slot : BoundedRange Int}
    (hslot : interval exampleSettings start end_ = .ok slot)
    (hcapacity : capacityError exampleRivals exampleRoom slot = .ok none) :
    Contest exampleSettings exampleRivals start end_ slot {1, 2} {1} where
  interval := hslot
  drafts := by decide
  rooms := by decide
  eligible := by
    intro pk _ m hm room hroom
    have hone : room = exampleRoom := List.mem_singleton.mp hroom
    have hclient : m.integrationClient = 7 := by
      have hmem := (KeyedTable.get?_eq_some.mp hm).1
      rcases List.mem_cons.mp hmem with rfl | hmem
      · rfl
      · rw [List.mem_singleton.mp hmem]
        rfl
    obtain ⟨proper, free, below⟩ := capacityError_eq_none.mp hcapacity
    subst hone
    rw [hclient]
    exact ⟨fun _ => by decide, fun _ => ⟨hroom, rfl, by decide, proper, free, below⟩⟩

def exampleSlot : BoundedRange Int :=
  .halfOpen ((exampleTime 10).instant - exampleSettings.before)
    ((exampleTime 11).instant + exampleSettings.after)

/-- The second request comes when the room is taken, and there is no other. -/
theorem concurrent_allocation_of_two :
    ∃ race, run (Race.step exampleSettings (exampleTime 10) (exampleTime 11) {1, 2})
        (Race.initial exampleRivals) [(1, 0), (2, 0), (2, 0)] = some race ∧
      (race.loops 1).succeeded = true ∧ (race.loops 2).succeeded = false ∧
      Shared {1, 2} {1} race := by
  have outcome : (run (Race.step exampleSettings (exampleTime 10) (exampleTime 11) {1, 2})
      (Race.initial exampleRivals) [(1, 0), (2, 0), (2, 0)]).map (fun race =>
        ((race.loops 1).ended, (race.loops 1).succeeded, (race.loops 2).ended,
          (race.loops 2).succeeded)) = some (true, true, true, false) := by decide
  obtain ⟨race, ran, hloops⟩ := Option.map_eq_some_iff.mp outcome
  simp only [Prod.mk.injEq] at hloops
  obtain ⟨ended, first, ended', second⟩ := hloops
  have kept : Kept exampleRivals race := by
    intro m hm active
    have inactive : ∀ m ∈ exampleRivals.meetings.rows, m.reservationActive = false := by decide
    rw [inactive m hm] at active
    cases active
  have finished : ∀ pk ∈ ({1, 2} : Finset MeetingId), (race.loops pk).ended = true := by
    intro pk hpk
    rcases Finset.mem_insert.mp hpk with rfl | hpk
    · exact ended
    · rw [Finset.mem_singleton.mp hpk]
      exact ended'
  have contest : Contest exampleSettings exampleRivals (exampleTime 10) (exampleTime 11)
      exampleSlot {1, 2} {1} := exampleRivals_contest (by decide +kernel) (by decide)
  exact ⟨race, ran, first, second, ((concurrent_allocation_iff contest).mpr
    (Or.inl (by decide)) _ race ran kept).shared finished⟩

def exampleRepeatedSlot : BoundedRange Int :=
  .halfOpen ((719162 * 86400 + 1262275200) * 1000000) ((719162 * 86400 + 1262277300) * 1000000)

/-- In the hour that came twice, the first of the two requests for the free room ends in an
`IntegrityError`. -/
theorem repeated_hour_wastes_room :
    Contest exampleSettings exampleRivals (exampleLocal 1262279400) (exampleLocal 1262280600)
        exampleRepeatedSlot {1, 2} {1} ∧
      ∃ race, run (Race.step exampleSettings (exampleLocal 1262279400) (exampleLocal 1262280600)
          {1, 2}) (Race.initial exampleRivals) [(1, 0)] = some race ∧ Kept exampleRivals race ∧
        race.loops 1 = .failed (.python .integrityError) ∧
        ¬ RaceDecided exampleSettings exampleRivals (exampleLocal 1262279400)
          (exampleLocal 1262280600) {1, 2} {1} [(1, 0)] race := by
  have ran : run (Race.step exampleSettings (exampleLocal 1262279400) (exampleLocal 1262280600)
      {1, 2}) (Race.initial exampleRivals) [(1, 0)] =
        some ((Race.initial exampleRivals).advance 1 exampleRivals
          (.failed (.python .integrityError))) := by
    rfl
  refine ⟨exampleRivals_contest (by decide +kernel) (by decide), _, ran, ?_, Race.advance_self, ?_⟩
  · intro row hrow _
    exact KeyedTable.get?_eq_some.mpr ⟨hrow, rfl⟩
  · intro settles
    have failed := settles.failures 1 (by decide) _ Race.advance_self
    cases failed

end MeetingGateway
