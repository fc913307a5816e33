import MeetingGateway.Bookings

/-!
# The provider's cap on active meetings

Capacity is checked when a room is reserved, under the room's lock, and the reservation
counts from its PROVISIONING commit on. A retry that resumes its retained reservation starts
to count again without that check. In runs of create requests the cap holds as long as
every such retry finds a place left; otherwise a retry can exceed it.
-/

namespace MeetingGateway

open LabelledRuns

def Operation.ofRequest : Operation → Bool
  | .begin _ | .attempt _ _ | .commit _ _ | .token _ _ | .send _ _ | .receive _ _ | .finish _ _
  | .die _ | .remoteCreates _ => true
  | _ => false

/-- A step of a create request or of the provider. -/
def Label.creates : Label → Bool
  | .register _ _ _ _ _ => true
  | .on _ op => op.ofRequest
  | _ => false

theorem Label.creates_waits {l : Label} (h : l.creates = true) (w : World) :
    operatorsWait w l := by
  unfold operatorsWait
  split
  · cases h
  · cases h
  · trivial

/-- The meetings counted against the room's limit. -/
def Store.countedIn (s : Store) (room : RoomId) : Nat :=
  s.meetings.rows.countP (Meeting.counted room)

/-- A room whose lock is held may have one reservation that is not committed. -/
def lockCount (roomLock : RoomId → Option MeetingId) (room : RoomId) : Nat :=
  if (roomLock room).isSome then 1 else 0

/-- The places of the room that are taken or promised. -/
def World.promised (w : World) (room : RoomId) : Nat :=
  w.store.countedIn room + lockCount w.roomLock room

/-- A retry that resumes its reservation finds a place left in its room. -/
def retryFits (w : World) : Label → Bool
  | .on pk (.commit r _) =>
    match (w.sessions pk).requests r with
    | some ⟨_, .reserving reserved true⟩ =>
      match reserved.room.bind w.store.room? with
      | some room =>
        match room.providerActiveMeetingLimit with
        | some limit => decide (w.promised room.id < limit)
        | none => true
      | none => true
    | _ => true
  | _ => true

theorem retryFits_resume {w : World} {pk : MeetingId} {r : RequestId} {values : CreateValues}
    {reserved : Meeting} {room : Room} {limit : Nat} {now : Int}
    (fits : retryFits w (.on pk (.commit r now)) = true)
    (hrequest : (w.sessions pk).requests r = some ⟨values, .reserving reserved true⟩)
    (hroom : reserved.room = some room.id) (stored : w.store.room? room.id = some room)
    (hlimit : room.providerActiveMeetingLimit = some limit) : w.promised room.id < limit := by
  simpa [retryFits, hrequest, hroom, stored, hlimit] using fits

theorem lockCount_releaseRooms (roomLock : RoomId → Option MeetingId) (pk : MeetingId)
    (room : RoomId) : lockCount (releaseRooms roomLock pk) room ≤ lockCount roomLock room := by
  unfold lockCount releaseRooms
  by_cases h : roomLock room = some pk
  · simp [h]
  · simp [h]

theorem lockCount_released {roomLock : RoomId → Option MeetingId} {pk : MeetingId} {room : RoomId}
    (held : roomLock room = some pk) :
    lockCount (releaseRooms roomLock pk) room = 0 ∧ lockCount roomLock room = 1 := by
  simp [lockCount, releaseRooms, held]

theorem countedIn_putMeeting {s : Store} {row old : Meeting} (room : RoomId)
    (stored : s.meeting? row.id = some old) :
    (s.putMeeting row).countedIn room + (if old.counted room then 1 else 0) =
      s.countedIn room + (if row.counted room then 1 else 0) :=
  KeyedTable.countP_put s.meetings (Meeting.counted room) stored

theorem countedIn_insertMeeting {s : Store} {row : Meeting} (room : RoomId)
    (fresh : s.meeting? row.id = none) :
    (s.insertMeeting row fresh).countedIn room =
      s.countedIn room + (if row.counted room then 1 else 0) :=
  KeyedTable.countP_insert s.meetings (Meeting.counted room) fresh

theorem Status.awaitsOutcome_counts {status : Status} (h : status.awaitsOutcome = true) :
    status.countsTowardLimit = true := by
  cases status <;> first | rfl | exact absurd h (by decide)

theorem not_counted_of_status {m : Meeting} {room : RoomId}
    (h : m.status.countsTowardLimit = false) : m.counted room = false := by
  simp [Meeting.counted, h]

section Moves
variable {cfg : Settings} {accounts : RoomId → Option String} {sc : Scene} {room : RoomId}

/-- Only a reservation that has just passed the capacity check takes a room's lock. -/
theorem Move.lockCount {op : Operation} {effect : Effect} (move : Move cfg sc op effect)
    (room : RoomId) (sound : Sound cfg accounts sc.row sc.session)
    (stored : sc.store.meeting? sc.row.id = some sc.row) :
    lockCount (effect.roomLock sc.roomLock sc.row.id) room ≤ lockCount sc.roomLock room ∨
      ∃ chosen, chosen.id = room ∧ sc.store.room? chosen.id = some chosen ∧
        sc.roomLock room = none ∧ sc.store.BelowLimit chosen := by
  cases move with
  | @leave _ r _ _ =>
    left
    by_cases hlock : sc.session.lock = some r
    · simpa [Effect.roomLock, Scene.leave, hlock] using lockCount_releaseRooms _ _ _
    · simp [Effect.roomLock, Scene.leave, hlock]
  | @reserve _ _ _ _ _ chosen now hrequest _ _ hroom free _ below =>
    by_cases he : chosen.id = room
    · right
      refine ⟨chosen, he, hroom, he ▸ free, ?_⟩
      intro limit hlimit
      have hdraft : sc.row.status = .draft := (sound.requests _ _ hrequest).phase.1
      have hview : (sc.view now).countedIn chosen.id + _ = sc.store.countedIn chosen.id + _ :=
        countedIn_putMeeting chosen.id stored
      rw [not_counted_of_status (by rw [hdraft]; rfl), not_counted_of_status rfl] at hview
      have hbelow : (sc.view now).countedIn chosen.id < limit := below limit hlimit
      show sc.store.countedIn chosen.id < limit
      omega
    · left
      have hother : Function.update sc.roomLock chosen.id (some sc.row.id) room =
          sc.roomLock room := Function.update_of_ne (Ne.symm he) ..
      simp [Effect.roomLock, MeetingGateway.lockCount, hother]
  | provision _ _ _ _ _ => exact Or.inl (lockCount_releaseRooms _ _ _)
  | failure _ _ _ => exact Or.inl (lockCount_releaseRooms _ _ _)
  | success _ _ _ _ _ => exact Or.inl (lockCount_releaseRooms _ _ _)
  | upkeep _ _ => exact Or.inl (lockCount_releaseRooms _ _ _)
  | resume _ _ _ => exact Or.inl (Nat.le_refl _)
  | allocate _ _ _ => exact Or.inl (Nat.le_refl _)
  | skip _ => exact Or.inl (Nat.le_refl _)
  | issued _ _ => exact Or.inl (Nat.le_refl _)
  | refused _ _ _ => exact Or.inl (Nat.le_refl _)
  | send _ _ _ => exact Or.inl (Nat.le_refl _)
  | receive _ _ _ _ _ => exact Or.inl (Nat.le_refl _)
  | escape _ _ _ _ => exact Or.inl (Nat.le_refl _)
  | remoteCreates _ _ _ => exact Or.inl (Nat.le_refl _)

/-- A save of a request counts a row anew only when it commits PROVISIONING. -/
theorem Move.saves_counted {op : Operation} {row : Meeting} {done failed : Session}
    (move : Move cfg sc op (.write row done failed)) (request : op.ofRequest = true)
    (awaited : FlightAwaited sc.row sc.session) (counted : row.counted room = true) :
    sc.row.counted room = true ∨ ∃ r values reserved retrying now,
      op = .commit r now ∧ sc.session.requests r = some ⟨values, .reserving reserved retrying⟩ ∧
      reserved.room = some room := by
  have before : sc.session.Flying → sc.row.room = some room → sc.row.counted room = true := by
    intro flying hroom
    simp [Meeting.counted, hroom, Status.awaitsOutcome_counts (awaited flying)]
  have hroom : row.room = some room := by
    simpa using (Bool.and_eq_true_iff.mp counted).1
  cases move with
  | provision hrequest _ _ _ _ => exact Or.inr ⟨_, _, _, _, _, rfl, hrequest, hroom⟩
  | failure _ hrequest _ =>
    refine Or.inl (before ⟨_, _, _, hrequest⟩ ?_)
    rw [← hroom]
    exact (recordFailure_room ..).symm
  | success _ hrequest _ _ _ => exact Or.inl (before ⟨_, _, _, hrequest⟩ hroom)
  | upkeep _ hup =>
    cases hup <;> cases request

end Moves

section Runs
variable {cfg : Settings} {accounts : RoomId → Option String} {w w' : World}

theorem settle_room? (w : World) (pk : MeetingId) (effect : Effect) (id : RoomId) :
    (w.settle pk effect).store.room? id = w.store.room? id := by
  have settled := settle_settled w pk effect
  generalize w.settle pk effect = w' at settled
  cases settled with
  | quiet => rfl
  | saved _ _ => rfl
  | unsaved _ => rfl

theorem Change.room? {l : Label} (change : Change cfg w l w') (creates : l.creates = true)
    (id : RoomId) : w'.store.room? id = w.store.room? id := by
  cases change with
  | refused _ => rfl
  | created _ _ => rfl
  | joined _ _ _ _ => rfl
  | operated _ _ => exact settle_room? _ _ _ _
  | roomEdited _ => cases creates
  | systemPresetEdited => cases creates
  | clientPresetEdited => cases creates

/-- While the operation saves nothing, the room's promises stay within its limit. -/
theorem World.promised_unsaved (sound : w.Sound cfg accounts) {row : Meeting} {op : Operation}
    {effect : Effect} {room : Room} {limit : Nat}
    (stored : w.store.meeting? row.id = some row) (move : Move cfg (w.scene row) op effect)
    (hroom : w.store.room? room.id = some room)
    (hlimit : room.providerActiveMeetingLimit = some limit)
    (before : w.promised room.id ≤ limit) :
    w.store.countedIn room.id + lockCount (effect.roomLock w.roomLock row.id) room.id ≤
      limit := by
  rcases move.lockCount room.id (sound.rows row stored) stored with
    hle | ⟨chosen, hid, hchosen, _, below⟩
  · calc w.store.countedIn room.id + lockCount (effect.roomLock w.roomLock row.id) room.id
        ≤ w.store.countedIn room.id + lockCount w.roomLock room.id :=
          Nat.add_le_add_left hle _
      _ ≤ limit := before
  · have hsame : chosen = room := by
      rw [hid] at hchosen
      exact Option.some.inj (hchosen.symm.trans hroom)
    subst hsame
    have hbelow : w.store.countedIn chosen.id < limit := below limit hlimit
    have hone : lockCount (effect.roomLock w.roomLock row.id) chosen.id ≤ 1 := by
      unfold lockCount
      split <;> omega
    omega

/-- A saved row takes a place that it had, that its reservation was promised, or that the
retry found left. -/
theorem World.promised_saved (holding : w.Holding) {row old : Meeting} {op : Operation}
    {done failed : Session} {room : Room} {limit : Nat}
    (awaited : FlightAwaited old (w.sessions old.id))
    (stored : w.store.meeting? old.id = some old) (sameId : row.id = old.id)
    (move : Move cfg (w.scene old) op (.write row done failed)) (request : op.ofRequest = true)
    (fits : retryFits w (.on old.id op) = true) (hroom : w.store.room? room.id = some room)
    (hlimit : room.providerActiveMeetingLimit = some limit)
    (before : w.promised room.id ≤ limit) :
    (w.store.putMeeting row).countedIn room.id +
      lockCount (releaseRooms w.roomLock old.id) room.id ≤ limit := by
  have hcount := countedIn_putMeeting room.id (show w.store.meeting? row.id = some old by
    rw [sameId]
    exact stored)
  have hlocks := lockCount_releaseRooms w.roomLock old.id room.id
  unfold World.promised at before
  by_cases hnew : row.counted room.id = true
  · rcases move.saves_counted request awaited hnew with
      hold | ⟨r, values, reserved, retrying, now, rfl, hrequest, hreserved⟩
    · have hold' : old.counted room.id = true := hold
      rw [if_pos hold', if_pos hnew] at hcount
      omega
    · rw [if_pos hnew] at hcount
      cases retrying with
      | true =>
        have hfits := retryFits_resume fits hrequest hreserved hroom hlimit
        unfold World.promised at hfits
        omega
      | false =>
        obtain ⟨room', hroom', held⟩ := holding old reserved stored ⟨r, values, hrequest⟩
        rw [hreserved] at hroom'
        cases hroom'
        obtain ⟨hafter, hheld⟩ := lockCount_released held
        omega
  · rw [if_neg hnew] at hcount
    omega

theorem Change.promised {l : Label} (sound : w.Sound cfg accounts) (holding : w.Holding)
    (awaited : ∀ m, w.store.meeting? m.id = some m → FlightAwaited m (w.sessions m.id))
    (change : Change cfg w l w') (creates : l.creates = true) (fits : retryFits w l = true)
    {room : Room} {limit : Nat} (hroom : w.store.room? room.id = some room)
    (hlimit : room.providerActiveMeetingLimit = some limit)
    (before : w.promised room.id ≤ limit) : w'.promised room.id ≤ limit := by
  cases change with
  | refused _ => exact before
  | @created r pk client values now fresh _ =>
    have hcount : (w.store.insertMeeting (values.draft pk client now) fresh).countedIn room.id =
        w.store.countedIn room.id + _ := countedIn_insertMeeting room.id fresh
    rw [not_counted_of_status rfl] at hcount
    calc (w.store.insertMeeting (values.draft pk client now) fresh).countedIn room.id +
          lockCount w.roomLock room.id
        = w.promised room.id := by
          rw [hcount]
          rfl
      _ ≤ limit := before
  | joined _ _ _ _ => exact before
  | @operated op row effect stored move =>
    have heffect := Sound.move (w.scene row) (sound.rows row stored) sound.rooms move
    have unsaved := World.promised_unsaved sound stored move hroom hlimit before
    have settled := settle_settled w row.id effect
    generalize w.settle row.id effect = w' at settled
    cases settled with
    | quiet => exact unsaved
    | saved _ _ =>
      exact World.promised_saved holding (awaited row stored) stored heffect.1 move creates fits
        hroom hlimit before
    | unsaved _ => exact unsaved
  | roomEdited _ => cases creates
  | systemPresetEdited => cases creates
  | clientPresetEdited => cases creates

/-- The steps of create requests in which every resuming retry finds a place left. -/
def createsWithin (w : World) (l : Label) : Prop := l.creates = true ∧ retryFits w l = true

instance (w : World) (l : Label) : Decidable (createsWithin w l) :=
  inferInstanceAs (Decidable (_ ∧ _))

theorem reached_promised {store : Store}
    (h : Reachable (restrict createsWithin (World.step cfg)) (World.initial store) w) :
    (∀ id, w.store.room? id = store.room? id) ∧
      ∀ (room : Room) (limit : Nat), store.room? room.id = some room →
        room.providerActiveMeetingLimit = some limit → w.promised room.id ≤ limit := by
  have awaited : ∀ {w : World},
      Reachable (restrict createsWithin (World.step cfg)) (World.initial store) w →
      ∀ m, w.store.meeting? m.id = some m → FlightAwaited m (w.sessions m.id) := by
    intro w h
    exact ((flightAwaited_invariant cfg).mono fun w _ hl => Label.creates_waits hl.1 w).reached h
  induction h with
  | start =>
    refine ⟨fun _ => rfl, ?_⟩
    intro room limit _ _
    exact Nat.zero_le limit
  | @step a b l reached hs ih =>
    obtain ⟨⟨creates, fits⟩, hstep⟩ := restrict_eq_some.mp hs
    obtain ⟨hrooms, hpromised⟩ := ih
    have sound := reached_sound reached.of_restrict
    have holding := reached_holding reached.of_restrict
    have change := step_change hstep
    constructor
    · intro id
      exact (change.room? creates id).trans (hrooms id)
    · intro room limit stored hlimit
      refine change.promised sound holding (awaited reached) creates fits ?_ hlimit
        (hpromised room limit stored hlimit)
      rw [hrooms]
      exact stored

/-- The meetings of the room in one of the statuses the provider cap is about. -/
def Store.activeMeetings (s : Store) (room : RoomId) : Nat :=
  s.meetings.rows.countP fun m => decide (m.room = some room) &&
    decide (m.status ∈ [Status.reserved, .provisioning, .ready, .live, .providerResponseInvalid,
      .providerStateUnknown])

theorem activeMeetings_eq (s : Store) (room : RoomId) :
    s.activeMeetings room = s.countedIn room := by
  refine List.countP_congr ?_
  intro m _
  unfold Meeting.counted
  cases m.status <;> rfl

/-- In every run of create requests in which each retry that resumes its reservation finds
a place left in its room, no room exceeds its provider cap. -/
theorem provider_limit_while_retries_fit {store : Store}
    (reached : Reachable (restrict createsWithin (World.step cfg)) (World.initial store) w)
    {room : Room} (stored : store.room? room.id = some room) {limit : Nat}
    (hlimit : room.providerActiveMeetingLimit = some limit) :
    w.store.activeMeetings room.id ≤ limit := by
  calc w.store.activeMeetings room.id
      = w.store.countedIn room.id := activeMeetings_eq _ _
    _ ≤ w.promised room.id := Nat.le_add_right _ _
    _ ≤ limit := (reached_promised reached).2 room limit stored hlimit

end Runs

/-- The scheduler retries the first meeting while the second one has the only place. -/
def exampleResumed : List Label :=
  exampleShared ++ [.register 1 3 7 (exampleValues "CLS-001" 10) 4, .on 1 (.begin 1)]

def exampleOverbooked : List Label := exampleResumed ++ [.on 1 (.commit 1 5)]

/-- The retry commits PROVISIONING as the room's second counted meeting; its cap is one. -/
theorem retry_exceeds_limit :
    ∃ w, run (World.step exampleSettings) (World.initial exampleStore) exampleOverbooked =
        some w ∧
      exampleOverbooked.all Label.creates = true ∧
      exampleStore.room? exampleRoom.id = some exampleRoom ∧
      exampleRoom.providerActiveMeetingLimit = some 1 ∧
      ¬ w.store.activeMeetings exampleRoom.id ≤ 1 := by
  refine ⟨exampleWorld exampleOverbooked (by decide), exampleWorld_run _, by decide, rfl, rfl, ?_⟩
  decide

/-- Up to that commit every step finds its place, and the cap holds. -/
theorem provider_limit_before_retry :
    ∃ w, Reachable (restrict createsWithin (World.step exampleSettings))
        (World.initial exampleStore) w ∧
      w.store.activeMeetings exampleRoom.id ≤ 1 ∧ retryFits w (.on 1 (.commit 1 5)) = false := by
  have hrun : (run (restrict createsWithin (World.step exampleSettings))
      (World.initial exampleStore) exampleResumed).isSome = true := by decide
  have hlast : ((run (restrict createsWithin (World.step exampleSettings))
      (World.initial exampleStore) exampleResumed).map fun w =>
        retryFits w (.on 1 (.commit 1 5))) = some false := by decide
  obtain ⟨w, hw⟩ := Option.isSome_iff_exists.mp hrun
  rw [hw, Option.map_some] at hlast
  have hreached := reachable_of_run hw
  have hcap := provider_limit_while_retries_fit hreached
    (show exampleStore.room? exampleRoom.id = some exampleRoom from rfl) rfl
  exact ⟨w, hreached, hcap, Option.some.inj hlast⟩

end MeetingGateway
