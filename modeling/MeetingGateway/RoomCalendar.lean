import Mathlib
import MeetingGateway.Flights
import MeetingGateway.Coherence
import MeetingGateway.StatusFlow
import MeetingGateway.Library.Calendars

/-!
# The gateway refines a calendar

The rows and sessions of the gateway show a calendar: the first PROVISIONING commit grants a
meeting its room for its buffered slot, and the active reservations are the grants in force.
Every step of every run, with whatever operators and late outcomes do, is one action of the
calendar or none. A late error can bring a released grant back, and the exclusion
constraint is what keeps it apart from those made since.
-/

namespace MeetingGateway

open LabelledRuns Calendars Simulations

/-- The reservation of the meeting, in a room. -/
def Meeting.booking (m : Meeting) (room : RoomId) : Option (Booking RoomId Int) :=
  m.reservation.map fun slot => ⟨room, slot.points⟩

/-- What the first PROVISIONING commit of a meeting granted. -/
def World.bookingOf (w : World) (pk : MeetingId) : Option (Booking RoomId Int) :=
  (w.store.meeting? pk).bind fun m =>
    (w.sessions pk).history.provisioned.bind fun p => m.booking p.room

def World.isActive (w : World) (pk : MeetingId) : Prop :=
  ∃ m, w.store.meeting? pk = some m ∧ m.reservationActive = true

structure World.Shows (w : World) (c : Calendar MeetingId RoomId Int) : Prop where
  granted : c.granted = w.bookingOf
  active : ∀ pk, pk ∈ c.active ↔ w.isActive pk

section Bookings
variable {cfg : Settings} {accounts : RoomId → Option String}

/-- A booked row holds what it was granted. -/
theorem Booked.booking {m : Meeting} {p : Provisioned} (h : Booked cfg accounts m p) :
    ∃ lower upper, lower < upper ∧ m.room = some p.room ∧
      m.reservation = some (BoundedRange.halfOpen lower upper) ∧
      m.booking p.room = some ⟨p.room, Set.Ico lower upper⟩ := by
  obtain ⟨_, _, lower, upper, _, _, hlower, ordered, hupper, hslot⟩ := h.slot
  refine ⟨lower, upper, by omega, h.room, hslot, ?_⟩
  simp [Meeting.booking, hslot]

/-- Rows that do not exclude each other hold disjoint times of a room. -/
theorem disjoint_of_not_excludes {m other : Meeting} {p q : Provisioned}
    (booked : Booked cfg accounts m p) (booked' : Booked cfg accounts other q)
    (active : m.reservationActive = true) (active' : other.reservationActive = true)
    (free : other.excludes m = false) (same : q.room = p.room) {b b' : Booking RoomId Int}
    (hb : m.booking p.room = some b) (hb' : other.booking q.room = some b') :
    Disjoint b'.times b.times := by
  obtain ⟨lower, upper, wide, hroom, hslot, hbooking⟩ := booked.booking
  obtain ⟨lower', upper', wide', hroom', hslot', hbooking'⟩ := booked'.booking
  cases hbooking.symm.trans hb
  cases hbooking'.symm.trans hb'
  have apart : (BoundedRange.halfOpen lower' upper').overlaps
      (BoundedRange.halfOpen lower upper) = false := by
    simpa [Meeting.excludes, Meeting.blocks, active, active', hroom, hroom', hslot, hslot', same]
      using free
  rw [Set.disjoint_iff_inter_eq_empty, ← Set.not_nonempty_iff_eq_empty,
    ← BoundedRange.overlaps_halfOpen_iff_meet wide' wide, apart]
  exact Bool.false_ne_true

end Bookings

section Steps
variable {cfg : Settings} {accounts : RoomId → Option String} {w w' : World}
variable {c : Calendar MeetingId RoomId Int}

theorem World.Shows.congr (h : w.Shows c) (same : ∀ pk, w'.bookingOf pk = w.bookingOf pk)
    (active : ∀ pk, w'.isActive pk ↔ w.isActive pk) : w'.Shows c where
  granted := by
    rw [h.granted]
    exact (funext same).symm
  active := fun pk => (h.active pk).trans (active pk).symm

/-- A step that leaves the rows and the histories as they are. -/
theorem World.Shows.kept (h : w.Shows c)
    (rows : ∀ pk, w'.store.meeting? pk = w.store.meeting? pk)
    (histories : ∀ pk, (w'.sessions pk).history = (w.sessions pk).history) : w'.Shows c := by
  refine h.congr ?_ ?_
  · intro pk
    simp only [World.bookingOf, rows, histories]
  · intro pk
    simp only [World.isActive, rows]

/-- Only a commit that makes the row active grants anything. -/
theorem Move.grants_nothing {sc : Scene} {op : Operation} {row : Meeting} {done failed : Session}
    (move : Move cfg sc op (.write row done failed))
    (sound : MeetingGateway.Sound cfg accounts row done)
    (inactive : row.reservationActive = false) :
    done.history.provisioned = sc.session.history.provisioned := by
  cases move with
  | provision _ _ _ _ _ =>
    have active := sound.row.active
    rw [inactive] at active
    cases active
  | failure _ _ _ => rfl
  | success _ _ _ _ _ => rfl
  | upkeep _ hup => cases hup <;> rfl

/-- A row that was granted something keeps its slot. -/
theorem Move.keeps_slot {sc : Scene} {op : Operation} {row : Meeting} {done failed : Session}
    (move : Move cfg sc op (.write row done failed))
    (sound : MeetingGateway.Sound cfg accounts sc.row sc.session) {p : Provisioned}
    (provisioned : sc.session.history.provisioned = some p) :
    row.reservation = sc.row.reservation := by
  cases move with
  | @provision r v reserved retrying now config type chosen flight hrequest _ _ _ _ =>
    have hphase : Pending cfg sc.row v reserved retrying := (sound.requests _ _ hrequest).phase
    rcases hphase with ⟨draft, _⟩ | ⟨_, _, rfl⟩
    · rw [sound.row.fresh draft] at provisioned
      cases provisioned
    · rfl
  | failure _ _ _ => exact recordFailure_reservation _ _ _
  | success _ _ _ _ _ => rfl
  | upkeep _ hup => cases hup <;> rfl

/-- A row that is not granted anything yet is not active. -/
theorem World.Sound.granted_of_active (sound : w.Sound cfg accounts) {m : Meeting}
    (stored : w.store.meeting? m.id = some m) (active : m.reservationActive = true) :
    ∃ p, (w.sessions m.id).history.provisioned = some p ∧ Booked cfg accounts m p := by
  have hrow := (sound.rows m stored).row
  rw [hrow.active] at active
  obtain ⟨hdraft, hcancelled⟩ := Status.retains_begun active
  obtain ⟨p, hp⟩ := Option.isSome_iff_exists.mp (hrow.begun hdraft hcancelled)
  exact ⟨p, hp, hrow.booked p hp⟩

theorem World.bookingOf_stored {m : Meeting} {p : Provisioned}
    (stored : w.store.meeting? m.id = some m)
    (provisioned : (w.sessions m.id).history.provisioned = some p) :
    w.bookingOf m.id = m.booking p.room := by
  simp [World.bookingOf, stored, provisioned]

/-- A row that is saved as active finds its times free. -/
theorem free_of_saved (sound : w.Sound cfg accounts) (shows_ : w.Shows c) {row : Meeting}
    {p : Provisioned} (booked : Booked cfg accounts row p) (active : row.reservationActive = true)
    (free : w.store.excluded row = false) {b : Booking RoomId Int}
    (hb : row.booking p.room = some b) : c.Free row.id b := by
  intro pk hactive hne b' hb' same
  obtain ⟨m, stored, active'⟩ := (shows_.active pk).mp hactive
  have hid : m.id = pk := Store.meeting?_id stored
  subst hid
  obtain ⟨q, provisioned, booked'⟩ := sound.granted_of_active stored active'
  rw [shows_.granted, World.bookingOf_stored stored provisioned] at hb'
  have hmem : m ∈ w.store.meetings.rows := (KeyedTable.get?_eq_some.mp stored).1
  have apart := Store.excluded_eq_false.mp free m hmem hne
  have hroom : q.room = p.room := by
    obtain ⟨_, _, _, _, _, hbooking⟩ := booked.booking
    obtain ⟨_, _, _, _, _, hbooking'⟩ := booked'.booking
    cases hbooking.symm.trans hb
    cases hbooking'.symm.trans hb'
    exact same
  exact disjoint_of_not_excludes booked booked' active active' apart hroom hb hb'

/-- A save of one row, seen from the calendar. -/
structure SavesRow (w w' : World) (row row' : Meeting) : Prop where
  stored : w.store.meeting? row.id = some row
  saved : w'.store.meeting? row.id = some row'
  sameId : row'.id = row.id
  slot : ∀ p, (w.sessions row.id).history.provisioned = some p →
    row'.reservation = row.reservation
  rows : ∀ pk, pk ≠ row.id → w'.store.meeting? pk = w.store.meeting? pk
  sessions : ∀ pk, pk ≠ row.id → w'.sessions pk = w.sessions pk

namespace SavesRow
variable {row row' : Meeting}

theorem bookingOf_other (h : SavesRow w w' row row') {pk : MeetingId} (hne : pk ≠ row.id) :
    w'.bookingOf pk = w.bookingOf pk := by
  simp only [World.bookingOf, h.rows pk hne, h.sessions pk hne]

theorem isActive_other (h : SavesRow w w' row row') {pk : MeetingId} (hne : pk ≠ row.id) :
    w'.isActive pk ↔ w.isActive pk := by
  simp only [World.isActive, h.rows pk hne]

theorem isActive_before (h : SavesRow w w' row row') :
    w.isActive row.id ↔ row.reservationActive = true := by
  simp [World.isActive, h.stored]

theorem isActive_after (h : SavesRow w w' row row') :
    w'.isActive row.id ↔ row'.reservationActive = true := by
  simp [World.isActive, h.saved]

/-- A grant that stays in the history is shown by both worlds. -/
theorem bookingOf_same (h : SavesRow w w' row row') (same :
    (w'.sessions row.id).history.provisioned = (w.sessions row.id).history.provisioned) :
    ∀ pk, w'.bookingOf pk = w.bookingOf pk := by
  intro pk
  by_cases he : pk = row.id
  · subst he
    cases hp : (w.sessions row.id).history.provisioned with
    | none => simp [World.bookingOf, h.stored, h.saved, same, hp]
    | some p => simp [World.bookingOf, h.stored, h.saved, same, hp, Meeting.booking, h.slot p hp]
  · exact h.bookingOf_other he

/-- The row becomes or stays active: it is granted, restored or left as it is. -/
theorem shows_active (h : SavesRow w w' row row') (sound : w.Sound cfg accounts)
    (sound' : w'.Sound cfg accounts) (grows : w.Extends w') (shows_ : w.Shows c)
    (free : w.store.excluded row' = false) (active : row'.reservationActive = true) :
    ∃ c', w'.Shows c' ∧ (c' = c ∨ ∃ action, Step c action c') := by
  have saved : w'.store.meeting? row'.id = some row' := by
    rw [h.sameId]
    exact h.saved
  obtain ⟨p, provisioned, booked⟩ := sound'.granted_of_active saved active
  obtain ⟨lower, upper, _, _, _, hbooking⟩ := booked.booking
  have after : w'.bookingOf row.id = some ⟨p.room, Set.Ico lower upper⟩ := by
    rw [← h.sameId, World.bookingOf_stored saved provisioned]
    exact hbooking
  have hfree := free_of_saved sound shows_ booked active free hbooking
  rw [h.sameId] at hfree provisioned
  have put : w'.Shows (c.put row.id ⟨p.room, Set.Ico lower upper⟩ hfree) := by
    constructor
    · funext pk
      show Function.update c.granted row.id _ pk = _
      by_cases he : pk = row.id
      · subst he
        rw [Function.update_self, after]
      · rw [Function.update_of_ne he, h.bookingOf_other he, shows_.granted]
    · intro pk
      show pk = row.id ∨ pk ∈ c.active ↔ _
      by_cases he : pk = row.id
      · subst he
        simp [h.isActive_after, active]
      · rw [h.isActive_other he, ← shows_.active]
        simp [he]
  cases before : (w.sessions row.id).history.provisioned with
  | none =>
    have new : c.granted row.id = none := by
      rw [shows_.granted]
      simp [World.bookingOf, h.stored, before]
    exact ⟨_, put, Or.inr ⟨_, Calendar.step_grant new hfree⟩⟩
  | some q =>
    obtain ⟨_, _, _, kept⟩ := grows row h.stored
    have same := kept.provisioned q before
    have old : c.granted row.id = some ⟨p.room, Set.Ico lower upper⟩ := by
      rw [shows_.granted, ← after]
      exact (h.bookingOf_same (same.trans before.symm) row.id).symm
    by_cases held : row.reservationActive = true
    · refine ⟨c, shows_.congr (h.bookingOf_same (same.trans before.symm)) ?_, Or.inl rfl⟩
      intro pk
      by_cases he : pk = row.id
      · subst he
        simp [h.isActive_before, h.isActive_after, active, held]
      · exact h.isActive_other he
    · have out : row.id ∉ c.active := by
        rw [shows_.active, h.isActive_before]
        exact held
      exact ⟨_, put, Or.inr ⟨_, Calendar.step_restore out old hfree⟩⟩

/-- The row is saved without a reservation: it is released or was not active. -/
theorem shows_inactive (h : SavesRow w w' row row') (shows_ : w.Shows c)
    (same : (w'.sessions row.id).history.provisioned = (w.sessions row.id).history.provisioned)
    (inactive : row'.reservationActive = false) :
    ∃ c', w'.Shows c' ∧ (c' = c ∨ ∃ action, Step c action c') := by
  by_cases held : row.reservationActive = true
  · have hactive : row.id ∈ c.active := (shows_.active row.id).mpr (h.isActive_before.mpr held)
    refine ⟨c.remove row.id, ⟨?_, ?_⟩, Or.inr ⟨_, Calendar.step_release hactive⟩⟩
    · show c.granted = _
      rw [shows_.granted]
      exact (funext (h.bookingOf_same same)).symm
    · intro pk
      show pk ∈ c.active ∧ pk ≠ row.id ↔ _
      by_cases he : pk = row.id
      · subst he
        simp [h.isActive_after, inactive]
      · rw [h.isActive_other he, ← shows_.active]
        simp [he]
  · refine ⟨c, shows_.congr (h.bookingOf_same same) ?_, Or.inl rfl⟩
    intro pk
    by_cases he : pk = row.id
    · subst he
      simp [h.isActive_before, h.isActive_after, inactive, held]
    · exact h.isActive_other he

end SavesRow

/-- Every step of the gateway is one action of the calendar or none. -/
theorem step_shows {store : Store} (reached : Reached cfg store w) (shows_ : w.Shows c)
    {l : Label} (h : World.step cfg w l = some w') :
    ∃ c', w'.Shows c' ∧ (c' = c ∨ ∃ action, Step c action c') := by
  have sound := reached_sound reached
  have sound' := reached_sound (reached.step h)
  have change := step_change h
  have grows := World.Extends.change sound change
  have stays : (∀ pk, w'.store.meeting? pk = w.store.meeting? pk) →
      (∀ pk, (w'.sessions pk).history = (w.sessions pk).history) →
      ∃ c', w'.Shows c' ∧ (c' = c ∨ ∃ action, Step c action c') :=
    fun rows histories => ⟨c, shows_.kept rows histories, Or.inl rfl⟩
  have updated : ∀ {pk' : MeetingId} {t : Session}, t.history = (w.sessions pk').history →
      ∀ pk, (Function.update w.sessions pk' t pk).history = (w.sessions pk).history := by
    intro pk' t same pk
    by_cases he : pk = pk'
    · subst he
      rw [Function.update_self, same]
    · rw [Function.update_of_ne he]
  cases change with
  | refused _ => exact stays (fun _ => rfl) fun _ => rfl
  | @created r pk client values now fresh _ =>
    have new : (w.store.insertMeeting (values.draft pk client now) fresh).meeting? pk =
        some (values.draft pk client now) := Store.meeting?_insert_self fresh
    have others : ∀ pk', pk' ≠ pk → (w.store.insertMeeting (values.draft pk client now)
        fresh).meeting? pk' = w.store.meeting? pk' :=
      fun pk' hne => Store.meeting?_insert_of_ne fresh hne
    have inactive : (values.draft pk client now).reservationActive = false := rfl
    refine ⟨c, shows_.congr ?_ ?_, Or.inl rfl⟩
    · intro pk'
      by_cases he : pk' = pk
      · subst he
        simp [World.bookingOf, new, fresh, Session.opened]
      · simp [World.bookingOf, others pk' he, Function.update_of_ne he]
    · intro pk'
      by_cases he : pk' = pk
      · subst he
        simp [World.isActive, new, fresh, inactive]
      · simp [World.isActive, others pk' he]
  | joined _ _ _ _ => exact stays (fun _ => rfl) (updated rfl)
  | @operated op row effect stored move =>
    have hsound := Sound.move (w.scene row) (sound.rows row stored) sound.rooms move
    have settled := settle_settled w row.id effect
    generalize w.settle row.id effect = w' at settled sound' grows stays
    cases settled with
    | quiet => exact stays (fun _ => rfl) (updated move.quiet_history)
    | @saved row' done failed hc he =>
      have hid : row'.id = row.id := hsound.1
      have saves : SavesRow w { w with
          store := w.store.putMeeting row'
          sessions := Function.update w.sessions row.id done
          roomLock := releaseRooms w.roomLock row.id } row row' := by
        refine ⟨stored, ?_, hid, fun p hp => move.keeps_slot (sound.rows row stored) hp, ?_, ?_⟩
        · rw [← hid]
          exact Store.meeting?_putMeeting_self (by rw [hid]; exact stored)
        · intro pk hne
          exact Store.meeting?_putMeeting_of_ne (by rw [hid]; exact hne)
        · intro pk hne
          exact Function.update_of_ne hne ..
      cases active : row'.reservationActive with
      | true => exact saves.shows_active sound sound' grows shows_ he active
      | false =>
        refine saves.shows_inactive shows_ ?_ active
        show (Function.update w.sessions row.id done row.id).history.provisioned = _
        rw [Function.update_self]
        exact move.grants_nothing hsound.2.2.1 active
    | unsaved _ => exact stays (fun _ => rfl) (updated move.failed_history)
  | roomEdited _ => exact stays (fun _ => rfl) fun _ => rfl
  | systemPresetEdited => exact stays (fun _ => rfl) fun _ => rfl
  | clientPresetEdited => exact stays (fun _ => rfl) fun _ => rfl

theorem shows_initial (store : Store) :
    (World.initial store).Shows Calendar.empty where
  granted := rfl
  active := by
    intro pk
    constructor
    · exact fun h => h.elim
    · rintro ⟨m, hm, _⟩
      cases hm

/-- An active row holds the room and the times of its grant. -/
theorem row_holds_grant (sound : w.Sound cfg accounts) (shows_ : w.Shows c) {m : Meeting}
    (stored : w.store.meeting? m.id = some m) (active : m.reservationActive = true) :
    m.id ∈ c.active ∧ ∃ room lower upper, m.room = some room ∧
      m.reservation = some (BoundedRange.halfOpen lower upper) ∧
      c.granted m.id = some ⟨room, Set.Ico lower upper⟩ := by
  obtain ⟨p, provisioned, booked⟩ := sound.granted_of_active stored active
  obtain ⟨lower, upper, _, hroom, hslot, hbooking⟩ := booked.booking
  refine ⟨(shows_.active m.id).mpr ⟨m, stored, active⟩, p.room, lower, upper, hroom, hslot, ?_⟩
  rw [shows_.granted, World.bookingOf_stored stored provisioned]
  exact hbooking

theorem reached_shows {store : Store} (reached : Reached cfg store w) :
    ∃ c, w.Shows c := by
  induction reached with
  | start => exact ⟨_, shows_initial store⟩
  | step before hs ih =>
    obtain ⟨c, shows_⟩ := ih
    obtain ⟨c', shows', _⟩ := step_shows before shows_ hs
    exact ⟨c', shows'⟩

/-- Every run of the gateway is a path of the calendar, and its active reservations are the
grants in force. -/
theorem gateway_refines_calendar {store : Store} {labels : List Label}
    (h : run (World.step cfg) (World.initial store) labels = some w) :
    ∃ actions c, Path Step Calendar.empty actions c ∧ actions.length ≤ labels.length ∧
      w.Shows c ∧ ∀ m, w.store.meeting? m.id = some m → m.reservationActive = true →
        m.id ∈ c.active ∧ ∃ room lower upper, m.room = some room ∧
          m.reservation = some (BoundedRange.halfOpen lower upper) ∧
          c.granted m.id = some ⟨room, Set.Ico lower upper⟩ := by
  obtain ⟨actions, c, path, shows_, short⟩ := path_of_run h (shows_initial store)
    fun _ _ _ _ reached shows_ hs => step_shows reached shows_ hs
  have sound := reached_sound (reachable_of_run h)
  exact ⟨actions, c, path, short, shows_, fun m stored active =>
    row_holds_grant sound shows_ stored active⟩

end Steps

/-- The late error of a call restores the grant of the meeting whose end was confirmed. -/
def exampleRestored : List Label :=
  exampleDecided ++ [Label.on 1 (.receive 0 (.failed .connectError false)),
    Label.on 1 (.finish 0 (13 * minuteMicroseconds))]

theorem restored_grant_refines :
    ∃ w actions c, run (World.step exampleSettings) (World.initial exampleStore) exampleRestored =
        some w ∧ Path Step Calendar.empty actions c ∧ actions.length ≤ exampleRestored.length ∧
      w.Shows c ∧ 1 ∈ c.active := by
  have hrun : ((run (World.step exampleSettings) (World.initial exampleStore)
      exampleRestored).bind fun w => (w.store.meeting? 1).map Meeting.reservationActive) =
      some true := by decide
  obtain ⟨w, hw, hactive⟩ := Option.bind_eq_some_iff.mp hrun
  obtain ⟨m, hm, active⟩ := Option.map_eq_some_iff.mp hactive
  have hid : m.id = 1 := Store.meeting?_id hm
  obtain ⟨actions, c, path, short, shows_, held⟩ := gateway_refines_calendar hw
  refine ⟨w, actions, c, hw, path, short, shows_, ?_⟩
  rw [← hid]
  exact (held m (by rw [hid]; exact hm) active).1

end MeetingGateway
