import MeetingGateway.Creation

/-!
# Coherent rows and immutable requests

In every reachable world the status, the reservation and the provider fields of a row fit
together, and a row answers exactly the requests that agree with the one that created it.
-/

namespace MeetingGateway

open LabelledRuns

/-- The reservation a row holds: a room and a finite half-open range around its times. -/
def Meeting.HoldsSlot (m : Meeting) : Prop :=
  ∃ room start end_ lower upper, m.room = some room ∧ m.startAt = some start ∧
    m.endAt = some end_ ∧ start < end_ ∧
    m.reservation = some (BoundedRange.halfOpen lower upper) ∧ lower ≤ start ∧ end_ ≤ upper

theorem Status.retains_begun {status : Status} (h : status.retains = true) :
    status ≠ .draft ∧ status ≠ .cancelled := by
  constructor
  · rintro rfl
    cases h
  · rintro rfl
    cases h

theorem Booked.holdsSlot {cfg : Settings} {accounts : RoomId → Option String} {m : Meeting}
    {p : Provisioned} (h : Booked cfg accounts m p) : m.HoldsSlot := by
  obtain ⟨start, end_, lower, upper, hstart, hend, hlower, ordered, hupper, hrange⟩ := h.slot
  exact ⟨p.room, start, end_, lower, upper, h.room, hstart, hend, ordered, hrange, hlower, hupper⟩

theorem RowSound.booked_of_active {cfg : Settings} {accounts : RoomId → Option String}
    {m : Meeting} {history : History} (h : RowSound cfg accounts m history)
    (active : m.reservationActive = true) : ∃ p, Booked cfg accounts m p := by
  rw [h.active] at active
  obtain ⟨hdraft, hcancelled⟩ := Status.retains_begun active
  obtain ⟨p, hp⟩ := Option.isSome_iff_exists.mp (h.begun hdraft hcancelled)
  exact ⟨p, h.booked p hp⟩

/-- Status, flag, room, range and provider fields of a committed row fit together. -/
theorem row_coherence {cfg : Settings} {store : Store} {w : World} (reached : Reached cfg store w)
    {m : Meeting} (stored : w.store.meeting? m.id = some m) :
    (m.reservationActive = true ↔ m.status ∈ [Status.reserved, .provisioning, .ready, .live,
      .retryableFailed, .providerResponseInvalid, .providerStateUnknown]) ∧
    (m.reservationActive = true → m.HoldsSlot) ∧
    (m.status = .ready → present m.providerCalendarId = true ∧
      present m.providerPanelAddress = true ∧ m.encryptedProviderStartUrl.isSome = true) := by
  have hrow := ((reached_sound reached).rows m stored).row
  refine ⟨?_, ?_, ?_⟩
  · rw [hrow.active]
    cases m.status <;> decide
  · intro active
    obtain ⟨p, hbooked⟩ := hrow.booked_of_active active
    exact hbooked.holdsSlot
  · intro hready
    have hfilled := hrow.ready hready
    exact ⟨hfilled.calendarId, hfilled.panel, hfilled.startUrl⟩

/-- The ready meeting of the retry. -/
theorem row_coherence_after_retry :
    ∃ m, exampleReady.store.meeting? 1 = some m ∧ m.status = .ready ∧ m.HoldsSlot ∧
      present m.providerCalendarId = true := by
  obtain ⟨m, hid, stored⟩ := exampleReady_row
  have hstatus : (exampleReady.store.meeting? 1).map Meeting.status = some .ready := by decide
  have hcoherent := row_coherence exampleReady_reached stored
  rw [hid] at stored
  have hready : m.status = .ready := by
    rw [stored] at hstatus
    exact Option.some.inj hstatus
  have hactive := hcoherent.1.mpr (by rw [hready]; decide)
  exact ⟨m, stored, hready, hcoherent.2.1 hactive, (hcoherent.2.2 hready).1⟩

section Requests
variable {cfg : Settings} {store : Store} {w : World}

theorem World.Sound.only_row {accounts : RoomId → Option String} (h : w.Sound cfg accounts)
    {m : Meeting} (stored : w.store.meeting? m.id = some m) :
    w.store.meetings.rows.filter (Meeting.keyed m.integrationClient m.externalClassId) = [m] := by
  refine KeyedTable.filter_eq_singleton (KeyedTable.get?_eq_some.mp stored).1
    (keyed_iff.mpr ⟨rfl, rfl⟩) ?_
  intro other hmem hkeyed
  obtain ⟨hclient, hclass⟩ := keyed_iff.mp hkeyed
  exact h.unique other m (KeyedTable.get?_eq_some.mpr ⟨hmem, rfl⟩) stored hclient hclass

/-- A request for a registered class passes exactly if it agrees with the row and its times are
not ambiguous in the service time zone. -/
theorem register_passes_iff (reached : Reached cfg store w) {m : Meeting}
    (stored : w.store.meeting? m.id = some m) {values : CreateValues}
    (sameClass : values.classInfo.id = m.externalClassId) (pk : MeetingId) (now : Int) :
    (∃ result, register w.store pk m.integrationClient values now = .ok result) ↔
      m.identity = values.identity m.integrationClient ∧ values.ambiguous = false := by
  have h := reached_sound reached
  have hkeyed : m.keyed m.integrationClient values.classInfo.id = true :=
    keyed_iff.mpr ⟨rfl, sameClass.symm⟩
  rw [← identity_of_sameRequest hkeyed (h.rows m stored).times]
  simp only [register, sameClass, h.only_row stored]
  by_cases hs : m.sameRequest values = true
  · simp [hs]
  · simp [hs]

/-- What makes requests immutable, for a world and the next request in it. -/
structure ImmutableIdentity (cfg : Settings) (w : World) (r : RequestId) (pk : MeetingId)
    (client : ClientId) (values : CreateValues) (now : Int) : Prop where
  single : ∀ m m', w.store.meeting? m.id = some m → w.store.meeting? m'.id = some m' →
    m.integrationClient = m'.integrationClient → m.externalClassId = m'.externalClassId → m = m'
  created : ∀ m w', register w.store pk client values now = .ok (m, true) →
    World.step cfg w (.register r pk client values now) = some w' →
    w'.store.meeting? m.id = some m ∧ m.identity = values.identity client
  kept : ∀ w', Reachable (World.step cfg) w w' → ∀ m, w.store.meeting? m.id = some m →
    ∃ m', w'.store.meeting? m.id = some m' ∧ m'.identity = m.identity
  passes : ∀ m, w.store.meeting? m.id = some m → m.integrationClient = client →
    m.externalClassId = values.classInfo.id →
    ((∃ result, register w.store pk client values now = .ok result) ↔
      m.identity = values.identity client)
  refused : ∀ e w', register w.store pk client values now = .error e →
    World.step cfg w (.register r pk client values now) = some w' → w'.store = w.store

/-- The request agrees with the row of its class, but one of its times is ambiguous. -/
def World.RefusesItsOwn (w : World) (client : ClientId) (values : CreateValues) : Prop :=
  ∃ m, w.store.meeting? m.id = some m ∧ m.identity = values.identity client ∧
    values.ambiguous = true

end Requests

/-- A class from 2009-12-31T16:30Z to 18:30Z, which starts in the hour that came twice. -/
def exampleRepeatedValues : CreateValues where
  meetingTitle := "Physics"
  teacher := ⟨"T-001", "Teacher"⟩
  batch := ⟨"B-001", "Batch"⟩
  classInfo := ⟨"CLS-001", 733771⟩
  startAt := exampleLocal 1262277000
  endAt := exampleLocal 1262284200
  aware := ⟨rfl, rfl⟩
  ordered := by decide

end MeetingGateway
