import MeetingGateway.Bookings
import MeetingGateway.RoomCalendar

/-!
# No reservation is stuck

From every world the gateway can get into, at most three moves that never call the provider
release a meeting's reservation for good: the request at work dies, a run of the task flags
the stale rows, and an operator cancels the meeting or confirms its end. The saves on the
way cannot be refused, because a row that keeps its room and slot keeps apart from all
others. Once no request is at work, nothing brings the reservation back.
-/

namespace MeetingGateway

open LabelledRuns Calendars

section Saves
variable {cfg : Settings} {accounts : RoomId → Option String} {w : World} {store : Store}

/-- A row with the room, slot and times of another one, and no reservation that one has not. -/
structure KeepsSlot (m row : Meeting) : Prop where
  sameId : row.id = m.id
  identity : row.identity = m.identity
  room : row.room = m.room
  reservation : row.reservation = m.reservation
  active : row.reservationActive = true → m.reservationActive = true

theorem KeepsSlot.holds {m row : Meeting} (h : KeepsSlot m row) {room : RoomId}
    {slot : BoundedRange Int} (held : row.Holds room slot) : m.Holds room slot :=
  ⟨h.active held.1, h.room.symm.trans held.2.1, h.reservation.symm.trans held.2.2⟩

theorem positive_of_identity {m row : Meeting} (h : m.positiveMeetingInterval = true)
    (identity : row.identity = m.identity) : row.positiveMeetingInterval = true := by
  have hstart : row.startAt = m.startAt := congrArg Identity.startAt identity
  have hend : row.endAt = m.endAt := congrArg Identity.endAt identity
  simpa [Meeting.positiveMeetingInterval, hstart, hend] using h

/-- No stored row ends before it starts. -/
theorem positive_invariant (cfg : Settings) : RowInvariant cfg (fun _ _ => True)
    fun m _ => m.positiveMeetingInterval = true where
  opened := by
    intro values pk client r now checks
    simp only [Meeting.checks, Bool.and_eq_true] at checks
    exact checks.1.2
  joined := by
    intro m s r values h
    exact h
  moved := by
    intro accounts w row op effect m s stored sound h _ move outcome
    have hsound : MeetingGateway.Sound cfg accounts (w.scene row).row (w.scene row).session := sound
    have same : m.identity = row.identity := outcome.identity move hsound
    exact positive_of_identity h same

theorem checks_of_holdsSlot {row : Meeting} (holds : row.HoldsSlot) : row.checks = true := by
  obtain ⟨room, start, end_, lower, upper, hroom, hstart, hend, hlt, hslot, hlo, hhi⟩ := holds
  have wide : lower < upper := by omega
  have nonempty := BoundedRange.isEmpty_halfOpen.mpr wide
  have complete : row.activeReservationComplete = true := by
    simp [Meeting.activeReservationComplete, hroom, hslot, hstart, hend]
  have positive : row.positiveMeetingInterval = true := by
    simp [Meeting.positiveMeetingInterval, hstart, hend, hlt]
  have valid : row.reservationRangeValid = true := by
    simp only [BoundedRange.halfOpen] at nonempty hslot
    rw [Meeting.reservationRangeValid, hslot]
    simp [nonempty, hstart, hend, hlo, hhi]
  simp [Meeting.checks, complete, positive, valid]

theorem KeepsSlot.checks {m row : Meeting} (h : KeepsSlot m row) (reached : Reached cfg store w)
    (stored : w.store.meeting? m.id = some m) : row.checks = true := by
  have sound := reached_sound reached
  cases active : row.reservationActive with
  | true =>
    obtain ⟨p, _, booked⟩ := sound.granted_of_active stored (h.active active)
    obtain ⟨room, start, end_, lower, upper, hroom, hstart, hend, hrest⟩ := booked.holdsSlot
    have hstart' : row.startAt = some start := (congrArg Identity.startAt h.identity).trans hstart
    have hend' : row.endAt = some end_ := (congrArg Identity.endAt h.identity).trans hend
    refine checks_of_holdsSlot ⟨room, start, end_, lower, upper, h.room.trans hroom, hstart',
      hend', hrest.1, ?_, hrest.2.2⟩
    exact h.reservation.trans hrest.2.1
  | false =>
    have positive :=
      positive_of_identity ((positive_invariant cfg).always reached m stored) h.identity
    simp [Meeting.checks, Meeting.activeReservationComplete, Meeting.reservationRangeValid, active,
      positive]

/-- A row that keeps its slot, or gives it up, is never refused. -/
theorem KeepsSlot.save {m row : Meeting} (h : KeepsSlot m row) (reached : Reached cfg store w)
    (stored : w.store.meeting? m.id = some m) :
    w.store.save row = .ok (w.store.putMeeting row) := by
  have sound := reached_sound reached
  obtain ⟨c, shows_⟩ := reached_shows reached
  refine Store.save_of_not_excluded (h.checks reached stored) (Store.excluded_eq_false.mpr ?_)
  intro other hmem hne
  by_contra hexcludes
  obtain ⟨room, slot, slot', held, held', hoverlaps⟩ := holds_of_excludes (by simpa using hexcludes)
  have mine := h.holds held
  have hother : w.store.meeting? other.id = some other := KeyedTable.get?_eq_some.mpr ⟨hmem, rfl⟩
  obtain ⟨hactive, room₁, lo, hi, hroom, hslot, hgrant⟩ :=
    row_holds_grant sound shows_ stored mine.1
  obtain ⟨hactive', room₂, lo', hi', hroom', hslot', hgrant'⟩ :=
    row_holds_grant sound shows_ hother held'.1
  cases mine.2.1.symm.trans hroom
  cases held'.2.1.symm.trans hroom'
  have hdistinct : other.id ≠ m.id := by
    rw [← h.sameId]
    exact hne
  have apart : Disjoint (Set.Ico lo' hi') (Set.Ico lo hi) :=
    c.apart other.id hactive' m.id hactive hdistinct _ _ hgrant' hgrant rfl
  have wide := (sound.granted_of_active stored mine.1)
  obtain ⟨p, _, booked⟩ := wide
  obtain ⟨lower, upper, hlt, _, hres, _⟩ := booked.booking
  obtain ⟨q, _, booked'⟩ := sound.granted_of_active hother held'.1
  obtain ⟨lower', upper', hlt', _, hres', _⟩ := booked'.booking
  have hslot₁ : slot = BoundedRange.halfOpen lo hi := Option.some.inj (mine.2.2.symm.trans hslot)
  have hslot₂ : slot' = BoundedRange.halfOpen lo' hi' :=
    Option.some.inj (held'.2.2.symm.trans hslot')
  cases hres.symm.trans hslot
  cases hres'.symm.trans hslot'
  rw [hslot₁, hslot₂, BoundedRange.overlaps_halfOpen_iff_meet hlt' hlt] at hoverlaps
  obtain ⟨time, hin', hin⟩ := hoverlaps
  exact Set.disjoint_left.mp apart hin' hin

end Saves

/-- What takes a meeting out of service without calling the provider. -/
inductive Winding where
  | die (r : RequestId)
  | flagStale (now : Int)
  | cancel (now : Int)
  | confirmEnded (now : Int)

/-- The rows one run of the task flags: those that are stale and that no transaction holds. -/
def World.staleRows (w : World) (now : Int) : List Meeting :=
  w.store.meetings.rows.filter fun m =>
    (flagStaleProvisioning m now).isSome && (w.sessions m.id).lock.isNone

/-- The steps of a move; the task flags all its rows in one transaction. -/
def Winding.labels (w : World) (pk : MeetingId) : Winding → List Label
  | .die r => [.on pk (.die r)]
  | .flagStale now => (w.staleRows now).map fun m => .on m.id (.sweep now)
  | .cancel now => [.on pk (.cancel now)]
  | .confirmEnded now => [.on pk (.confirmEnded now)]

def wind (cfg : Settings) (pk : MeetingId) (w : World) (winding : Winding) : Option World :=
  run (World.step cfg) w (winding.labels w pk)

/-- The meeting is as it was, but for the flag of a stale creation. -/
structure Undisturbed (w w' : World) (pk : MeetingId) : Prop where
  session : w'.sessions pk = w.sessions pk
  row : w'.store.meeting? pk = w.store.meeting? pk ∨ ∃ m now flagged,
    w.store.meeting? pk = some m ∧ flagStaleProvisioning m now = some flagged ∧
      w'.store.meeting? pk = some flagged

/-- No request has a transaction open or calls the provider. -/
structure Session.Idle (s : Session) : Prop where
  free : s.lock = none
  registered : ∀ r q, s.requests r = some q → q.phase = .registered

/-- The meeting is over and holds no room, and no request is at work on it. -/
structure Released (m : Meeting) (s : Session) : Prop where
  final : m.status = .ended ∨ m.status = .cancelled
  inactive : m.reservationActive = false
  idle : s.Idle

/-- What is left of the way: at most `n` moves that wind the meeting up and leave every other
meeting as it is, or flagged. -/
def World.Releasable (cfg : Settings) (w : World) (pk : MeetingId) (n : Nat) : Prop :=
  ∃ windings w' m', run (wind cfg pk) w windings = some w' ∧ windings.length ≤ n ∧
    w'.store.meeting? pk = some m' ∧ Released m' (w'.sessions pk) ∧
    ∀ pk', pk' ≠ pk → Undisturbed w w' pk'

section Steps
variable {cfg : Settings} {w w' w'' : World} {pk : MeetingId}

/-- A row that was flagged is not flagged again. -/
theorem Undisturbed.trans (h : Undisturbed w w' pk) (h' : Undisturbed w' w'' pk) :
    Undisturbed w w'' pk := by
  refine ⟨h'.session.trans h.session, ?_⟩
  rcases h.row with same | ⟨m, now, flagged, stored, hflag, stored'⟩
  · rw [← same]
    exact h'.row
  · right
    rcases h'.row with same' | ⟨m', now', flagged', again, hflag', _⟩
    · exact ⟨m, now, flagged, stored, hflag, same'.trans stored'⟩
    · rw [stored'] at again
      cases again
      obtain ⟨provisioning, _⟩ := flagStaleProvisioning_some hflag'
      obtain ⟨_, rfl⟩ := flagStaleProvisioning_some hflag
      cases provisioning

theorem wind_reachable (h : Reachable (wind cfg pk) w w') : Reachable (World.step cfg) w w' := by
  induction h with
  | start => exact .start
  | step _ moved ih => exact ih.trans (reachable_of_run moved)

theorem World.Releasable.mono {n k : Nat} (h : w.Releasable cfg pk n) (le : n ≤ k) :
    w.Releasable cfg pk k := by
  obtain ⟨windings, w', m', hrun, short, rest⟩ := h
  exact ⟨windings, w', m', hrun, by omega, rest⟩

/-- One move more. -/
theorem World.Releasable.cons {n : Nat} {winding : Winding}
    (moved : wind cfg pk w winding = some w') (others : ∀ pk', pk' ≠ pk → Undisturbed w w' pk')
    (h : w'.Releasable cfg pk n) : w.Releasable cfg pk (n + 1) := by
  obtain ⟨windings, w'', m', hrun, short, hm', released, same⟩ := h
  refine ⟨winding :: windings, w'', m', ?_, ?_, hm', released, ?_⟩
  · simp only [run, moved, Option.bind_some]
    exact hrun
  · simp only [List.length_cons]
    omega
  · intro pk' hne
    exact (others pk' hne).trans (same pk' hne)

/-- A move of one step. -/
theorem run_single {l : Label} (h : World.step cfg w l = some w') :
    run (World.step cfg) w [l] = some w' := by
  simp only [run, h, Option.bind_some]

theorem releasable_of_released {m : Meeting} (stored : w.store.meeting? pk = some m)
    (released : Released m (w.sessions pk)) : w.Releasable cfg pk 0 :=
  ⟨[], w, m, rfl, Nat.le_refl 0, stored, released, fun _ _ => ⟨rfl, Or.inl rfl⟩⟩

/-- A save from outside the requests goes through on a row whose lock is free. -/
theorem winding_save {store : Store} {m row : Meeting} {op : Operation} {done : Session}
    (reached : Reached cfg store w) (stored : w.store.meeting? m.id = some m)
    (keeps : KeepsSlot m row)
    (effect : (w.scene m).operate cfg op = some (.write row done (w.sessions m.id))) :
    ∃ w', World.step cfg w (.on m.id op) = some w' ∧ w'.store.meeting? m.id = some row ∧
      w'.sessions m.id = done ∧ ∀ pk', pk' ≠ m.id →
        w'.store.meeting? pk' = w.store.meeting? pk' ∧ w'.sessions pk' = w.sessions pk' := by
  have hsave := keeps.save reached stored
  refine ⟨w.settle m.id (.write row done (w.sessions m.id)), ?_, ?_, ?_, ?_⟩
  · simp only [World.step, stored, effect, Option.map_some]
  · simp only [World.settle, hsave]
    rw [← keeps.sameId]
    exact Store.meeting?_putMeeting_self (by rw [keeps.sameId]; exact stored)
  · simp only [World.settle, hsave, Function.update_self]
  · intro pk' hne
    simp only [World.settle, hsave]
    exact ⟨Store.meeting?_putMeeting_of_ne (by rw [keeps.sameId]; exact hne),
      Function.update_of_ne hne ..⟩

theorem keeps_inactive {m row : Meeting} (sameId : row.id = m.id)
    (identity : row.identity = m.identity) (room : row.room = m.room)
    (reservation : row.reservation = m.reservation) (inactive : row.reservationActive = false) :
    KeepsSlot m row :=
  ⟨sameId, identity, room, reservation, fun active => by rw [inactive] at active; cases active⟩

/-- An operator confirms the end of a meeting that is out of the requests' hands. -/
theorem releasable_confirmed {store : Store} {m : Meeting} (reached : Reached cfg store w)
    (stored : w.store.meeting? m.id = some m) (idle : (w.sessions m.id).Idle)
    (confirmable : m.status.confirmable = true) : w.Releasable cfg m.id 1 := by
  have keeps : KeepsSlot m (m.toEnded 0) := keeps_inactive rfl rfl rfl rfl rfl
  have effect : (w.scene m).operate cfg (.confirmEnded 0) = some (.write (m.toEnded 0)
      (w.sessions m.id).recordConfirmed (w.sessions m.id)) := by
    simp [Scene.operate, Scene.save, World.scene, idle.free, confirmProviderEnded, confirmable]
  obtain ⟨w', hstep, hrow, hsession, others⟩ := winding_save reached stored keeps effect
  have idle' : (w'.sessions m.id).Idle := by
    rw [hsession]
    exact ⟨idle.free, idle.registered⟩
  have moved : wind cfg m.id w (.confirmEnded 0) = some w' := run_single hstep
  exact .cons moved (fun pk hne => ⟨(others pk hne).2, Or.inl (others pk hne).1⟩)
    (releasable_of_released hrow ⟨Or.inl rfl, rfl, idle'⟩)

/-- A cancellation ends a meeting that has no provider outcome. -/
theorem releasable_cancelled {store : Store} {m : Meeting} (reached : Reached cfg store w)
    (stored : w.store.meeting? m.id = some m) (idle : (w.sessions m.id).Idle)
    (cancellable : m.status.cancellable = true) : w.Releasable cfg m.id 1 := by
  have keeps : KeepsSlot m (m.toCancelled 0) := keeps_inactive rfl rfl rfl rfl rfl
  have hstatus : m.status ≠ .cancelled := by
    intro hs
    rw [hs] at cancellable
    cases cancellable
  have effect : (w.scene m).operate cfg (.cancel 0) = some (.write (m.toCancelled 0)
      (w.sessions m.id) (w.sessions m.id)) := by
    simp [Scene.operate, Scene.save, World.scene, idle.free, Meeting.cancel, hstatus, cancellable,
      Except.toOption]
  obtain ⟨w', hstep, hrow, hsession, others⟩ := winding_save reached stored keeps effect
  have idle' : (w'.sessions m.id).Idle := by
    rw [hsession]
    exact idle
  have moved : wind cfg m.id w (.cancel 0) = some w' := run_single hstep
  exact .cons moved (fun pk hne => ⟨(others pk hne).2, Or.inl (others pk hne).1⟩)
    (releasable_of_released hrow ⟨Or.inr rfl, rfl, idle'⟩)

/-- The steps of the task, by induction on its rows: each is flagged, and nothing else changes. -/
theorem flag_run {store : Store} {ms : List Meeting} {now : Int} (reached : Reached cfg store w)
    (stored : ∀ m ∈ ms, w.store.meeting? m.id = some m)
    (free : ∀ m ∈ ms, (w.sessions m.id).lock = none)
    (stale : ∀ m ∈ ms, flagStaleProvisioning m now = some (m.toUnknown now))
    (distinct : (ms.map Meeting.id).Nodup) :
    ∃ w', run (World.step cfg) w (ms.map fun m => .on m.id (.sweep now)) = some w' ∧
      w'.sessions = w.sessions ∧ (∀ m ∈ ms, w'.store.meeting? m.id = some (m.toUnknown now)) ∧
      ∀ pk, pk ∉ ms.map Meeting.id → w'.store.meeting? pk = w.store.meeting? pk := by
  induction ms generalizing w with
  | nil => exact ⟨w, rfl, rfl, by simp, fun _ _ => rfl⟩
  | cons m rest ih =>
    have hm : m ∈ m :: rest := List.mem_cons_self
    obtain ⟨fresh, distinct⟩ := List.nodup_cons.mp distinct
    have effect : (w.scene m).operate cfg (.sweep now) = some (.write (m.toUnknown now)
        (w.sessions m.id) (w.sessions m.id)) := by
      simp [Scene.operate, Scene.save, World.scene, free m hm, stale m hm]
    have keeps : KeepsSlot m (m.toUnknown now) := ⟨rfl, rfl, rfl, rfl, id⟩
    obtain ⟨w₁, hstep, hrow, hsession, others⟩ :=
      winding_save reached (stored m hm) keeps effect
    have sessions : w₁.sessions = w.sessions := by
      funext pk
      by_cases he : pk = m.id
      · rw [he, hsession]
      · exact (others pk he).2
    have apart : ∀ x ∈ rest, x.id ≠ m.id := by
      intro x hx same
      exact fresh (same ▸ List.mem_map_of_mem hx)
    obtain ⟨w', hrun, sessions', flagged, kept⟩ := ih (reached.step hstep)
      (fun x hx => (others x.id (apart x hx)).1.trans (stored x (List.mem_cons_of_mem m hx)))
      (fun x hx => by rw [sessions]; exact free x (List.mem_cons_of_mem m hx))
      (fun x hx => stale x (List.mem_cons_of_mem m hx)) distinct
    refine ⟨w', ?_, sessions'.trans sessions, ?_, ?_⟩
    · simp only [List.map_cons, run, hstep, Option.bind_some]
      exact hrun
    · intro x hx
      rcases List.mem_cons.mp hx with rfl | hx
      · exact (kept x.id fresh).trans hrow
      · exact flagged x hx
    · intro pk hpk
      simp only [List.map_cons, List.mem_cons, not_or] at hpk
      exact (kept pk hpk.2).trans (others pk hpk.1).1

/-- A run of the task flags the stale rows and leaves every other row as it is. -/
theorem wind_flagStale {store : Store} (reached : Reached cfg store w) (now : Int) :
    ∃ w', wind cfg pk w (.flagStale now) = some w' ∧ w'.sessions = w.sessions ∧
      (∀ m ∈ w.staleRows now, w'.store.meeting? m.id = some (m.toUnknown now)) ∧
      ∀ pk', Undisturbed w w' pk' := by
  have stored : ∀ m ∈ w.staleRows now, w.store.meeting? m.id = some m := fun m hm =>
    KeyedTable.get?_eq_some.mpr ⟨(List.mem_filter.mp hm).1, rfl⟩
  have free : ∀ m ∈ w.staleRows now, (w.sessions m.id).lock = none := by
    intro m hm
    simpa using (Bool.and_eq_true_iff.mp (List.mem_filter.mp hm).2).2
  have stale : ∀ m ∈ w.staleRows now, flagStaleProvisioning m now = some (m.toUnknown now) := by
    intro m hm
    obtain ⟨flagged, hflag⟩ :=
      Option.isSome_iff_exists.mp (Bool.and_eq_true_iff.mp (List.mem_filter.mp hm).2).1
    rw [hflag, (flagStaleProvisioning_some hflag).2]
  have distinct : ((w.staleRows now).map Meeting.id).Nodup :=
    List.Sublist.nodup (List.filter_sublist.map Meeting.id) w.store.meetings.nodup
  obtain ⟨w', hrun, sessions, flagged, kept⟩ := flag_run reached stored free stale distinct
  refine ⟨w', hrun, sessions, flagged, ?_⟩
  intro pk'
  refine ⟨congrFun sessions pk', ?_⟩
  by_cases hit : pk' ∈ (w.staleRows now).map Meeting.id
  · obtain ⟨m, hm, rfl⟩ := List.mem_map.mp hit
    exact Or.inr ⟨m, now, _, stored m hm, stale m hm, flagged m hm⟩
  · exact Or.inl (kept pk' hit)

/-- The task flags a provisioning meeting ten minutes after its last change. -/
theorem releasable_swept {store : Store} {m : Meeting} (reached : Reached cfg store w)
    (stored : w.store.meeting? m.id = some m) (idle : (w.sessions m.id).Idle)
    (provisioning : m.status = .provisioning) : w.Releasable cfg m.id 2 := by
  let now := m.updatedAt + 10 * minuteMicroseconds + 1
  have stale : m.updatedAt < now - 10 * minuteMicroseconds := by
    show m.updatedAt < m.updatedAt + 10 * minuteMicroseconds + 1 - 10 * minuteMicroseconds
    omega
  have hit : m ∈ w.staleRows now := by
    refine List.mem_filter.mpr ⟨(KeyedTable.get?_eq_some.mp stored).1, ?_⟩
    simp [flagStaleProvisioning, provisioning, stale, idle.free]
  obtain ⟨w', moved, sessions, flagged, others⟩ := @wind_flagStale cfg w m.id store reached now
  have stored' : w'.store.meeting? (m.toUnknown now).id = some (m.toUnknown now) := flagged m hit
  have idle' : (w'.sessions (m.toUnknown now).id).Idle := by
    rw [sessions]
    exact idle
  have confirmed : w'.Releasable cfg (m.toUnknown now).id 1 :=
    releasable_confirmed (reached.trans (reachable_of_run moved)) stored' idle' rfl
  exact .cons moved (fun pk _ => others pk) confirmed

/-- While no request is at work on the row. -/
theorem releasable_idle {store : Store} {m : Meeting} (reached : Reached cfg store w)
    (stored : w.store.meeting? m.id = some m) (idle : (w.sessions m.id).Idle) :
    w.Releasable cfg m.id 2 := by
  have row := ((reached_sound reached).rows m stored).row
  have final : m.status.retains = false → (m.status = .ended ∨ m.status = .cancelled) →
      w.Releasable cfg m.id 2 := by
    intro gone ended
    exact (releasable_of_released stored ⟨ended, row.active.trans gone, idle⟩).mono (Nat.zero_le 2)
  have confirmed : m.status.confirmable = true → w.Releasable cfg m.id 2 :=
    fun hc => (releasable_confirmed reached stored idle hc).mono (by omega)
  have cancelled : m.status.cancellable = true → w.Releasable cfg m.id 2 :=
    fun hc => (releasable_cancelled reached stored idle hc).mono (by omega)
  have written := row.written
  cases hs : m.status with
  | draft => exact cancelled (by rw [hs]; rfl)
  | reserved =>
    rw [hs] at written
    cases written
  | provisioning => exact releasable_swept reached stored idle hs
  | ready => exact confirmed (by rw [hs]; rfl)
  | live =>
    rw [hs] at written
    cases written
  | ended => exact final (by rw [hs]; rfl) (Or.inl hs)
  | cancelled => exact final (by rw [hs]; rfl) (Or.inr hs)
  | failed =>
    rw [hs] at written
    cases written
  | retryableFailed => exact cancelled (by rw [hs]; rfl)
  | nonRetryableFailed => exact cancelled (by rw [hs]; rfl)
  | providerResponseInvalid => exact confirmed (by rw [hs]; rfl)
  | providerStateUnknown => exact confirmed (by rw [hs]; rfl)

/-- While a transaction is open on a row, nothing calls the provider for it. -/
theorem Sound.locked_grounded {accounts : RoomId → Option String} {m : Meeting} {s : Session}
    (sound : MeetingGateway.Sound cfg accounts m s) {r : RequestId} (locked : s.lock = some r) :
    m.status.inFlight = false := by
  obtain ⟨⟨values, phase⟩, hrequest, hlocks⟩ := sound.locked r locked
  have hphase := (sound.requests r _ hrequest).phase
  cases phase with
  | registered => cases hlocks
  | allocating retrying untried =>
    have hdraft : m.status = .draft := hphase.1
    rw [hdraft]
    rfl
  | reserving reserved retrying =>
    have pending : Pending cfg m values reserved retrying := hphase
    exact pending.grounded
  | calling flight => cases hlocks

/-- Where no transaction is open, a request is only registered or calls the provider. -/
theorem registered_or_calling {m : Meeting} {s : Session}
    (sound : MeetingGateway.Sound cfg accounts m s) (unlocked : s.lock = none) {r : RequestId}
    {q : Request} (hq : s.requests r = some q) : q.phase = .registered ∨
      ∃ values flight, s.requests r = some ⟨values, .calling flight⟩ := by
  rcases phase_of_unlocked (sound.unlocked unlocked hq) with hp | ⟨flight, hp⟩
  · exact Or.inl hp
  · obtain ⟨values, phase⟩ := q
    simp only at hp
    subst hp
    exact Or.inr ⟨values, flight, hq⟩

/-- A request that is at work on a meeting, if there is one, is the only one. -/
theorem at_work {store : Store} {m : Meeting} (reached : Reached cfg store w)
    (stored : w.store.meeting? m.id = some m) : (w.sessions m.id).Idle ∨
      ∃ r q, (w.sessions m.id).requests r = some q ∧ ((w.sessions m.id).drop r).Idle := by
  have sound := (reached_sound reached).rows m stored
  have dropped : ∀ r, (∀ r', r' ≠ r → (w.sessions m.id).lock ≠ some r') →
      (∀ r' q, r' ≠ r → (w.sessions m.id).requests r' = some q → q.phase = .registered) →
      ((w.sessions m.id).drop r).Idle := by
    intro r holder others
    constructor
    · cases hlock : ((w.sessions m.id).drop r).lock with
      | none => rfl
      | some r' =>
        obtain ⟨held, hne⟩ := lock_drop hlock
        exact absurd held (holder r' hne)
    · intro r' q hq
      obtain ⟨hne, hold⟩ := requests_drop_some hq
      exact others r' q hne hold
  cases hlock : (w.sessions m.id).lock with
  | some r =>
    obtain ⟨q, hrequest, _⟩ := sound.locked r hlock
    refine Or.inr ⟨r, q, hrequest, dropped r ?_ ?_⟩
    · intro r' hne held
      rw [hlock] at held
      exact hne (Option.some.inj held).symm
    · intro r' q' hne hq
      exact sound.others_registered hlock (sound.locked_grounded hlock) hne hq
  | none =>
    have free : ∀ r', (w.sessions m.id).lock ≠ some r' := by
      intro r' held
      rw [hlock] at held
      cases held
    by_cases flying : ∃ r values flight, (w.sessions m.id).requests r =
        some ⟨values, .calling flight⟩
    · obtain ⟨r, values, flight, hrequest⟩ := flying
      refine Or.inr ⟨r, _, hrequest, dropped r (fun r' _ => free r') ?_⟩
      intro r' q hne hq
      rcases registered_or_calling sound hlock hq with hp | ⟨values', flight', hcalling⟩
      · exact hp
      · exact absurd (sound.single _ _ _ _ _ _ hcalling hrequest) hne
    · refine Or.inl ⟨hlock, ?_⟩
      intro r q hq
      rcases registered_or_calling sound hlock hq with hp | ⟨values, flight, hcalling⟩
      · exact hp
      · exact absurd ⟨r, values, flight, hcalling⟩ flying

/-- At most three moves wind a meeting up. -/
theorem releasable {store : Store} {m : Meeting} (reached : Reached cfg store w)
    (stored : w.store.meeting? m.id = some m) : w.Releasable cfg m.id 3 := by
  rcases at_work reached stored with idle | ⟨r, q, hrequest, idle⟩
  · exact (releasable_idle reached stored idle).mono (by omega)
  · have effect : (w.scene m).operate cfg (.die r) = some ((w.scene m).leave r) := by
      simp [Scene.operate, Scene.die, World.scene, hrequest]
    have hstep : World.step cfg w (.on m.id (.die r)) =
        some (w.settle m.id ((w.scene m).leave r)) := by
      simp only [World.step, stored, effect, Option.map_some]
    have idle' : ((w.settle m.id ((w.scene m).leave r)).sessions m.id).Idle := by
      show (Function.update w.sessions m.id ((w.sessions m.id).drop r) m.id).Idle
      rw [Function.update_self]
      exact idle
    have moved : wind cfg m.id w (.die r) = some (w.settle m.id ((w.scene m).leave r)) :=
      run_single hstep
    refine .cons moved ?_ (releasable_idle (reached.step hstep) stored idle')
    intro pk' hne
    exact ⟨Function.update_of_ne hne .., Or.inl rfl⟩

end Steps

section Forever
variable {cfg : Settings} {accounts : RoomId → Option String} {w w' : World}

theorem Released.not_status {m : Meeting} {s : Session} (h : Released m s) {status : Status}
    (hended : status ≠ .ended) (hcancelled : status ≠ .cancelled) : m.status ≠ status := by
  intro hs
  rcases h.final with hf | hf
  · exact hended (hs.symm.trans hf)
  · exact hcancelled (hs.symm.trans hf)

theorem Released.not_at_work {m : Meeting} {s : Session} (h : Released m s) {r : RequestId}
    {q : Request} (hrequest : s.requests r = some q) (work : q.phase ≠ .registered) : False :=
  work (h.idle.registered r q hrequest)

theorem Session.Idle.drop {s : Session} (h : s.Idle) (r : RequestId) : (s.drop r).Idle where
  free := lock_drop_free h.free
  registered := fun r' q hq => h.registered r' q (requests_drop_some hq).2

theorem Session.Idle.put {s : Session} (h : s.Idle) (r : RequestId) (values : CreateValues) :
    (s.put r ⟨values, .registered⟩).Idle where
  free := h.free
  registered := by
    intro r' q hq
    rw [requests_put] at hq
    by_cases he : r' = r
    · rw [if_pos he] at hq
      cases hq
      rfl
    · rw [if_neg he] at hq
      exact h.registered r' q hq

theorem Released.upkeep {m row : Meeting} {s done : Session} {op : Operation}
    (h : Released m s) (upkeep : Upkeep cfg m s op row done) :
    row.status = m.status ∧ Released row done := by
  cases upkeep with
  | sweep hs => exact absurd hs (h.not_status (by decide) (by decide))
  | cancelAgain _ => exact ⟨rfl, h⟩
  | cancel hc =>
    rcases h.final with hf | hf
    · rw [hf] at hc
      cases hc
    · rw [hf] at hc
      cases hc
  | touch _ => exact ⟨rfl, h.final, h.inactive, h.idle⟩
  | recover hs _ _ _ => exact absurd hs (h.not_status (by decide) (by decide))
  | confirmEnded hc =>
    rcases h.final with hf | hf
    · rw [hf] at hc
      cases hc
    · rw [hf] at hc
      cases hc

/-- No operation brings a released meeting back. -/
theorem Released.moved {sc : Scene} {op : Operation} {effect : Effect} {m : Meeting} {t : Session}
    (h : Released sc.row sc.session) (move : Move cfg sc op effect)
    (outcome : effect.Outcome sc.row m t) : m.status = sc.row.status ∧ Released m t := by
  cases move with
  | leave _ =>
    cases outcome
    exact ⟨rfl, h.final, h.inactive, h.idle.drop _⟩
  | resume _ _ hgate =>
    exact absurd (provisionGate_resume hgate).1 (h.not_status (by decide) (by decide))
  | allocate _ _ hgate =>
    rcases provisionGate_allocate hgate with ⟨hs, _⟩ | ⟨hs, _⟩
    · exact absurd hs (h.not_status (by decide) (by decide))
    · exact absurd hs (h.not_status (by decide) (by decide))
  | skip hrequest => exact (h.not_at_work hrequest fun hp => by cases hp).elim
  | reserve hrequest _ _ _ _ _ _ => exact (h.not_at_work hrequest fun hp => by cases hp).elim
  | provision hrequest _ _ _ _ => exact (h.not_at_work hrequest fun hp => by cases hp).elim
  | issued hrequest _ => exact (h.not_at_work hrequest fun hp => by cases hp).elim
  | refused hrequest _ _ => exact (h.not_at_work hrequest fun hp => by cases hp).elim
  | send hrequest _ _ => exact (h.not_at_work hrequest fun hp => by cases hp).elim
  | receive hrequest _ _ _ _ => exact (h.not_at_work hrequest fun hp => by cases hp).elim
  | escape hrequest _ _ _ => exact (h.not_at_work hrequest fun hp => by cases hp).elim
  | failure _ hrequest _ => exact (h.not_at_work hrequest fun hp => by cases hp).elim
  | success _ hrequest _ _ _ => exact (h.not_at_work hrequest fun hp => by cases hp).elim
  | remoteCreates _ _ _ =>
    cases outcome
    exact ⟨rfl, h.final, h.inactive, h.idle.free, h.idle.registered⟩
  | upkeep _ hup =>
    cases outcome with
    | saved => exact h.upkeep hup
    | unsaved => exact ⟨rfl, h⟩

/-- The meeting is over with this status. -/
def World.Over (w : World) (pk : MeetingId) (status : Status) : Prop :=
  ∃ m, w.store.meeting? pk = some m ∧ m.status = status ∧ Released m (w.sessions pk)

theorem World.Over.step (sound : w.Sound cfg accounts) {pk : MeetingId} {status : Status}
    (h : w.Over pk status) {l : Label} (change : Change cfg w l w') : w'.Over pk status := by
  obtain ⟨m, stored, hstatus, released⟩ := h
  have hid : m.id = pk := Store.meeting?_id stored
  subst hid
  cases change with
  | refused _ => exact ⟨m, stored, hstatus, released⟩
  | @created r pk client values now fresh _ =>
    have hne : m.id ≠ pk := by
      intro he
      rw [he, fresh] at stored
      cases stored
    refine ⟨m, ?_, hstatus, ?_⟩
    · exact (Store.meeting?_insert_of_ne fresh hne).trans stored
    · simpa [Function.update_of_ne hne] using released
  | @joined r pk client values now found _ _ _ _ =>
    refine ⟨m, stored, hstatus, released.final, released.inactive, ?_⟩
    by_cases he : m.id = found.id
    · have idle := released.idle
      rw [he] at idle ⊢
      simpa using idle.put r values
    · simpa [Function.update_of_ne he] using released.idle
  | @operated op row effect hrow move =>
    have hsound := Sound.move (w.scene row) (sound.rows row hrow) sound.rooms move
    obtain ⟨m', stored', _, _⟩ := World.Extends.operated sound hrow move
      (settle_settled w row.id effect) m stored
    have hid' : m'.id = m.id := Store.meeting?_id stored'
    have hm' : (w.settle row.id effect).store.meeting? m'.id = some m' := by
      rw [hid']
      exact stored'
    rcases (settle_settled w row.id effect).outcome hrow hsound hm' with
      ⟨_, hold, hsession⟩ | ⟨he, outcome⟩
    · rw [hid'] at hold hsession
      have hsame : m' = m := Option.some.inj (hold.symm.trans stored)
      refine ⟨m, hsame ▸ stored', hstatus, ?_⟩
      rw [hsession]
      exact released
    · have hmrow : m = row := by
        rw [← hid', he, hrow] at stored
        exact (Option.some.inj stored).symm
      subst hmrow
      obtain ⟨same, released'⟩ := Released.moved released move outcome
      refine ⟨m', stored', same.trans hstatus, ?_⟩
      rw [hid'] at released'
      exact released'
  | roomEdited _ => exact ⟨m, stored, hstatus, released⟩
  | systemPresetEdited => exact ⟨m, stored, hstatus, released⟩
  | clientPresetEdited => exact ⟨m, stored, hstatus, released⟩

theorem World.Over.later {store : Store} (reached : Reached cfg store w) {pk : MeetingId}
    {status : Status} (h : w.Over pk status) (later : Reachable (World.step cfg) w w') :
    w'.Over pk status := by
  induction later with
  | start => exact h
  | step before hs ih =>
    exact ih.step (reached_sound (reached.trans before)) (step_change hs)

end Forever

end MeetingGateway
