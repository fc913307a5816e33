import MeetingGateway.LoneRequests
import MeetingGateway.StaleSweep
import MeetingGateway.Releases

/-!
# One thing after another

A history without any overlap: create requests that are answered before the next arrives,
whole runs of the sweep and whole runs of the operators' action. Each is given as a
function of the store, and each is a run of the machine between two worlds at rest. So
whatever is proved of every interleaving is true of these histories.
-/

namespace MeetingGateway

open LabelledRuns

/-- The row after an action that visits the chosen rows. -/
def visitRow (change : Meeting → Option Meeting) (chosen : MeetingId → Bool) (m : Meeting) :
    Meeting :=
  if chosen m.id then (change m).getD m else m

/-- An operation from outside the requests that writes what `change` says. -/
structure RowVisit (cfg : Settings) (op : Operation) (change : Meeting → Option Meeting) :
    Prop where
  keeps : ∀ m row, change m = some row → KeepsSlot m row
  operates : ∀ sc : Scene, ∀ row, sc.session.lock = none → change sc.row = some row →
    ∃ done, sc.operate cfg op = some (.write row done sc.session) ∧
      done.requests = sc.session.requests ∧ done.lock = none ∧ done.calls = sc.session.calls

section Visits
variable {cfg : Settings} {op : Operation} {change : Meeting → Option Meeting} {store : Store}
variable {w : World}

theorem RowVisit.visit_id (h : RowVisit cfg op change) (chosen : MeetingId → Bool)
    (m : Meeting) : (visitRow change chosen m).id = m.id := by
  unfold visitRow
  split
  · cases hrow : change m with
    | none => rfl
    | some row => exact (h.keeps m row hrow).sameId
  · rfl

def RowVisit.visit (h : RowVisit cfg op change) (s : Store) (chosen : MeetingId → Bool) :
    Store :=
  { s with meetings := s.meetings.mapRows (visitRow change chosen) (h.visit_id chosen) }

/-- One row is visited in a world at rest. -/
theorem RowVisit.step (h : RowVisit cfg op change) (reached : Reached cfg store w)
    (quiet : w.Quiet) {m row : Meeting} (stored : w.store.meeting? m.id = some m)
    (hrow : change m = some row) :
    ∃ w', Reached cfg store w' ∧ w'.Quiet ∧ w'.store = w.store.putMeeting row := by
  obtain ⟨done, operated, requests, lock, calls⟩ :=
    h.operates (w.scene m) row (quiet.locks m.id) hrow
  have hsave := (h.keeps m row hrow).save reached stored
  have step : World.step cfg w (.on m.id op) = some ⟨w.store.putMeeting row,
      Function.update w.sessions m.id done, releaseRooms w.roomLock m.id, w.excluded⟩ := by
    simp only [World.step, stored, operated, Option.map_some, World.settle, hsave]
  refine ⟨_, reached.step step, ⟨?_, ?_, ?_, ?_⟩, rfl⟩
  · intro pk r
    by_cases he : pk = m.id
    · subst he
      simpa [requests, World.scene] using quiet.requests m.id r
    · simpa [he] using quiet.requests pk r
  · intro pk
    by_cases he : pk = m.id
    · subst he
      simpa using lock
    · simpa [he] using quiet.locks pk
  · intro room
    simp [releaseRooms, quiet.rooms room]
  · intro pk
    by_cases he : pk = m.id
    · subst he
      simpa [calls, World.scene] using quiet.fresh m.id
    · simpa [he] using quiet.fresh pk

/-- Visiting one row more is one more row to put. -/
theorem RowVisit.visit_cons (h : RowVisit cfg op change) {s : Store} {m : Meeting}
    {ids : List MeetingId} (stored : s.meeting? m.id = some m) (new : m.id ∉ ids) {row : Meeting}
    (hrow : change m = some row) :
    h.visit (s.putMeeting row) (fun pk => decide (pk ∈ ids)) =
      h.visit s (fun pk => decide (pk ∈ m.id :: ids)) := by
  have sameId := (h.keeps m row hrow).sameId
  have rows : (s.meetings.put row).mapRows (visitRow change fun pk => decide (pk ∈ ids))
      (h.visit_id _) = s.meetings.mapRows (visitRow change fun pk => decide (pk ∈ m.id :: ids))
      (h.visit_id _) := by
    rw [KeyedTable.put, KeyedTable.mapRows_mapRows]
    refine KeyedTable.mapRows_congr fun r hr => ?_
    by_cases he : r.id = m.id
    · have found := KeyedTable.get?_eq_some.mpr ⟨hr, he⟩
      have same : r = m := Option.some.inj (found.symm.trans stored)
      subst same
      simp [visitRow, sameId, new, hrow]
    · simp [visitRow, sameId, he]
  simp only [RowVisit.visit, Store.putMeeting, rows]

/-- Rows that are not there, or that the action skips, are left as they are. -/
theorem RowVisit.visit_skip (h : RowVisit cfg op change) {s : Store} {pk : MeetingId}
    {ids : List MeetingId} (skipped : ∀ m, s.meeting? pk = some m → change m = none) :
    h.visit s (fun pk => decide (pk ∈ ids)) = h.visit s (fun pk' => decide (pk' ∈ pk :: ids)) := by
  have rows : s.meetings.mapRows (visitRow change fun pk => decide (pk ∈ ids)) (h.visit_id _) =
      s.meetings.mapRows (visitRow change fun pk' => decide (pk' ∈ pk :: ids)) (h.visit_id _) := by
    refine KeyedTable.mapRows_congr fun r hr => ?_
    by_cases he : r.id = pk
    · have none := skipped r (KeyedTable.get?_eq_some.mpr ⟨hr, he⟩)
      simp [visitRow, none]
    · simp [visitRow, he]
  simp only [RowVisit.visit, rows]

/-- The rows are visited one after the other, by induction on those still to visit. -/
theorem RowVisit.visits (h : RowVisit cfg op change) {ids : List MeetingId}
    (nodup : ids.Nodup) (reached : Reached cfg store w) (quiet : w.Quiet) :
    ∃ w', Reached cfg store w' ∧ w'.Quiet ∧
      w'.store = h.visit w.store (fun pk => decide (pk ∈ ids)) := by
  induction ids generalizing w with
  | nil =>
    refine ⟨w, reached, quiet, ?_⟩
    have same : w.store.meetings.mapRows (visitRow change fun pk => decide (pk ∈ []))
        (h.visit_id _) = w.store.meetings := KeyedTable.mapRows_id fun r _ => by simp [visitRow]
    simp only [RowVisit.visit, same]
  | cons pk rest ih =>
    obtain ⟨new, others⟩ := List.nodup_cons.mp nodup
    by_cases skipped : ∀ m, w.store.meeting? pk = some m → change m = none
    · rw [← h.visit_skip skipped]
      exact ih others reached quiet
    · push Not at skipped
      obtain ⟨m, stored, changes⟩ := skipped
      obtain ⟨row, hrow⟩ := Option.ne_none_iff_exists'.mp changes
      have hid : m.id = pk := Store.meeting?_id stored
      subst hid
      obtain ⟨w', reached', quiet', same⟩ := h.step reached quiet stored hrow
      obtain ⟨w'', later, rest', final⟩ := ih others reached' quiet'
      refine ⟨w'', later, rest', ?_⟩
      rw [final, same, h.visit_cons stored new hrow]

/-- Any choice of rows. -/
theorem RowVisit.visits_chosen (h : RowVisit cfg op change) (chosen : MeetingId → Bool)
    (reached : Reached cfg store w) (quiet : w.Quiet) :
    ∃ w', Reached cfg store w' ∧ w'.Quiet ∧ w'.store = h.visit w.store chosen := by
  obtain ⟨w', reached', quiet', same⟩ := h.visits
    (w.store.meetings.nodup.filter chosen) reached quiet
  refine ⟨w', reached', quiet', ?_⟩
  rw [same]
  have rows : w.store.meetings.mapRows (visitRow change fun pk =>
      decide (pk ∈ (w.store.meetings.rows.map Meeting.id).filter chosen)) (h.visit_id _) =
      w.store.meetings.mapRows (visitRow change chosen) (h.visit_id _) := by
    refine KeyedTable.mapRows_congr fun r hr => ?_
    have mem : r.id ∈ w.store.meetings.rows.map Meeting.id := List.mem_map_of_mem hr
    simp [visitRow, List.mem_filter, mem]
  simp only [RowVisit.visit, rows]

end Visits

theorem sweepVisit (cfg : Settings) (now : Int) :
    RowVisit cfg (.sweep now) fun m => flagStaleProvisioning m now where
  keeps := by
    intro m row h
    obtain ⟨_, rfl⟩ := flagStaleProvisioning_some h
    exact ⟨rfl, rfl, rfl, rfl, fun active => active⟩
  operates := by
    intro sc row lock h
    refine ⟨sc.session, ?_, rfl, lock, rfl⟩
    simp only [Scene.operate, Scene.save, lock, h]

theorem confirmVisit (cfg : Settings) (now : Int) :
    RowVisit cfg (.confirmEnded now) fun m => confirmProviderEnded m now where
  keeps := by
    intro m row h
    obtain ⟨_, rfl⟩ := confirmProviderEnded_some h
    exact keeps_inactive rfl rfl rfl rfl rfl
  operates := by
    intro sc row lock h
    refine ⟨sc.session.recordConfirmed, ?_, rfl, lock, rfl⟩
    simp only [Scene.operate, Scene.save, lock, h]

/-- `confirmEnded` runs over a queryset. -/
inductive Turn where
  | post (request : PostRequest) (out : Outside)
  | sweep (sweep : Sweep)
  | confirmEnded (queryset : MeetingId → Bool) (now : Int)

theorem confirmed_id (queryset : MeetingId → Bool) (now : Int) (m : Meeting) :
    (visitRow (fun m => confirmProviderEnded m now) queryset m).id = m.id := by
  simp only [visitRow, confirmProviderEnded]
  split
  · split <;> rfl
  · rfl

/-- The action `confirm_provider_ended`. -/
def Store.confirmEnded (s : Store) (queryset : MeetingId → Bool) (now : Int) : Store :=
  { s with
    meetings := s.meetings.mapRows (visitRow (fun m => confirmProviderEnded m now) queryset)
      (confirmed_id queryset now) }

def Store.turn (cfg : Settings) (drf : Drf) (s : Store) : Turn → Store
  | .post request out => (MeetingListView.post cfg drf s request out).2
  | .sweep sweep => s.sweep sweep
  | .confirmEnded queryset now => s.confirmEnded queryset now

section Histories
variable {cfg : Settings} {store : Store} {w : World}

theorem sweep_visits (s : Store) (sweep : Sweep) :
    s.sweep sweep = (sweepVisit cfg sweep.now).visit s fun pk => !sweep.locked pk := by
  have rows : s.meetings.mapRows sweep.row (fun m => (swept_row sweep m).id) =
      s.meetings.mapRows (visitRow (fun m => flagStaleProvisioning m sweep.now)
        fun pk => !sweep.locked pk) ((sweepVisit cfg sweep.now).visit_id _) := by
    refine KeyedTable.mapRows_congr fun m _ => ?_
    cases h : sweep.locked m.id <;> simp [Sweep.row, visitRow, h]
  simp only [Store.sweep, RowVisit.visit, rows]

/-- Each turn begins and ends in a world at rest. -/
theorem turn_reached (drf : Drf) (reached : Reached cfg store w) (quiet : w.Quiet) (turn : Turn) :
    ∃ w', Reached cfg store w' ∧ w'.Quiet ∧ w'.store = w.store.turn cfg drf turn := by
  cases turn with
  | post request out =>
    obtain ⟨w', later, quiet', same⟩ :=
      post_end drf request out (reached_sound reached) quiet
    exact ⟨w', reached.trans later, quiet', same⟩
  | sweep sweep =>
    rw [show w.store.turn cfg drf (.sweep sweep) = _ from sweep_visits w.store sweep]
    exact (sweepVisit cfg sweep.now).visits_chosen _ reached quiet
  | confirmEnded queryset now =>
    exact (confirmVisit cfg now).visits_chosen queryset reached quiet

/-- For every history of create requests, sweeps and operators' actions without overlap: the
store it leaves is the store of a world at rest that the concurrent machine gets into. -/
theorem serial_history_is_run (cfg : Settings) (drf : Drf) (store : Store)
    (history : List Turn) :
    ∃ w, Reached cfg store w ∧ w.Quiet ∧
      w.store = history.foldl (Store.turn cfg drf) (World.initial store).store := by
  have general : ∀ w, Reached cfg store w → w.Quiet → ∃ w', Reached cfg store w' ∧ w'.Quiet ∧
      w'.store = history.foldl (Store.turn cfg drf) w.store := by
    induction history with
    | nil => exact fun w reached quiet => ⟨w, reached, quiet, rfl⟩
    | cons turn rest ih =>
      intro w reached quiet
      obtain ⟨w', reached', quiet', same⟩ := turn_reached drf reached quiet turn
      rw [List.foldl_cons, ← same]
      exact ih w' reached' quiet'
  exact general (World.initial store) .start (quiet_initial _)

end Histories
end MeetingGateway
