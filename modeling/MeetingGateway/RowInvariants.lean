import MeetingGateway.Invariants

/-!
# Invariants of runs under a side condition

Some laws hold of the runs in which operators or late requests keep to a condition. An
invariant of one row and its session is proved from the moves on that row alone; the
lemma here carries it to every row of every world such runs reach.
-/

namespace MeetingGateway

open LabelledRuns

/-- The row and the session that an effect can leave behind. -/
inductive Effect.Outcome (old : Meeting) : Effect → Meeting → Session → Prop
  | quiet {session : Session} {roomLock : RoomId → Option MeetingId} {excluded : Bool} :
      Outcome old (.quiet session roomLock excluded) old session
  | saved {row : Meeting} {done failed : Session} :
      Outcome old (.write row done failed) row done
  | unsaved {row : Meeting} {done failed : Session} :
      Outcome old (.write row done failed) old failed

/-- The room locks after an effect. -/
def Effect.roomLock (old : RoomId → Option MeetingId) (pk : MeetingId) :
    Effect → RoomId → Option MeetingId
  | .quiet _ roomLock _ => roomLock
  | .write _ _ _ => releaseRooms old pk

theorem releaseRooms_other {roomLock : RoomId → Option MeetingId} {pk other : MeetingId}
    {room : RoomId} (hne : other ≠ pk) (held : roomLock room = some other) :
    releaseRooms roomLock pk room = some other := by
  have hnot : roomLock room ≠ some pk := by
    rw [held]
    exact fun h => hne (Option.some.inj h)
  rw [releaseRooms, if_neg hnot]
  exact held

/-- No operation takes a room's lock from another meeting. -/
theorem Move.others_locks {cfg : Settings} {sc : Scene} {op : Operation} {effect : Effect}
    (move : Move cfg sc op effect) {room : RoomId} {other : MeetingId} (hne : other ≠ sc.row.id)
    (held : sc.roomLock room = some other) :
    effect.roomLock sc.roomLock sc.row.id room = some other := by
  cases move with
  | @leave _ r _ _ =>
    by_cases hlock : sc.session.lock = some r
    · simpa [Effect.roomLock, Scene.leave, hlock] using releaseRooms_other hne held
    · simpa [Effect.roomLock, Scene.leave, hlock] using held
  | @reserve _ _ _ _ _ chosen _ _ _ _ _ free _ _ =>
    have hroom : room ≠ chosen.id := by
      rintro rfl
      rw [free] at held
      cases held
    show Function.update sc.roomLock chosen.id _ room = some other
    rw [Function.update_of_ne hroom]
    exact held
  | provision _ _ _ _ _ => exact releaseRooms_other hne held
  | failure _ _ _ => exact releaseRooms_other hne held
  | success _ _ _ _ _ => exact releaseRooms_other hne held
  | upkeep _ _ => exact releaseRooms_other hne held
  | resume _ _ _ => exact held
  | allocate _ _ _ => exact held
  | skip _ => exact held
  | issued _ _ => exact held
  | refused _ _ _ => exact held
  | send _ _ _ => exact held
  | receive _ _ _ _ _ => exact held
  | escape _ _ _ _ => exact held
  | remoteCreates _ _ _ => exact held

/-- Only a save can change the history of its row. -/
theorem Move.quiet_history {cfg : Settings} {sc : Scene} {op : Operation} {session : Session}
    {roomLock : RoomId → Option MeetingId} {excluded : Bool}
    (move : Move cfg sc op (.quiet session roomLock excluded)) :
    session.history = sc.session.history := by
  cases move with
  | receive _ _ _ _ _ =>
    rw [told_calls]
    rfl
  | escape _ _ _ _ =>
    rw [told_calls]
    rfl
  | _ => rfl

theorem Move.failed_history {cfg : Settings} {sc : Scene} {op : Operation} {row : Meeting}
    {done failed : Session} (move : Move cfg sc op (.write row done failed)) :
    failed.history = sc.session.history := by
  cases move <;> rfl

section Rows
variable {cfg : Settings} {accounts : RoomId → Option String} {w w' : World}

/-- After an operation on a row, every other row and its session are as before. -/
theorem Settled.outcome {row m : Meeting} {effect : Effect}
    (stored : w.store.meeting? row.id = some row) (sound : effect.Sound cfg accounts row)
    (settled : Settled w row.id effect w') (hm : w'.store.meeting? m.id = some m) :
    (m.id ≠ row.id ∧ w.store.meeting? m.id = some m ∧ w'.sessions m.id = w.sessions m.id) ∨
      (m.id = row.id ∧ effect.Outcome row m (w'.sessions m.id)) := by
  have kept : ∀ session : Session, m.id ≠ row.id →
      Function.update w.sessions row.id session m.id = w.sessions m.id :=
    fun session hne => Function.update_of_ne hne ..
  have unchanged : w.store.meeting? m.id = some m → m.id = row.id → m = row := by
    intro hold he
    rw [he, stored] at hold
    exact (Option.some.inj hold).symm
  cases settled with
  | quiet =>
    by_cases he : m.id = row.id
    · obtain rfl := unchanged hm he
      refine Or.inr ⟨rfl, ?_⟩
      simpa using Effect.Outcome.quiet
    · exact Or.inl ⟨he, hm, kept _ he⟩
  | @saved row' done failed _ _ =>
    have hid : row'.id = row.id := sound.1
    have stored' : w.store.meeting? row'.id = some row := by
      rw [hid]
      exact stored
    rcases Store.meeting?_put stored' hm with ⟨he, rfl⟩ | ⟨he, hold⟩
    · refine Or.inr ⟨hid, ?_⟩
      simpa [hid] using Effect.Outcome.saved
    · have hne : m.id ≠ row.id := by
        rw [← hid]
        exact he
      exact Or.inl ⟨hne, hold, kept _ hne⟩
  | unsaved _ =>
    by_cases he : m.id = row.id
    · obtain rfl := unchanged hm he
      refine Or.inr ⟨rfl, ?_⟩
      simpa using Effect.Outcome.unsaved
    · exact Or.inl ⟨he, hm, kept _ he⟩

theorem settle_roomLock (w : World) (pk : MeetingId) (effect : Effect) :
    (w.settle pk effect).roomLock = effect.roomLock w.roomLock pk := by
  generalize hw : w.settle pk effect = w'
  have settled := settle_settled w pk effect
  rw [hw] at settled
  cases settled with
  | quiet => rfl
  | saved _ _ => rfl
  | unsaved _ => rfl

/-- Where a stored row and its session come from: they are as before, a registration made
them or joined them, or an operation on the row left them behind. -/
inductive RowChange (cfg : Settings) (w w' : World) : Label → Meeting → Session → Prop
  | kept {l : Label} {m : Meeting} {t : Session} : w.store.meeting? m.id = some m →
      t = w.sessions m.id →
      (∀ room, w.roomLock room = some m.id → w'.roomLock room = some m.id) →
      RowChange cfg w w' l m t
  | drafted {values : CreateValues} {pk : MeetingId} {client : ClientId} {r : RequestId}
      {now : Int} {l : Label} {m : Meeting} {t : Session} :
      (values.draft pk client now).checks = true → m = values.draft pk client now →
      t = Session.opened r client values → RowChange cfg w w' l m t
  | joined {r : RequestId} {values : CreateValues} {l : Label} {m : Meeting} {t : Session} :
      w.store.meeting? m.id = some m → t = (w.sessions m.id).put r ⟨values, .registered⟩ →
      w'.roomLock = w.roomLock → RowChange cfg w w' l m t
  | operated {row : Meeting} {op : Operation} {effect : Effect} {m : Meeting} {t : Session} :
      w.store.meeting? row.id = some row → Move cfg (w.scene row) op effect → m.id = row.id →
      effect.Outcome row m t → w'.roomLock = effect.roomLock w.roomLock row.id →
      RowChange cfg w w' (.on row.id op) m t

theorem Change.row (sound : w.Sound cfg accounts) {l : Label} (change : Change cfg w l w')
    {m : Meeting} (hm : w'.store.meeting? m.id = some m) :
    RowChange cfg w w' l m (w'.sessions m.id) := by
  cases change with
  | refused _ => exact .kept hm rfl fun _ held => held
  | @created r pk client values now fresh checks _ =>
    rcases Store.meeting?_insert fresh hm with ⟨_, rfl⟩ | ⟨hne, hold⟩
    · exact .drafted checks rfl (Function.update_self ..)
    · exact .kept hold (Function.update_of_ne hne ..) fun _ held => held
  | @joined r pk client values now found stored _ _ _ =>
    by_cases he : m.id = found.id
    · have hsame : m = found := by
        have hfound := hm
        rw [he, stored] at hfound
        exact (Option.some.inj hfound).symm
      subst hsame
      exact .joined stored (Function.update_self ..) rfl
    · exact .kept hm (Function.update_of_ne he ..) fun _ held => held
  | @operated op row effect stored move =>
    have heffect := Sound.move (w.scene row) (sound.rows row stored) sound.rooms move
    have locks := settle_roomLock w row.id effect
    rcases (settle_settled w row.id effect).outcome stored heffect hm with
      ⟨hne, hold, hsession⟩ | ⟨he, outcome⟩
    · refine .kept hold hsession ?_
      intro room held
      rw [locks]
      exact move.others_locks hne held
    · exact .operated stored move he outcome locks
  | roomEdited _ => exact .kept hm rfl fun _ held => held
  | systemPresetEdited => exact .kept hm rfl fun _ held => held
  | clientPresetEdited => exact .kept hm rfl fun _ held => held

/-- An invariant of a row and its session under a side condition on the steps. -/
structure RowInvariant (cfg : Settings) (allowed : World → Label → Prop)
    (P : Meeting → Session → Prop) : Prop where
  opened : ∀ (values : CreateValues) (pk : MeetingId) (client : ClientId) (r : RequestId)
    (now : Int), (values.draft pk client now).checks = true →
    P (values.draft pk client now) (Session.opened r client values)
  joined : ∀ (m : Meeting) (s : Session) (r : RequestId) (values : CreateValues), P m s →
    P m (s.put r ⟨values, .registered⟩)
  moved : ∀ (accounts : RoomId → Option String) (w : World) (row : Meeting) (op : Operation)
    (effect : Effect) (m : Meeting) (s : Session), w.store.meeting? row.id = some row →
    MeetingGateway.Sound cfg accounts row (w.sessions row.id) → P row (w.sessions row.id) →
    allowed w (.on row.id op) → Move cfg (w.scene row) op effect → effect.Outcome row m s → P m s

variable {allowed : World → Label → Prop} {P : Meeting → Session → Prop}

theorem RowInvariant.step (inv : RowInvariant cfg allowed P) (sound : w.Sound cfg accounts)
    {l : Label} (hallowed : allowed w l) (change : Change cfg w l w')
    (before : ∀ m, w.store.meeting? m.id = some m → P m (w.sessions m.id)) :
    ∀ m, w'.store.meeting? m.id = some m → P m (w'.sessions m.id) := by
  intro m hm
  rcases change.row sound hm with
    ⟨stored, same, _⟩ | ⟨checks, rfl, hopened⟩ | ⟨stored, hjoined, _⟩ |
    ⟨stored, move, _, outcome, _⟩
  · rw [same]
    exact before m stored
  · rw [hopened]
    exact inv.opened _ _ _ _ _ checks
  · rw [hjoined]
    exact inv.joined m _ _ _ (before m stored)
  · exact inv.moved accounts w _ _ _ m _ stored (sound.rows _ stored) (before _ stored) hallowed
      move outcome

/-- A stricter condition allows fewer steps. -/
theorem RowInvariant.mono {stricter : World → Label → Prop} (inv : RowInvariant cfg allowed P)
    (sub : ∀ w l, stricter w l → allowed w l) : RowInvariant cfg stricter P where
  opened := inv.opened
  joined := inv.joined
  moved := by
    intro accounts w row op effect m s stored sound before hallowed
    exact inv.moved accounts w row op effect m s stored sound before (sub _ _ hallowed)

/-- An invariant of single rows holds of every row along every allowed run. -/
theorem RowInvariant.reached [∀ w l, Decidable (allowed w l)] (inv : RowInvariant cfg allowed P)
    {store : Store}
    (h : Reachable (restrict allowed (World.step cfg)) (World.initial store) w) :
    ∀ m, w.store.meeting? m.id = some m → P m (w.sessions m.id) := by
  let Holds : World → Prop := fun w =>
    ∀ m, w.store.meeting? m.id = some m → P m (w.sessions m.id)
  have start : Holds (World.initial store) := by
    intro m hm
    cases hm
  have preserved : ∀ a l b,
      Reachable (restrict allowed (World.step cfg)) (World.initial store) a → Holds a →
      restrict allowed (World.step cfg) a l = some b → Holds b := by
    intro a l b reached before hstep
    obtain ⟨hallowed, hs⟩ := restrict_eq_some.mp hstep
    exact inv.step (reached_sound reached.of_restrict) hallowed (step_change hs) before
  exact h.invariant start preserved

/-- An invariant that asks for nothing holds of every row of every reachable world. -/
theorem RowInvariant.always (inv : RowInvariant cfg (fun _ _ => True) P) {store : Store}
    (h : Reached cfg store w) :
    ∀ m, w.store.meeting? m.id = some m → P m (w.sessions m.id) := by
  have start : ∀ m, (World.initial store).store.meeting? m.id = some m →
      P m ((World.initial store).sessions m.id) := by
    intro m hm
    cases hm
  exact h.invariant start fun _ _ _ reached before hs =>
    inv.step (reached_sound reached) trivial (step_change hs) before

end Rows
end MeetingGateway
