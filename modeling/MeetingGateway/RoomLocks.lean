import MeetingGateway.RowInvariants

/-!
# Reservations under a room's lock

Between its capacity check and its PROVISIONING commit a request has a reservation that no
other transaction sees. It holds the lock of the room for that long, so a room has at
most one such reservation. A request that calls the provider has committed before.
-/

namespace MeetingGateway

open LabelledRuns

/-- A request is between its PROVISIONING commit and its final transaction. -/
def Session.Flying (s : Session) : Prop := ∃ r values flight, s.requests r =
  some ⟨values, .calling flight⟩

/-- A request newly reserved a room: a first attempt, not yet committed. -/
def Session.Reserving (s : Session) (reserved : Meeting) : Prop :=
  ∃ r values, s.requests r = some ⟨values, .reserving reserved false⟩

section Requests
variable {s : Session} {r : RequestId} {values : CreateValues} {phase : Phase}

theorem Session.Flying.of_drop (h : (s.drop r).Flying) : s.Flying := by
  obtain ⟨r', v, f, hq⟩ := h
  exact ⟨r', v, f, (requests_drop_some hq).2⟩

theorem Session.Reserving.of_drop {reserved : Meeting} (h : (s.drop r).Reserving reserved) :
    ∃ r' v, r' ≠ r ∧ s.requests r' = some ⟨v, .reserving reserved false⟩ := by
  obtain ⟨r', v, hq⟩ := h
  obtain ⟨hne, hold⟩ := requests_drop_some hq
  exact ⟨r', v, hne, hold⟩

/-- A request that goes on calls the provider only if it did before, or starts to. -/
theorem Session.Flying.of_put (h : (s.put r ⟨values, phase⟩).Flying) :
    s.Flying ∨ ∃ f, phase = .calling f := by
  obtain ⟨r', v, f, hq⟩ := h
  rw [requests_put] at hq
  by_cases he : r' = r
  · rw [if_pos he] at hq
    cases hq
    exact Or.inr ⟨f, rfl⟩
  · rw [if_neg he] at hq
    exact Or.inl ⟨r', v, f, hq⟩

theorem Session.Reserving.of_put {reserved : Meeting}
    (h : (s.put r ⟨values, phase⟩).Reserving reserved) :
    (∃ r' v, r' ≠ r ∧ s.requests r' = some ⟨v, .reserving reserved false⟩) ∨
      phase = .reserving reserved false := by
  obtain ⟨r', v, hq⟩ := h
  rw [requests_put] at hq
  by_cases he : r' = r
  · rw [if_pos he] at hq
    cases hq
    exact Or.inr rfl
  · rw [if_neg he] at hq
    exact Or.inl ⟨r', v, he, hq⟩

end Requests

section Moves
variable {cfg : Settings} {accounts : RoomId → Option String} {sc : Scene}

theorem Sound.reserving_locked {m : Meeting} {s : Session} (h : Sound cfg accounts m s)
    {r : RequestId} {v : CreateValues} {reserved : Meeting} {retrying : Bool}
    (hrequest : s.requests r = some ⟨v, .reserving reserved retrying⟩) : s.lock = some r :=
  (h.requests r _ hrequest).locks rfl

/-- While no transaction is open on the row, nothing is reserved for it. -/
theorem Sound.none_reserving {m : Meeting} {s : Session} (h : Sound cfg accounts m s)
    (free : s.lock = none) {reserved : Meeting} : ¬ s.Reserving reserved := by
  rintro ⟨r, v, hrequest⟩
  have hlock := h.reserving_locked hrequest
  rw [free] at hlock
  cases hlock

/-- A request that leaves takes its own reservation with it. -/
theorem Sound.left_reserving {m : Meeting} {s : Session} (h : Sound cfg accounts m s)
    {r : RequestId} {reserved : Meeting} (after : (s.drop r).Reserving reserved) :
    s.Reserving reserved ∧ s.lock ≠ some r := by
  obtain ⟨r', v, hne, hold⟩ := after.of_drop
  refine ⟨⟨r', v, hold⟩, ?_⟩
  intro hlock
  rw [h.reserving_locked hold] at hlock
  exact hne (Option.some.inj hlock)

/-- After a save nothing is reserved for the row. -/
theorem Sound.none_reserving_drop {m : Meeting} {s : Session} (h : Sound cfg accounts m s)
    {r : RequestId} (holder : s.lock = none ∨ s.lock = some r) {reserved : Meeting} :
    ¬ (s.drop r).Reserving reserved := by
  intro after
  obtain ⟨hold, hne⟩ := h.left_reserving after
  rcases holder with free | hlock
  · exact h.none_reserving free hold
  · exact hne hlock

/-- The operation is the attempt of a request to reserve the slot for its times, and the
database takes such a reservation. -/
structure Attempts (cfg : Settings) (sc : Scene) (op : Operation) (values : CreateValues)
    (slot : BoundedRange Int) : Prop where
  request : ∃ r now phase, op = .attempt r now ∧ sc.session.requests r = some ⟨values, phase⟩
  interval : interval cfg values.startAt values.endAt = .ok slot
  reservable : reservable cfg values.startAt values.endAt = true

/-- A reservation after a move was there before and its room's locks are unchanged, or
it is new and took the free lock of a room that is free for its slot. -/
inductive Reserved (cfg : Settings) (sc : Scene) (op : Operation) (effect : Effect)
    (reserved : Meeting) : Prop
  | before : sc.session.Reserving reserved →
      effect.roomLock sc.roomLock sc.row.id = sc.roomLock → Reserved cfg sc op effect reserved
  | new {values : CreateValues} {slot : BoundedRange Int} {room : Room} {now : Int} :
      Attempts cfg sc op values slot →
      reserved = sc.row.reserve room.id values.startAt values.endAt slot now →
      sc.store.room? room.id = some room → sc.roomLock room.id = none →
      (sc.view now).FreeFor room.id slot → (sc.view now).BelowLimit room →
      effect.roomLock sc.roomLock sc.row.id =
        Function.update sc.roomLock room.id (some sc.row.id) → Reserved cfg sc op effect reserved

theorem Move.reserved {op : Operation} {effect : Effect} (move : Move cfg sc op effect)
    (sound : Sound cfg accounts sc.row sc.session) {m : Meeting} {s : Session}
    (outcome : effect.Outcome sc.row m s) {reserved : Meeting} (after : s.Reserving reserved) :
    Reserved cfg sc op effect reserved := by
  have stays : ∀ {r : RequestId} {v : CreateValues} {phase : Phase} {effect : Effect}
      {calls : CallId → Option Call},
      ({ sc.session with calls := calls }.put r ⟨v, phase⟩).Reserving reserved →
      phase ≠ .reserving reserved false → effect.roomLock sc.roomLock sc.row.id = sc.roomLock →
      Reserved cfg sc op effect reserved := by
    intro r v phase effect calls hafter hphase hlocks
    rcases hafter.of_put with ⟨r', v', _, hold⟩ | hnew
    · exact .before ⟨r', v', hold⟩ hlocks
    · exact absurd hnew hphase
  have others : ∀ {r r' : RequestId} {q : Request} {v : CreateValues},
      sc.session.requests r = some q → q.phase.locks = true → r' ≠ r →
      sc.session.requests r' ≠ some ⟨v, .reserving reserved false⟩ := by
    intro r r' q v hrequest locks hne hold
    have hlock := (sound.requests r q hrequest).locks locks
    rw [sound.reserving_locked hold] at hlock
    exact hne (Option.some.inj hlock)
  cases move with
  | @leave _ r q hrequest =>
    cases outcome
    obtain ⟨hold, hne⟩ := sound.left_reserving after
    exact .before hold (by simp [Effect.roomLock, Scene.leave, hne])
  | resume _ _ _ =>
    cases outcome
    exact stays after (fun h => by cases h) rfl
  | allocate _ _ _ =>
    cases outcome
    exact stays after (fun h => by cases h) rfl
  | skip _ =>
    cases outcome
    exact stays after (fun h => by cases h) rfl
  | @reserve r v retrying untried slot room now hrequest hslot hreservable stored free hfree
    below =>
    cases outcome
    rcases Session.Reserving.of_put after with ⟨r', v', hne, hold⟩ | hnew
    · exact absurd hold (others hrequest rfl hne)
    · cases hnew
      exact .new ⟨⟨r, now, _, rfl, hrequest⟩, hslot, hreservable⟩ rfl stored free hfree below rfl
  | @provision r v reserved' retrying now config type room flight hrequest _ _ _ _ =>
    have hlock : sc.session.lock = some r := sound.reserving_locked hrequest
    cases outcome with
    | saved =>
      have hput : (sc.session.put r ⟨v, .calling flight⟩).Reserving reserved := after
      rcases hput.of_put with ⟨r', v', hne, hold⟩ | hnew
      · exact absurd hold (others hrequest rfl hne)
      · cases hnew
    | unsaved => exact absurd after (sound.none_reserving_drop (Or.inr hlock))
  | issued _ _ =>
    cases outcome
    exact stays after (fun h => by cases h) rfl
  | refused _ _ _ =>
    cases outcome
    exact stays after (fun h => by cases h) rfl
  | send _ _ _ =>
    cases outcome
    exact stays after (fun h => by cases h) rfl
  | receive _ _ _ _ _ =>
    cases outcome
    rw [told_calls] at after
    exact stays after (fun h => by cases h) rfl
  | escape _ _ _ _ =>
    cases outcome
    rw [told_calls] at after
    obtain ⟨r', v', _, hold⟩ := after.of_drop
    exact .before ⟨r', v', hold⟩ rfl
  | failure free _ _ =>
    cases outcome <;> exact absurd after (sound.none_reserving_drop (Or.inl free))
  | success free _ _ _ _ =>
    cases outcome <;> exact absurd after (sound.none_reserving_drop (Or.inl free))
  | remoteCreates _ _ _ =>
    cases outcome
    exact .before after rfl
  | upkeep free hup =>
    cases outcome with
    | unsaved => exact absurd after (sound.none_reserving free)
    | saved =>
      cases hup <;> exact absurd after (sound.none_reserving free)

/-- Only the PROVISIONING commit starts to call the provider. -/
theorem Move.flies {op : Operation} {effect : Effect} (move : Move cfg sc op effect)
    {m : Meeting} {s : Session} (outcome : effect.Outcome sc.row m s) (after : s.Flying) :
    sc.session.Flying ∨ m.status = .provisioning := by
  have stays : ∀ {r : RequestId} {v : CreateValues} {phase : Phase} {calls : CallId → Option Call},
      ({ sc.session with calls := calls }.put r ⟨v, phase⟩).Flying → phase.locks = true →
      sc.session.Flying := by
    intro r v phase calls hafter locks
    rcases hafter.of_put with hold | ⟨f, rfl⟩
    · exact hold
    · cases locks
  cases move with
  | leave _ => cases outcome; exact Or.inl after.of_drop
  | resume _ _ _ => cases outcome; exact Or.inl (stays after rfl)
  | allocate _ _ _ => cases outcome; exact Or.inl (stays after rfl)
  | skip _ => cases outcome; exact Or.inl (stays after rfl)
  | reserve _ _ _ _ _ _ _ => cases outcome; exact Or.inl (stays after rfl)
  | provision _ _ _ _ _ =>
    cases outcome with
    | saved => exact Or.inr rfl
    | unsaved => exact Or.inl after.of_drop
  | issued hrequest _ => exact Or.inl ⟨_, _, _, hrequest⟩
  | refused hrequest _ _ => exact Or.inl ⟨_, _, _, hrequest⟩
  | send hrequest _ _ => exact Or.inl ⟨_, _, _, hrequest⟩
  | receive hrequest _ _ _ _ => exact Or.inl ⟨_, _, _, hrequest⟩
  | escape hrequest _ _ _ => exact Or.inl ⟨_, _, _, hrequest⟩
  | failure _ hrequest _ => exact Or.inl ⟨_, _, _, hrequest⟩
  | success _ hrequest _ _ _ => exact Or.inl ⟨_, _, _, hrequest⟩
  | remoteCreates _ _ _ => cases outcome; exact Or.inl after
  | upkeep _ hup =>
    left
    cases outcome with
    | unsaved => exact after
    | saved => cases hup <;> exact after

end Moves

section Runs
variable {cfg : Settings} {accounts : RoomId → Option String} {w w' : World}

/-- Every reservation not yet committed is under the lock of its room. -/
def World.Holding (w : World) : Prop :=
  ∀ m reserved, w.store.meeting? m.id = some m → (w.sessions m.id).Reserving reserved →
    ∃ room, reserved.room = some room ∧ w.roomLock room = some m.id

theorem opened_reserving {client : ClientId} {values : CreateValues} {r : RequestId}
    {reserved : Meeting} : ¬ (Session.opened r client values).Reserving reserved := by
  intro h
  have hput : (Session.idle.put r ⟨values, .registered⟩).Reserving reserved := h
  rcases hput.of_put with ⟨_, _, _, hold⟩ | hnew
  · cases hold
  · cases hnew

theorem World.Holding.change (holding : w.Holding) (sound : w.Sound cfg accounts) {l : Label}
    (change : Change cfg w l w') : w'.Holding := by
  intro m reserved hm after
  rcases change.row sound hm with ⟨stored, same, keeps⟩ | ⟨_, hdraft, hopened⟩ |
    ⟨stored, hjoined, locks⟩ | ⟨stored, move, he, outcome, locks⟩
  · rw [same] at after
    obtain ⟨room, hroom, held⟩ := holding m reserved stored after
    exact ⟨room, hroom, keeps room held⟩
  · rw [hopened] at after
    exact absurd after opened_reserving
  · rw [hjoined] at after
    rcases after.of_put with ⟨r', v, _, hold⟩ | hnew
    · rw [locks]
      exact holding m reserved stored ⟨r', v, hold⟩
    · cases hnew
  · have hsound := sound.rows _ stored
    rw [locks]
    rcases move.reserved hsound outcome after with ⟨before, same⟩ | ⟨_, rfl, _, _, _, _, taken⟩
    · obtain ⟨room, hroom, held⟩ := holding _ reserved stored before
      refine ⟨room, hroom, ?_⟩
      rw [he]
      exact (congrFun same room).trans held
    · refine ⟨_, rfl, ?_⟩
      rw [he]
      exact (congrFun taken _).trans (Function.update_self ..)

theorem reached_holding {store : Store} (h : Reached cfg store w) : w.Holding := by
  refine h.invariant ?_ ?_
  · intro m reserved hm
    cases hm
  · intro a l b reached holding hs
    exact holding.change (reached_sound reached) (step_change hs)

/-- A room has at most one reservation not yet committed. -/
theorem World.Holding.single (holding : w.Holding) {m m' reserved reserved' : Meeting}
    (stored : w.store.meeting? m.id = some m) (stored' : w.store.meeting? m'.id = some m')
    (h : (w.sessions m.id).Reserving reserved) (h' : (w.sessions m'.id).Reserving reserved')
    (same : reserved.room = reserved'.room) : m.id = m'.id := by
  obtain ⟨room, hroom, held⟩ := holding m reserved stored h
  obtain ⟨room', hroom', held'⟩ := holding m' reserved' stored' h'
  have heq : room = room' := by
    rw [same, hroom'] at hroom
    exact (Option.some.inj hroom).symm
  rw [heq, held'] at held
  exact (Option.some.inj held).symm

end Runs
end MeetingGateway
