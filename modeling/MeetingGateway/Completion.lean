import MeetingGateway.Creation
import MeetingGateway.Flights
import MeetingGateway.LoneRequests
import MeetingGateway.RoomLocks
import MeetingGateway.Library.Draining
import Mathlib.Algebra.Order.BigOperators.Group.Finset

/-!
# Every request comes to an end

A request waits for the lock of its row and, in the allocator, for the lock of a room. Who
holds a room's lock can commit at once, and who holds a row's lock waits for rooms only, so
some request can always go on. Each step takes a request nearer to its end, whatever
the provider and the caches answer. So the requests of every reachable world come to an
end by their own steps, in any order, in a bounded number of them.
-/

namespace MeetingGateway

open LabelledRuns Draining

/-- A step of a request that does not give up. -/
def Operation.works : Operation → Bool
  | .begin _ | .attempt _ _ | .commit _ _ | .token _ _ | .send _ _ | .receive _ _
  | .finish _ _ => true
  | _ => false

def Label.works : Label → Bool
  | .on _ op => op.works
  | _ => false

/-- The steps a request may still need for its calls and the final transaction. -/
def Stage.load : Stage → Nat
  | .token again => if again then 4 else 7
  | .start again _ => if again then 3 else 6
  | .waiting again _ _ => if again then 2 else 5
  | .failed _ => 1
  | .succeeded _ _ => 1

/-- With the rooms that are active. -/
def Phase.load (rooms : Nat) : Phase → Nat
  | .registered => rooms + 10
  | .allocating _ untried => untried.length + 9
  | .reserving _ _ => 8
  | .calling flight => flight.stage.load

def Session.load (rooms : Nat) (s : Session) (r : RequestId) : Nat :=
  match s.requests r with
  | some q => q.phase.load rooms
  | none => 0

theorem Stage.load_pos (stage : Stage) : 0 < stage.load ∧ stage.load ≤ 7 := by
  cases stage with
  | token again => cases again <;> simp [Stage.load]
  | start again _ => cases again <;> simp [Stage.load]
  | waiting again _ _ => cases again <;> simp [Stage.load]
  | failed _ => simp [Stage.load]
  | succeeded _ _ => simp [Stage.load]

theorem Phase.load_pos (rooms : Nat) (phase : Phase) : 0 < phase.load rooms := by
  cases phase with
  | calling flight => exact flight.stage.load_pos.1
  | registered => simp [Phase.load]
  | allocating _ _ => simp [Phase.load]
  | reserving _ _ => simp [Phase.load]

/-- The session has one request that is nearer to its end, and no other has changed. -/
structure Lightens (rooms : Nat) (s s' : Session) (r : RequestId) : Prop where
  others : ∀ r', r' ≠ r → s'.requests r' = s.requests r'
  less : s'.load rooms r < s.load rooms r

section Lighter
variable {rooms : Nat} {s s' : Session} {r : RequestId} {q q' : Request}

theorem lightens_drop (request : s.requests r = some q)
    (same : s'.requests = (s.drop r).requests) : Lightens rooms s s' r where
  others := by
    intro r' hne
    rw [same, requests_drop, if_neg hne]
  less := by
    have gone : s'.requests r = none := by rw [same, requests_drop, if_pos rfl]
    simp only [Session.load, gone, request]
    exact q.phase.load_pos rooms

theorem lightens_put (q' : Request) (request : s.requests r = some q)
    (same : s'.requests = (s.put r q').requests)
    (less : q'.phase.load rooms < q.phase.load rooms) : Lightens rooms s s' r where
  others := by
    intro r' hne
    rw [same, requests_put, if_neg hne]
  less := by
    have next : s'.requests r = some q' := by rw [same, requests_put, if_pos rfl]
    simp only [Session.load, next, request]
    exact less

end Lighter

section Steps
variable {cfg : Settings} {sc : Scene} {r : RequestId} {effect : Effect} {rooms : Nat}

/-- Every session the effect can leave behind has a request nearer to its end. -/
def Effect.Lightens (rooms : Nat) (sc : Scene) (effect : Effect) : Prop :=
  ∃ r, ∀ m s, effect.Outcome sc.row m s → MeetingGateway.Lightens rooms sc.session s r

theorem leave_lightens {q : Request} (request : sc.session.requests r = some q) :
    (sc.leave r).Lightens rooms sc := by
  refine ⟨r, ?_⟩
  intro m s outcome
  cases outcome
  exact lightens_drop request rfl

theorem quiet_lightens {session : Session} {roomLock : RoomId → Option MeetingId}
    {excluded : Bool} (h : MeetingGateway.Lightens rooms sc.session session r) :
    (Effect.quiet session roomLock excluded).Lightens rooms sc := by
  refine ⟨r, ?_⟩
  intro m s outcome
  cases outcome
  exact h

theorem write_lightens {row : Meeting} {done failed : Session}
    (h : MeetingGateway.Lightens rooms sc.session done r)
    (h' : MeetingGateway.Lightens rooms sc.session failed r) :
    (Effect.write row done failed).Lightens rooms sc := by
  refine ⟨r, ?_⟩
  intro m s outcome
  cases outcome with
  | saved => exact h
  | unsaved => exact h'

theorem begin_lightens (h : sc.begin r = some effect) :
    effect.Lightens sc.store.activeRooms.length sc := by
  unfold Scene.begin at h
  split at h
  · rename_i values hlock hrequest
    split at h
    · cases h
      exact leave_lightens hrequest
    · cases h
      exact quiet_lightens (lightens_put _ hrequest rfl (by simp [Phase.load]))
    · cases h
      exact quiet_lightens (lightens_put _ hrequest rfl (by simp [Phase.load]))
    · cases h
      exact leave_lightens hrequest
  · cases h

theorem attempt_lightens {now : Int} (h : sc.attempt cfg r now = some effect) :
    effect.Lightens rooms sc := by
  unfold Scene.attempt at h
  split at h
  · rename_i values retrying untried hrequest
    split at h
    · cases h
      exact leave_lightens hrequest
    · rename_i publicId rest
      split at h
      · cases h
      · split at h
        · cases h
          exact quiet_lightens (lightens_put _ hrequest rfl (by simp [Phase.load]))
        · rename_i e _
          cases h
          by_cases hnext : tryNextRoom e = true
          · rw [if_pos hnext]
            exact quiet_lightens (lightens_put _ hrequest rfl (by simp [Phase.load]))
          · rw [if_neg hnext]
            exact quiet_lightens (lightens_drop hrequest rfl)
  · cases h

theorem verdict_lowers {again : Bool} {token : ProviderAuthResult} {result : HttpResult}
    {stage : Stage} {id : CallId} (h : Scene.verdict cfg again token result = some stage) :
    stage.load < (Stage.waiting again token id).load := by
  unfold Scene.verdict at h
  split at h
  · cases h
    cases again <;> simp [Stage.load]
  · split at h
    · rename_i hunauthorized
      cases h
      obtain ⟨first, _⟩ := Bool.and_eq_true_iff.mp hunauthorized
      simp only [Bool.not_eq_true'] at first
      simp [Stage.load, first]
    · cases h
      cases again <;> simp [Stage.load]
  · cases h

theorem receive_lightens {result : HttpResult} (h : sc.receive cfg r result = some effect) :
    effect.Lightens rooms sc := by
  unfold Scene.receive at h
  split at h
  · rename_i values flight hrequest
    split at h
    · rename_i again token id hstage
      split at h
      · cases h
      · rename_i call hcall
        split at h
        · cases h
        · split at h
          · rename_i stage hverdict
            cases h
            refine quiet_lightens (lightens_put ⟨values, .calling { flight with stage := stage }⟩
              hrequest ?_ ?_)
            · simp only [Session.put, told_requests]
            · simp only [Phase.load, hstage]
              exact verdict_lowers hverdict
          · cases h
            refine quiet_lightens (lightens_drop hrequest ?_)
            simp only [Session.drop, told_requests]
    · cases h
  · cases h

/-- Work takes some request of the row nearer to its end. -/
theorem works_lightens {op : Operation} (stored : sc.store.meeting? sc.row.id = some sc.row)
    (work : op.works = true) (h : sc.operate cfg op = some effect) :
    effect.Lightens sc.store.activeRooms.length sc := by
  cases op with
  | begin r => exact begin_lightens h
  | attempt r now => exact attempt_lightens h
  | receive r result => exact receive_lightens h
  | commit r now =>
    cases operate_move stored h with
    | leave hrequest => exact leave_lightens hrequest
    | provision hrequest _ _ _ hflight =>
      refine write_lightens (lightens_put _ hrequest rfl ?_) (lightens_drop hrequest rfl)
      rw [hflight]
      simp [Phase.load, Stage.load]
    | upkeep _ hup => cases hup
  | token r outcome =>
    cases operate_move stored h with
    | leave hrequest => exact leave_lightens hrequest
    | @issued _ _ _ again _ _ hrequest hstage =>
      refine quiet_lightens (lightens_put _ hrequest rfl ?_)
      cases again <;> simp [Phase.load, Stage.load, hstage]
    | @refused _ _ _ again _ _ hrequest hstage _ =>
      refine quiet_lightens (lightens_put _ hrequest rfl ?_)
      cases again <;> simp [Phase.load, Stage.load, hstage]
    | upkeep _ hup => cases hup
  | send r id =>
    cases operate_move stored h with
    | leave hrequest => exact leave_lightens hrequest
    | @send _ _ _ again _ _ hrequest hstage _ =>
      refine quiet_lightens (lightens_put _ hrequest rfl ?_)
      cases again <;> simp [Phase.load, Stage.load, hstage]
    | upkeep _ hup => cases hup
  | finish r now =>
    cases operate_move stored h with
    | leave hrequest => exact leave_lightens hrequest
    | failure _ hrequest _ =>
      exact write_lightens (lightens_drop hrequest rfl) (lightens_drop hrequest rfl)
    | success _ hrequest _ _ _ =>
      exact write_lightens (lightens_drop hrequest rfl) (lightens_drop hrequest rfl)
    | upkeep _ hup => cases hup
  | _ => cases work

end Steps

/-- A call that is waited for was made, and there are call ids that are not in use. -/
structure Attended (s : Session) : Prop where
  waiting : ∀ r v flight again token id, s.requests r = some ⟨v, .calling flight⟩ →
    flight.stage = .waiting again token id → (s.calls id).isSome = true
  fresh : ∃ n, ∀ id, n ≤ id → s.calls id = none

section Attention
variable {s t : Session} {r : RequestId} {q : Request}

theorem Attended.congr (h : Attended s) (requests : t.requests = s.requests)
    (calls : t.calls = s.calls) : Attended t where
  waiting := by
    rw [requests, calls]
    exact h.waiting
  fresh := by
    rw [calls]
    exact h.fresh

theorem Attended.drop (h : Attended s) (r : RequestId) : Attended (s.drop r) where
  waiting := by
    intro r' v flight again token id hrequest
    exact h.waiting r' v flight again token id (requests_drop_some hrequest).2
  fresh := h.fresh

theorem Attended.put (h : Attended s) (r : RequestId) {q : Request}
    (made : ∀ flight again token id, q.phase = .calling flight →
      flight.stage = .waiting again token id → (s.calls id).isSome = true) :
    Attended (s.put r q) where
  waiting := by
    intro r' v flight again token id hrequest hstage
    rw [requests_put] at hrequest
    by_cases he : r' = r
    · rw [if_pos he] at hrequest
      cases hrequest
      exact made flight again token id rfl hstage
    · rw [if_neg he] at hrequest
      exact h.waiting r' v flight again token id hrequest hstage
  fresh := h.fresh

theorem Attended.setCall (h : Attended s) (id : CallId) (call : Call) :
    Attended (s.setCall id call) where
  waiting := by
    intro r v flight again token id' hrequest hstage
    have made := h.waiting r v flight again token id' hrequest hstage
    by_cases he : id' = id
    · simp [Session.setCall, he]
    · simpa [Session.setCall, he] using made
  fresh := setCall_fresh id call h.fresh

theorem Attended.told {sc : Scene} (h : Attended sc.session) (id : CallId) (call : Call)
    (result : HttpResult) : Attended (sc.told id call result) := by
  unfold Scene.told
  split
  · exact h.setCall id _
  · exact h

theorem attended_invariant (cfg : Settings) :
    RowInvariant cfg (fun _ _ => True) fun _ s => Attended s where
  opened := by
    intro values pk client r now _
    have idle : Attended Session.idle :=
      ⟨fun _ _ _ _ _ _ h => (by cases h), ⟨0, fun _ _ => rfl⟩⟩
    exact (idle.put r fun _ _ _ _ h => by cases h).congr rfl rfl
  joined := by
    intro m s r values h
    exact h.put r fun _ _ _ _ h => by cases h
  moved := by
    intro accounts w row op effect m s stored sound h _ move outcome
    cases move with
    | leave _ =>
      cases outcome
      exact h.drop _
    | resume _ _ _ =>
      cases outcome
      exact (h.put _ fun _ _ _ _ h => by cases h).congr rfl rfl
    | allocate _ _ _ =>
      cases outcome
      exact (h.put _ fun _ _ _ _ h => by cases h).congr rfl rfl
    | skip _ =>
      cases outcome
      exact h.put _ fun _ _ _ _ h => by cases h
    | reserve _ _ _ _ _ _ _ =>
      cases outcome
      exact h.put _ fun _ _ _ _ h => by cases h
    | provision _ _ _ _ hflight =>
      cases outcome with
      | saved =>
        refine (h.put _ ?_).congr rfl rfl
        rintro f again token id ⟨⟩ hstage
        rw [hflight] at hstage
        cases hstage
      | unsaved => exact h.drop _
    | issued _ _ =>
      cases outcome
      exact h.put _ fun _ _ _ _ hphase hstage => by cases hphase; cases hstage
    | refused _ _ _ =>
      cases outcome
      exact h.put _ fun _ _ _ _ hphase hstage => by cases hphase; cases hstage
    | @send r v flight again token id _ _ _ =>
      cases outcome
      refine (h.setCall id _).put r ?_
      rintro f again' token' id' ⟨⟩ ⟨⟩
      simp [Session.setCall]
    | receive _ _ _ _ verdict =>
      cases outcome
      refine (h.told _ _ _).put _ ?_
      rintro f again token id ⟨⟩ hstage
      cases verdict <;> cases hstage
    | escape _ _ _ _ =>
      cases outcome
      exact (h.told _ _ _).drop _
    | failure _ _ _ => cases outcome <;> exact h.drop _
    | success _ _ _ _ _ => cases outcome <;> exact h.drop _
    | remoteCreates _ _ _ =>
      cases outcome
      exact h.setCall _ _
    | upkeep _ hup =>
      cases outcome with
      | saved => cases hup <;> exact h.congr rfl rfl
      | unsaved => exact h

end Attention

/-- A request of the row has reserved the room and not committed yet. -/
def Session.Holder (s : Session) (room : RoomId) : Prop :=
  ∃ r v reserved retrying, s.requests r = some ⟨v, .reserving reserved retrying⟩ ∧
    reserved.room = some room

/-- Whoever holds a room's lock is about to commit. -/
def World.Held (w : World) : Prop :=
  ∀ room pk, w.roomLock room = some pk → (w.sessions pk).Holder room

section Holders
variable {cfg : Settings} {accounts : RoomId → Option String} {sc : Scene} {room : RoomId}
variable {op : Operation} {effect : Effect} {m : Meeting} {s : Session}

theorem releaseRooms_self (roomLock : RoomId → Option MeetingId) (pk : MeetingId) (room : RoomId) :
    releaseRooms roomLock pk room ≠ some pk := by
  unfold releaseRooms
  split
  · simp
  · assumption

theorem releaseRooms_some {roomLock : RoomId → Option MeetingId} {pk other : MeetingId}
    {room : RoomId} (h : releaseRooms roomLock pk room = some other) :
    roomLock room = some other := by
  unfold releaseRooms at h
  split at h
  · cases h
  · exact h

/-- No operation gives a room's lock to another meeting. -/
theorem Move.locks_others (move : Move cfg sc op effect) {other : MeetingId}
    (hne : other ≠ sc.row.id)
    (held : effect.roomLock sc.roomLock sc.row.id room = some other) :
    sc.roomLock room = some other := by
  cases move with
  | @leave _ r _ _ =>
    by_cases hlock : sc.session.lock = some r
    · simp only [Effect.roomLock, Scene.leave, if_pos hlock] at held
      exact releaseRooms_some held
    · simpa [Effect.roomLock, Scene.leave, hlock] using held
  | @reserve _ _ _ _ _ chosen _ _ _ _ _ _ _ _ =>
    have held' : Function.update sc.roomLock chosen.id (some sc.row.id) room = some other := held
    by_cases he : room = chosen.id
    · subst he
      rw [Function.update_self] at held'
      exact absurd (Option.some.inj held').symm hne
    · rwa [Function.update_of_ne he] at held'
  | provision _ _ _ _ _ => exact releaseRooms_some held
  | failure _ _ _ => exact releaseRooms_some held
  | success _ _ _ _ _ => exact releaseRooms_some held
  | upkeep _ _ => exact releaseRooms_some held
  | _ => exact held

theorem Session.Holder.of_requests {t : Session} (h : s.Holder room)
    (kept : ∀ r v reserved retrying, s.requests r = some ⟨v, .reserving reserved retrying⟩ →
      t.requests r = s.requests r) : t.Holder room := by
  obtain ⟨r, v, reserved, retrying, hrequest, hroom⟩ := h
  exact ⟨r, v, reserved, retrying, (kept r v reserved retrying hrequest).trans hrequest, hroom⟩

/-- The holder of a room's lock has its row's lock, so no other transaction is open there. -/
theorem Sound.holder (sound : Sound cfg accounts m s) (h : s.Holder room) :
    ∃ r v reserved retrying, s.lock = some r ∧
      s.requests r = some ⟨v, .reserving reserved retrying⟩ := by
  obtain ⟨r, v, reserved, retrying, hrequest, _⟩ := h
  exact ⟨r, v, reserved, retrying, sound.reserving_locked hrequest, hrequest⟩

theorem Sound.not_holder_free (sound : Sound cfg accounts m s) (free : s.lock = none) :
    ¬ s.Holder room := by
  intro h
  obtain ⟨r, _, _, _, locked, _⟩ := sound.holder h
  rw [free] at locked
  cases locked

theorem Sound.not_holder_allocating (sound : Sound cfg accounts m s) {r : RequestId}
    {v : CreateValues} {retrying : Bool} {untried : List String}
    (h : s.requests r = some ⟨v, .allocating retrying untried⟩) : ¬ s.Holder room := by
  intro holder
  obtain ⟨r', _, _, _, locked, hrequest⟩ := sound.holder holder
  rw [(sound.requests r _ h).locks rfl] at locked
  cases locked
  rw [h] at hrequest
  cases hrequest

/-- A request that calls the provider is not the one that holds a room. -/
theorem Session.Holder.beside {t : Session} {r : RequestId} {v : CreateValues} {flight : Flight}
    (h : s.Holder room) (calling : s.requests r = some ⟨v, .calling flight⟩)
    (others : ∀ r', r' ≠ r → t.requests r' = s.requests r') : t.Holder room := by
  refine h.of_requests ?_
  intro r' v' reserved retrying hrequest
  refine others r' ?_
  rintro rfl
  rw [calling] at hrequest
  cases hrequest

theorem Move.holder (move : Move cfg sc op effect) (sound : Sound cfg accounts sc.row sc.session)
    (outcome : effect.Outcome sc.row m s)
    (before : sc.roomLock room = some sc.row.id → sc.session.Holder room)
    (held : effect.roomLock sc.roomLock sc.row.id room = some sc.row.id) : s.Holder room := by
  have put_others : ∀ (s : Session) (r : RequestId) (q : Request) (r' : RequestId), r' ≠ r →
      (s.put r q).requests r' = s.requests r' := by
    intro s r q r' hne
    rw [requests_put, if_neg hne]
  have drop_others : ∀ (s : Session) (r : RequestId) (r' : RequestId), r' ≠ r →
      (s.drop r).requests r' = s.requests r' := by
    intro s r r' hne
    rw [requests_drop, if_neg hne]
  cases move with
  | @leave _ r _ _ =>
    cases outcome
    by_cases hlock : sc.session.lock = some r
    · simp only [Effect.roomLock, Scene.leave, if_pos hlock] at held
      exact (releaseRooms_self _ _ _ held).elim
    · simp only [Effect.roomLock, Scene.leave, if_neg hlock] at held
      refine (before held).of_requests ?_
      intro r' v reserved retrying hrequest
      refine drop_others _ _ _ ?_
      rintro rfl
      exact hlock (sound.reserving_locked hrequest)
  | resume free _ _ => exact absurd (before held) (sound.not_holder_free free)
  | allocate free _ _ => exact absurd (before held) (sound.not_holder_free free)
  | skip hrequest => exact absurd (before held) (sound.not_holder_allocating hrequest)
  | @reserve r v retrying untried slot chosen now hrequest _ _ _ _ _ _ =>
    cases outcome
    have held' : Function.update sc.roomLock chosen.id (some sc.row.id) room = some sc.row.id :=
      held
    by_cases he : room = chosen.id
    · subst he
      refine ⟨r, v, sc.row.reserve chosen.id v.startAt v.endAt slot now, retrying, ?_, rfl⟩
      rw [requests_put, if_pos rfl]
    · rw [Function.update_of_ne he] at held'
      exact absurd (before held') (sound.not_holder_allocating hrequest)
  | provision _ _ _ _ _ => exact (releaseRooms_self _ _ _ held).elim
  | failure _ _ _ => exact (releaseRooms_self _ _ _ held).elim
  | success _ _ _ _ _ => exact (releaseRooms_self _ _ _ held).elim
  | upkeep _ _ => exact (releaseRooms_self _ _ _ held).elim
  | issued hrequest _ =>
    cases outcome
    exact (before held).beside hrequest (put_others _ _ _)
  | refused hrequest _ _ =>
    cases outcome
    exact (before held).beside hrequest (put_others _ _ _)
  | send hrequest _ _ =>
    cases outcome
    exact (before held).beside hrequest (put_others _ _ _)
  | receive hrequest _ _ _ _ =>
    cases outcome
    refine (before held).beside hrequest fun r' hne => ?_
    rw [put_others _ _ _ _ hne, told_requests]
  | escape hrequest _ _ _ =>
    cases outcome
    refine (before held).beside hrequest fun r' hne => ?_
    rw [drop_others _ _ _ hne, told_requests]
  | remoteCreates _ _ _ =>
    cases outcome
    exact before held

end Holders

section Runs
variable {cfg : Settings} {accounts : RoomId → Option String} {store : Store} {w w' : World}

theorem reached_attended (h : Reached cfg store w) (pk : MeetingId) : Attended (w.sessions pk) := by
  cases stored : w.store.meeting? pk with
  | none =>
    rw [(reached_sound h).idle pk stored]
    exact ⟨fun _ _ _ _ _ _ h => (by cases h), ⟨0, fun _ _ => rfl⟩⟩
  | some m =>
    have hid : m.id = pk := Store.meeting?_id stored
    subst hid
    exact (attended_invariant cfg).always h m stored

/-- An operation changes the session of its row only, and no room. -/
theorem settled_session (w : World) (row : Meeting) (effect : Effect) :
    ∃ m s, effect.Outcome row m s ∧
      (w.settle row.id effect).sessions = Function.update w.sessions row.id s ∧
      (w.settle row.id effect).store.activeRooms = w.store.activeRooms := by
  have settled := settle_settled w row.id effect
  generalize w.settle row.id effect = w' at settled
  cases settled with
  | quiet => exact ⟨_, _, .quiet, rfl, rfl⟩
  | saved _ _ => exact ⟨_, _, .saved, rfl, rfl⟩
  | unsaved _ => exact ⟨_, _, .unsaved, rfl, rfl⟩

theorem World.Held.change (held : w.Held) (sound : w.Sound cfg accounts) {l : Label}
    (change : Change cfg w l w') : w'.Held := by
  intro room pk hlock
  cases change with
  | refused _ => exact held room pk hlock
  | @created r pk' client values now fresh _ =>
    have before := held room pk hlock
    by_cases he : pk = pk'
    · subst he
      rw [sound.idle pk fresh] at before
      obtain ⟨_, _, _, _, hrequest, _⟩ := before
      cases hrequest
    · show (Function.update w.sessions pk' _ pk).Holder room
      rw [Function.update_of_ne he]
      exact before
  | @joined r pk' client values now found _ _ _ unused =>
    have before := held room pk hlock
    show (Function.update w.sessions found.id _ pk).Holder room
    by_cases he : pk = found.id
    · subst he
      rw [Function.update_self]
      refine before.of_requests ?_
      intro r' v reserved retrying hrequest
      have hne : r' ≠ r := by
        rintro rfl
        rw [unused] at hrequest
        cases hrequest
      rw [requests_put, if_neg hne]
    · rw [Function.update_of_ne he]
      exact before
  | @operated op row effect stored move =>
    obtain ⟨m, s, outcome, sessions, _⟩ := settled_session w row effect
    rw [settle_roomLock] at hlock
    rw [sessions]
    by_cases he : pk = row.id
    · subst he
      rw [Function.update_self]
      exact move.holder (sound.rows row stored) outcome (held room row.id) hlock
    · rw [Function.update_of_ne he]
      exact held room pk (move.locks_others he hlock)
  | roomEdited _ => exact held room pk hlock
  | systemPresetEdited => exact held room pk hlock
  | clientPresetEdited => exact held room pk hlock

theorem reached_held (h : Reached cfg store w) : w.Held := by
  refine h.invariant ?_ ?_
  · intro room pk hlock
    cases hlock
  · intro a l b reached before hs
    exact before.change (reached_sound reached) (step_change hs)

/-- The requests at work are among these. -/
def World.Tracks (w : World) (works : Finset (MeetingId × RequestId)) : Prop :=
  ∀ pk r, (w.sessions pk).requests r ≠ none → (pk, r) ∈ works

/-- No operation brings a request along. -/
theorem Move.no_request {sc : Scene} {op : Operation} {effect : Effect} {m : Meeting}
    {s : Session} (move : Move cfg sc op effect) (outcome : effect.Outcome sc.row m s)
    {r' : RequestId} (h : s.requests r' ≠ none) : sc.session.requests r' ≠ none := by
  have put : ∀ {s : Session} {r : RequestId} {q q' : Request}, s.requests r = some q →
      (s.put r q').requests r' ≠ none → s.requests r' ≠ none := by
    intro s r q q' hrequest hput
    rw [requests_put] at hput
    by_cases he : r' = r
    · subst he
      simp [hrequest]
    · rwa [if_neg he] at hput
  have drop : ∀ {s : Session} {r : RequestId}, (s.drop r).requests r' ≠ none →
      s.requests r' ≠ none := by
    intro s r hdrop
    rw [requests_drop] at hdrop
    by_cases he : r' = r
    · exact absurd (if_pos he) hdrop
    · rwa [if_neg he] at hdrop
  cases move with
  | leave _ => cases outcome; exact drop h
  | resume _ hrequest _ => cases outcome; exact put hrequest h
  | allocate _ hrequest _ => cases outcome; exact put hrequest h
  | skip hrequest => cases outcome; exact put hrequest h
  | reserve hrequest _ _ _ _ _ _ => cases outcome; exact put hrequest h
  | provision hrequest _ _ _ _ =>
    cases outcome with
    | saved => exact put hrequest h
    | unsaved => exact drop h
  | issued hrequest _ => cases outcome; exact put hrequest h
  | refused hrequest _ _ => cases outcome; exact put hrequest h
  | send hrequest _ _ => cases outcome; exact put hrequest h
  | receive hrequest _ _ _ _ =>
    cases outcome
    rw [Session.put, told_requests] at h
    exact put hrequest h
  | escape _ _ _ _ =>
    cases outcome
    rw [Session.drop, told_requests] at h
    exact drop h
  | failure _ _ _ => cases outcome <;> exact drop h
  | success _ _ _ _ _ => cases outcome <;> exact drop h
  | remoteCreates _ _ _ => cases outcome; exact h
  | upkeep _ hup =>
    cases outcome with
    | saved => cases hup <;> exact h
    | unsaved => exact h

/-- At any time finitely many requests are at work. -/
theorem reached_tracks (h : Reached cfg store w) : ∃ works, w.Tracks works := by
  let Finite : World → Prop := fun w => ∃ works, w.Tracks works
  have start : Finite (World.initial store) := ⟨∅, fun _ _ h => absurd rfl h⟩
  refine h.invariant start fun a l b reached before hs => ?_
  · obtain ⟨works, tracks⟩ := before
    have updated : ∀ (r : RequestId) {pk : MeetingId} {s : Session},
        (∀ r', r' ≠ r → s.requests r' ≠ none → (a.sessions pk).requests r' ≠ none) →
        ∀ pk' r', (Function.update a.sessions pk s pk').requests r' ≠ none →
          (pk', r') ∈ insert (pk, r) works := by
      intro r pk s only pk' r' hsome
      by_cases he : pk' = pk
      · subst he
        rw [Function.update_self] at hsome
        by_cases hr : r' = r
        · subst hr
          exact Finset.mem_insert_self ..
        · exact Finset.mem_insert_of_mem (tracks pk' r' (only r' hr hsome))
      · rw [Function.update_of_ne he] at hsome
        exact Finset.mem_insert_of_mem (tracks pk' r' hsome)
    cases step_change hs with
    | refused _ => exact ⟨works, tracks⟩
    | @created r _ _ _ _ _ _ =>
      refine ⟨_, updated r ?_⟩
      intro r' hne hsome
      have opened : (Session.idle.put _ _).requests r' ≠ none := hsome
      rw [requests_put, if_neg hne] at opened
      exact absurd rfl opened
    | @joined r _ _ _ _ _ _ _ _ _ =>
      refine ⟨_, updated r ?_⟩
      intro r' hne hsome
      rwa [requests_put, if_neg hne] at hsome
    | @operated op row effect stored move =>
      obtain ⟨m, s, outcome, sessions, _⟩ := settled_session a row effect
      refine ⟨works, fun pk r' hsome => ?_⟩
      rw [sessions] at hsome
      by_cases he : pk = row.id
      · subst he
        rw [Function.update_self] at hsome
        exact tracks row.id r' (move.no_request outcome hsome)
      · rw [Function.update_of_ne he] at hsome
        exact tracks pk r' hsome
    | roomEdited _ => exact ⟨works, tracks⟩
    | systemPresetEdited => exact ⟨works, tracks⟩
    | clientPresetEdited => exact ⟨works, tracks⟩

end Runs

section Progress
variable {cfg : Settings} {sc : Scene} {r : RequestId} {values : CreateValues}

theorem commit_enabled {reserved : Meeting} {retrying : Bool}
    (request : sc.session.requests r = some ⟨values, .reserving reserved retrying⟩) (now : Int) :
    ∃ effect, sc.commit cfg r now = some effect := by
  unfold Scene.commit
  rw [request]
  dsimp only
  split <;> exact ⟨_, rfl⟩

theorem attempt_enabled {retrying : Bool} {untried : List String}
    (request : sc.session.requests r = some ⟨values, .allocating retrying untried⟩)
    (free : ∀ room, sc.roomLock room = none) (now : Int) :
    ∃ effect, sc.attempt cfg r now = some effect := by
  cases untried with
  | nil =>
    unfold Scene.attempt
    rw [request]
    exact ⟨_, rfl⟩
  | cons publicId rest =>
    have roomFree : sc.roomFree publicId = true := by
      unfold Scene.roomFree
      split
      · rw [free]
        rfl
      · rfl
    cases h : sc.reservation cfg publicId values now with
    | ok reserved => exact ⟨_, Scene.attempt_ok request roomFree h⟩
    | error e => exact ⟨_, Scene.attempt_error request roomFree h⟩

theorem begin_enabled (free : sc.session.lock = none)
    (request : sc.session.requests r = some ⟨values, .registered⟩) :
    ∃ effect, sc.begin r = some effect := by
  unfold Scene.begin
  rw [free, request]
  dsimp only
  split <;> exact ⟨_, rfl⟩

/-- The calls go on whatever the provider does; a failed connection is one thing it can do. -/
theorem calling_enabled {flight : Flight} (attended : Attended sc.session)
    (free : sc.session.lock = none)
    (request : sc.session.requests r = some ⟨values, .calling flight⟩) :
    ∃ op effect, op.works = true ∧ sc.operate cfg op = some effect := by
  cases hstage : flight.stage with
  | token again =>
    refine ⟨.token r (.refused .providerUnavailable none), ?_⟩
    simp only [Scene.operate, Scene.token, request, hstage, TokenOutcome.result, Operation.works,
      true_and]
    exact ⟨_, rfl⟩
  | start again token =>
    obtain ⟨n, unused⟩ := attended.fresh
    refine ⟨.send r n, ?_⟩
    simp only [Scene.operate, Scene.send, request, unused n (le_refl n), hstage, Operation.works,
      true_and]
    exact ⟨_, rfl⟩
  | waiting again token id =>
    have made := attended.waiting r values flight again token id request hstage
    obtain ⟨call, hcall⟩ := Option.isSome_iff_exists.mp made
    refine ⟨.receive r (.failed .readTimeout true), ?_⟩
    simp only [Scene.operate, Scene.receive, request, hstage, hcall, HttpResult.createsNothing,
      TransportError.preSend, Bool.false_and, Bool.false_eq_true, if_false, Operation.works,
      true_and]
    cases Scene.verdict cfg again token (.failed .readTimeout true) with
    | some stage => exact ⟨_, rfl⟩
    | none => exact ⟨_, rfl⟩
  | failed e =>
    refine ⟨.finish r 0, ?_⟩
    simp only [Scene.operate, Scene.finish, free, request, hstage, Operation.works, true_and]
    exact ⟨_, rfl⟩
  | succeeded data token =>
    refine ⟨.finish r 0, ?_⟩
    simp only [Scene.operate, Scene.finish, free, request, hstage, Operation.works, true_and]
    cases sc.row.recordSuccess cfg data 0 with
    | ok row => exact ⟨_, rfl⟩
    | error e => exact ⟨_, rfl⟩

end Progress

section Ends
variable {cfg : Settings} {store : Store} {w w' : World}

def World.Idle (w : World) : Prop := ∀ pk r, (w.sessions pk).requests r = none

theorem operation_enabled {m : Meeting} (op : Operation) {effect : Effect}
    (stored : w.store.meeting? m.id = some m) (work : op.works = true)
    (h : (w.scene m).operate cfg op = some effect) :
    ∃ l w', Label.works l = true ∧ World.step cfg w l = some w' := by
  refine ⟨.on m.id op, w.settle m.id effect, work, ?_⟩
  simp only [World.step, stored, h, Option.map_some]

/-- Requests are at work on stored rows only. -/
theorem stored_of_request (reached : Reached cfg store w) {pk : MeetingId} {r : RequestId}
    {q : Request} (request : (w.sessions pk).requests r = some q) :
    ∃ m, m.id = pk ∧ w.store.meeting? m.id = some m := by
  cases stored : w.store.meeting? pk with
  | none =>
    rw [(reached_sound reached).idle pk stored] at request
    cases request
  | some m =>
    have hid : m.id = pk := Store.meeting?_id stored
    exact ⟨m, hid, by rw [hid, stored]⟩

/-- No deadlock: who is about to commit can; if nobody is, no room is locked and every
allocator can go on; and if none is at work, no row is locked either. -/
theorem work_enabled (reached : Reached cfg store w) (busy : ¬ w.Idle) :
    ∃ l w', Label.works l = true ∧ World.step cfg w l = some w' := by
  have sound := reached_sound reached
  by_cases committing : ∃ pk r v reserved retrying,
      (w.sessions pk).requests r = some ⟨v, .reserving reserved retrying⟩
  · obtain ⟨pk, r, v, reserved, retrying, request⟩ := committing
    obtain ⟨m, rfl, stored⟩ := stored_of_request reached request
    have request' : (w.scene m).session.requests r = some ⟨v, .reserving reserved retrying⟩ :=
      request
    obtain ⟨effect, h⟩ := commit_enabled request' 0
    exact operation_enabled (.commit r 0) stored rfl h
  · have rooms : ∀ room, w.roomLock room = none := by
      intro room
      cases hlock : w.roomLock room with
      | none => rfl
      | some pk =>
        obtain ⟨r, v, reserved, retrying, request, _⟩ := reached_held reached room pk hlock
        exact absurd ⟨pk, r, v, reserved, retrying, request⟩ committing
    by_cases allocating : ∃ pk r v retrying untried,
        (w.sessions pk).requests r = some ⟨v, .allocating retrying untried⟩
    · obtain ⟨pk, r, v, retrying, untried, request⟩ := allocating
      obtain ⟨m, rfl, stored⟩ := stored_of_request reached request
      have request' : (w.scene m).session.requests r =
          some ⟨v, .allocating retrying untried⟩ := request
      obtain ⟨effect, h⟩ := attempt_enabled request' rooms 0
      exact operation_enabled (.attempt r 0) stored rfl h
    · obtain ⟨pk, r, q, request⟩ : ∃ pk r q, (w.sessions pk).requests r = some q := by
        by_contra none
        refine busy fun pk r => ?_
        cases hrequest : (w.sessions pk).requests r with
        | none => rfl
        | some q => exact absurd ⟨pk, r, q, hrequest⟩ none
      obtain ⟨m, rfl, stored⟩ := stored_of_request reached request
      have free : (w.scene m).session.lock = none := by
        show (w.sessions m.id).lock = none
        cases hlock : (w.sessions m.id).lock with
        | none => rfl
        | some r' =>
          obtain ⟨⟨v, phase⟩, hrequest, locks⟩ := (sound.rows m stored).locked r' hlock
          cases phase with
          | allocating retrying untried =>
            exact absurd ⟨m.id, r', v, retrying, untried, hrequest⟩ allocating
          | reserving reserved retrying =>
            exact absurd ⟨m.id, r', v, reserved, retrying, hrequest⟩ committing
          | registered => cases locks
          | calling flight => cases locks
      obtain ⟨v, phase⟩ := q
      cases phase with
      | registered =>
        obtain ⟨effect, h⟩ := begin_enabled free
          (show (w.scene m).session.requests r = some ⟨v, .registered⟩ from request)
        exact operation_enabled (.begin r) stored rfl h
      | allocating retrying untried =>
        exact absurd ⟨m.id, r, v, retrying, untried, request⟩ allocating
      | reserving reserved retrying =>
        exact absurd ⟨m.id, r, v, reserved, retrying, request⟩ committing
      | calling flight =>
        have attended : Attended (w.scene m).session := reached_attended reached m.id
        obtain ⟨op, effect, work, h⟩ := calling_enabled attended free
          (show (w.scene m).session.requests r = some ⟨v, .calling flight⟩ from request)
        exact operation_enabled op stored work h

/-- The steps the requests may still need, with the rooms that are active. -/
def World.load (works : Finset (MeetingId × RequestId)) (w : World) : Nat :=
  ∑ work ∈ works, (w.sessions work.1).load w.store.activeRooms.length work.2

/-- Work takes one request nearer to its end and leaves the others and the rooms alone. -/
theorem step_works {l : Label} (work : l.works = true) (h : World.step cfg w l = some w') :
    ∃ pk r, Lightens w.store.activeRooms.length (w.sessions pk) (w'.sessions pk) r ∧
      (∀ pk', pk' ≠ pk → w'.sessions pk' = w.sessions pk') ∧
      w'.store.activeRooms = w.store.activeRooms := by
  cases l with
  | on pk op =>
    simp only [World.step] at h
    split at h
    · cases h
    · rename_i row stored
      have hid := Store.meeting?_id stored
      subst hid
      obtain ⟨effect, heffect, rfl⟩ := Option.map_eq_some_iff.mp h
      obtain ⟨r, lightens⟩ := works_lightens stored work heffect
      obtain ⟨m, s, outcome, sessions, rooms⟩ := settled_session w row effect
      refine ⟨row.id, r, ?_, ?_, rooms⟩
      · rw [sessions, Function.update_self]
        exact lightens m s outcome
      · intro pk' hne
        rw [sessions, Function.update_of_ne hne]
  | _ => cases work

theorem Session.load_pos_iff {rooms : Nat} {s : Session} {r : RequestId} :
    0 < s.load rooms r ↔ s.requests r ≠ none := by
  unfold Session.load
  cases h : s.requests r with
  | none => simp
  | some q => simp [q.phase.load_pos rooms]

/-- What the requests still need runs out, and until then one of them can go on. -/
theorem requests_drain (cfg : Settings) (store : Store) (works : Finset (MeetingId × RequestId)) :
    Drains (World.step cfg) Label.works (fun w => Reached cfg store w ∧ w.Tracks works)
      (World.load works) World.Idle where
  keeps := by
    rintro w l w' ⟨reached, tracks⟩ work h
    refine ⟨reached.step h, ?_⟩
    obtain ⟨pk, r, lightens, others, _⟩ := step_works work h
    intro pk' r' hsome
    refine tracks pk' r' ?_
    by_cases he : pk' = pk
    · subst he
      by_cases hr : r' = r
      · subst hr
        exact Session.load_pos_iff.mp (Nat.zero_lt_of_lt lightens.less)
      · rwa [lightens.others r' hr] at hsome
    · rwa [others pk' he] at hsome
  lowers := by
    rintro w l w' ⟨_, tracks⟩ work h
    obtain ⟨pk, r, lightens, others, rooms⟩ := step_works work h
    have busy : (w.sessions pk).requests r ≠ none :=
      Session.load_pos_iff.mp (Nat.zero_lt_of_lt lightens.less)
    unfold World.load
    rw [rooms]
    refine Finset.sum_lt_sum ?_ ⟨(pk, r), tracks pk r busy, lightens.less⟩
    rintro ⟨pk', r'⟩ _
    by_cases he : pk' = pk
    · subst he
      by_cases hr : r' = r
      · subst hr
        exact lightens.less.le
      · simp only [Session.load, lightens.others r' hr, le_refl]
    · simp only [others pk' he, le_refl]
  goes := fun w kept busy => work_enabled kept.1 busy

theorem quiet_of_idle (reached : Reached cfg store w) (idle : w.Idle) : w.Quiet where
  requests := idle
  locks := by
    intro pk
    cases hlock : (w.sessions pk).lock with
    | none => rfl
    | some r =>
      cases stored : w.store.meeting? pk with
      | none =>
        rw [(reached_sound reached).idle pk stored] at hlock
        cases hlock
      | some m =>
        have hid : m.id = pk := Store.meeting?_id stored
        subst hid
        obtain ⟨q, hrequest, _⟩ := ((reached_sound reached).rows m stored).locked r hlock
        rw [idle m.id r] at hrequest
        cases hrequest
  rooms := by
    intro room
    cases hlock : w.roomLock room with
    | none => rfl
    | some pk =>
      obtain ⟨r, _, _, _, hrequest, _⟩ := reached_held reached room pk hlock
      rw [idle pk r] at hrequest
      cases hrequest
  fresh := fun pk => (reached_attended reached pk).fresh

/-- From every reachable world: the steps the requests take by themselves are bounded in number,
whatever the provider and the caches answer and in whatever order they are taken; where none
is possible any more every request has ended and every lock is free; and there is such a run.
So no request waits for ever, and none keeps a row or a room locked. -/
theorem requests_come_to_rest (reached : Reached cfg store w) :
    (∃ n, ∀ labels w', run (World.step cfg) w labels = some w' →
      (∀ l ∈ labels, Label.works l = true) → labels.length ≤ n ∧
        ((∀ l, Label.works l = true → World.step cfg w' l = none) → w'.Quiet)) ∧
    ∃ labels w', run (World.step cfg) w labels = some w' ∧
      (∀ l ∈ labels, Label.works l = true) ∧ w'.Quiet := by
  obtain ⟨works, tracks⟩ := reached_tracks reached
  have drains := requests_drain cfg store works
  constructor
  · refine ⟨w.load works, ?_⟩
    intro labels w' hrun all
    obtain ⟨⟨reached', _⟩, short⟩ := drains.bounded ⟨reached, tracks⟩ hrun all
    refine ⟨by omega, ?_⟩
    intro stuck
    exact quiet_of_idle reached' (drains.rests ⟨reached, tracks⟩ hrun all stuck)
  · obtain ⟨labels, w', hrun, all, idle⟩ := drains.drains ⟨reached, tracks⟩
    exact ⟨labels, w', hrun, all, quiet_of_idle (reached.trans (reachable_of_run hrun)) idle⟩

/-- Two requests want the only room, and the first has just reserved it. -/
def exampleContended : List Label :=
  [.register 0 1 7 (exampleValues "CLS-001" 10) 0, .register 1 2 7 (exampleValues "CLS-002" 10) 0,
    .on 1 (.begin 0), .on 2 (.begin 1), .on 1 (.attempt 0 0)]

def exampleContention : World := exampleWorld exampleContended (by decide)

/-- The second waits for the room's lock, and still both come to an end. -/
theorem requests_come_to_rest_contended :
    (World.step exampleSettings exampleContention (.on 2 (.attempt 1 0))).isNone = true ∧
      ∃ labels w', run (World.step exampleSettings) exampleContention labels = some w' ∧
        (∀ l ∈ labels, Label.works l = true) ∧ w'.Quiet :=
  ⟨by decide, (requests_come_to_rest (exampleWorld_reached (by decide))).2⟩

end Ends
end MeetingGateway
