import MeetingGateway.Invariants
import MeetingGateway.ProviderFailures

/-!
# A request that runs alone

The create view is written from beginning to end, the machine step by step. When nothing
else is at work the view's transactions, provider calls and failures are steps of the
machine, so what holds in every reachable world holds between any two requests that
follow one another.
-/

namespace MeetingGateway

open LabelledRuns

/-- No request is at work. -/
structure World.Quiet (w : World) : Prop where
  requests : ∀ pk r, (w.sessions pk).requests r = none
  locks : ∀ pk, (w.sessions pk).lock = none
  rooms : ∀ room, w.roomLock room = none
  fresh : ∀ pk, ∃ n, ∀ id, n ≤ id → (w.sessions pk).calls id = none

def Phase.reserves : Phase → Bool
  | .reserving _ _ => true
  | _ => false

/-- The request is at work on the row, and nothing else is. -/
structure World.Lone (w : World) (row : Meeting) (r : RequestId) (q : Request) : Prop where
  stored : w.store.meeting? row.id = some row
  request : (w.sessions row.id).requests r = some q
  only : ∀ r', r' ≠ r → (w.sessions row.id).requests r' = none
  lock : (w.sessions row.id).lock = if q.phase.locks then some r else none
  others : ∀ pk, pk ≠ row.id → ∀ r', (w.sessions pk).requests r' = none
  otherLocks : ∀ pk, pk ≠ row.id → (w.sessions pk).lock = none
  rooms : ∀ room, w.roomLock room = none ∨
    (w.roomLock room = some row.id ∧ q.phase.reserves = true)
  fresh : ∀ pk, ∃ n, ∀ id, n ≤ id → (w.sessions pk).calls id = none

/-- The machine can come to rest with this store. -/
def World.Ends (cfg : Settings) (w : World) (store : Store) : Prop :=
  ∃ w', Reachable (World.step cfg) w w' ∧ w'.Quiet ∧ w'.store = store

theorem quiet_initial (store : Store) : (World.initial store).Quiet where
  requests := fun _ _ => rfl
  locks := fun _ => rfl
  rooms := fun _ => rfl
  fresh := fun _ => ⟨0, fun _ _ => rfl⟩

section Steps
variable {cfg : Settings} {w w' : World} {row : Meeting} {r : RequestId} {q : Request}
variable {values : CreateValues} {store : Store} {o : Operation} {effect : Effect}

theorem World.Quiet.ends (h : w.Quiet) : w.Ends cfg w.store := ⟨w, .start, h, rfl⟩

theorem World.Ends.of_step {l : Label} (hs : World.step cfg w l = some w')
    (h : w'.Ends cfg store) : w.Ends cfg store := by
  obtain ⟨w'', later, quiet, same⟩ := h
  exact ⟨w'', (Reachable.start.step hs).trans later, quiet, same⟩

/-- What an operation on the lone request's row leads to. -/
theorem World.Lone.ends_of (h : w.Lone row r q)
    (operated : (w.scene row).operate cfg o = some effect)
    (ends : (w.settle row.id effect).Ends cfg store) : w.Ends cfg store := by
  refine .of_step (l := .on row.id o) ?_ ends
  simp only [World.step, h.stored, operated, Option.map_some]

/-- The request goes on; its session keeps what the step does not name. -/
theorem World.Lone.go (h : w.Lone row r q) (q' : Request) (session : Session)
    (rooms : RoomId → Option MeetingId) (excluded : Bool)
    (requests : session.requests = Function.update (w.sessions row.id).requests r (some q'))
    (lock : session.lock = if q'.phase.locks then some r else none)
    (fresh : ∃ n, ∀ id, n ≤ id → session.calls id = none)
    (held : ∀ room, rooms room = none ∨ (rooms room = some row.id ∧ q'.phase.reserves = true)) :
    (w.settle row.id (.quiet session rooms excluded)).Lone row r q' where
  stored := h.stored
  request := by simp [World.settle, requests]
  only := by
    intro r' hne
    simp [World.settle, requests, hne, h.only r' hne]
  lock := by simp [World.settle, lock]
  others := by
    intro pk hne r'
    simp [World.settle, hne, h.others pk hne r']
  otherLocks := by
    intro pk hne
    simp [World.settle, hne, h.otherLocks pk hne]
  rooms := held
  fresh := by
    intro pk
    by_cases he : pk = row.id
    · subst he
      simpa [World.settle] using fresh
    · simpa [World.settle, he] using h.fresh pk

theorem World.Lone.drop_requests (h : w.Lone row r q) (r' : RequestId) :
    ((w.sessions row.id).drop r).requests r' = none := by
  by_cases he : r' = r
  · simp [Session.drop, he]
  · simp [Session.drop, he, h.only r' he]

theorem World.Lone.drop_lock (h : w.Lone row r q) : ((w.sessions row.id).drop r).lock = none := by
  simp only [Session.drop, h.lock]
  cases q.phase.locks <;> simp

/-- The world once the request is gone, with whatever store. -/
theorem World.Lone.gone (h : w.Lone row r q) {store : Store}
    {rooms : RoomId → Option MeetingId} {excluded : List MeetingId}
    (free : ∀ room, rooms room = none) :
    World.Quiet ⟨store, Function.update w.sessions row.id ((w.sessions row.id).drop r), rooms,
      excluded⟩ where
  requests := by
    intro pk r'
    by_cases he : pk = row.id
    · subst he
      simpa using h.drop_requests r'
    · simp [he, h.others pk he r']
  locks := by
    intro pk
    by_cases he : pk = row.id
    · subst he
      simpa using h.drop_lock
    · simp [he, h.otherLocks pk he]
  rooms := free
  fresh := by
    intro pk
    by_cases he : pk = row.id
    · subst he
      simpa [Session.drop] using h.fresh row.id
    · simpa [he] using h.fresh pk

/-- The rooms the request holds are free once it has left. -/
theorem World.Lone.released (h : w.Lone row r q) (room : RoomId) :
    releaseRooms w.roomLock row.id room = none := by
  rcases h.rooms room with free | ⟨held, _⟩
  · simp [releaseRooms, free]
  · simp [releaseRooms, held]

theorem World.Lone.leave_ends (h : w.Lone row r q) (excluded : Bool) :
    (w.settle row.id (Scene.excludedIf excluded ((w.scene row).leave r))).Ends cfg w.store := by
  refine World.Quiet.ends (h.gone fun room => ?_)
  cases hl : q.phase.locks with
  | true =>
    have held : (w.scene row).session.lock = some r := by
      show (w.sessions row.id).lock = some r
      simp [h.lock, hl]
    simp only [held, if_true]
    exact h.released room
  | false =>
    have free : (w.scene row).session.lock ≠ some r := by
      show (w.sessions row.id).lock ≠ some r
      simp [h.lock, hl]
    simp only [free, if_false]
    rcases h.rooms room with none | ⟨_, reserves⟩
    · exact none
    · cases hp : q.phase <;> simp [hp, Phase.locks, Phase.reserves] at hl reserves

/-- An exception that escapes leaves the committed store as it is. -/
theorem World.Lone.dies (h : w.Lone row r q) : w.Ends cfg w.store := by
  have operated : (w.scene row).die r = some ((w.scene row).leave r) := by
    simp only [Scene.die, World.scene, h.request]
  exact h.ends_of (o := .die r) operated (h.leave_ends false)

end Steps

/-- The store after a save the database may refuse. -/
def Store.saved (cfg : Settings) (s : Store) (row : Meeting) : Store :=
  match s.commit cfg row with
  | .ok s' => s'
  | .error _ => s

theorem Store.saved_ok {cfg : Settings} {s s' : Store} {m : Meeting} (h : s.commit cfg m = .ok s') :
    s.saved cfg m = s' := by
  unfold Store.saved
  rw [h]

theorem Store.saved_error {cfg : Settings} {s : Store} {m : Meeting} {e : Raised}
    (h : s.commit cfg m = .error e) :
    s.saved cfg m = s := by
  unfold Store.saved
  rw [h]

theorem Store.commit_ok {cfg : Settings} {s s' : Store} {m : Meeting}
    (h : s.commit cfg m = .ok s') :
    s.save m = .ok s' := by
  unfold Store.commit at h
  split at h
  · cases h
  · cases hs : s.save m with
    | ok s'' =>
      rw [hs] at h
      cases h
      rfl
    | error e =>
      rw [hs] at h
      cases h

section Finish
variable {cfg : Settings} {store : Store} {row : Meeting} {out : Outside}

theorem finishProvision_failed (store : Store) (row : Meeting) {e : ProviderError}
    (calls : providerCalls cfg out = .error (.provider e)) :
    (finishProvision cfg store row out).2 = store ∨
      (finishProvision cfg store row out).2 = store.saved cfg (row.recordFailure e out.now) := by
  unfold finishProvision Store.saved
  rw [calls]
  dsimp only
  split
  · exact Or.inl rfl
  · right
    cases store.commit cfg (row.recordFailure e out.now) with
    | ok store' => rfl
    | error err => rfl

theorem finishProvision_created (store : Store) (row : Meeting) {data : ProviderMeetingResult}
    {token : ProviderAuthResult}
    (calls : providerCalls cfg out = .ok (data, token)) :
    (finishProvision cfg store row out).2 = store ∨
      ∃ ready, row.recordSuccess cfg data out.now = .ok ready ∧
        (finishProvision cfg store row out).2 = store.saved cfg ready := by
  unfold finishProvision Store.saved
  rw [calls]
  dsimp only
  cases hr : row.recordSuccess cfg data out.now with
  | error e => exact Or.inl rfl
  | ok ready =>
    refine Or.inr ⟨ready, rfl, ?_⟩
    dsimp only
    cases store.commit cfg ready with
    | ok store' => rfl
    | error err => rfl

theorem finishProvision_escaped {e : Raised} (calls : providerCalls cfg out = .error e)
    (plain : ∀ err, e ≠ .provider err) : (finishProvision cfg store row out).2 = store := by
  unfold finishProvision
  rw [calls]
  cases e with
  | provider err => exact absurd rfl (plain err)
  | gateway err => rfl
  | python err => rfl

end Finish

section Steps
variable {cfg : Settings} {w : World} {row : Meeting} {r : RequestId} {q : Request}
variable {values : CreateValues} {o : Operation}

section Calls
variable {flight : Flight} {out : Outside} {store : Store} {again : Bool}
variable {token : ProviderAuthResult} {result : HttpResult}

theorem setCall_fresh {s : Session} (id : CallId) (call : Call)
    (h : ∃ n, ∀ other, n ≤ other → s.calls other = none) :
    ∃ n, ∀ other, n ≤ other → (s.setCall id call).calls other = none := by
  obtain ⟨n, unused⟩ := h
  refine ⟨max n (id + 1), fun other le => ?_⟩
  have hne : other ≠ id := Nat.ne_of_gt (le_trans (le_max_right n (id + 1)) le)
  simp [Session.setCall, hne, unused other (le_trans (le_max_left n (id + 1)) le)]

theorem World.Lone.unlocked (h : w.Lone row r ⟨values, .calling flight⟩) :
    (w.sessions row.id).lock = none := h.lock

theorem World.Lone.no_room (h : w.Lone row r ⟨values, .calling flight⟩) (room : RoomId) :
    w.roomLock room = none := by
  rcases h.rooms room with free | ⟨_, reserves⟩
  · exact free
  · cases reserves

/-- A final transaction that the database takes or refuses. -/
theorem World.Lone.writes (h : w.Lone row r ⟨values, .calling flight⟩) {saved : Meeting}
    (operated : (w.scene row).operate cfg o =
      some (.write saved ((w.sessions row.id).drop r) ((w.sessions row.id).drop r))) :
    w.Ends cfg (w.store.saved cfg saved) := by
  cases hc : w.store.commit cfg saved with
  | ok store' =>
    rw [Store.saved_ok hc]
    refine h.ends_of operated ?_
    simp only [World.settle, Store.commit_ok hc]
    exact World.Quiet.ends (h.gone h.released)
  | error e =>
    rw [Store.saved_error hc]
    exact h.dies

theorem World.Lone.fails (h : w.Lone row r ⟨values, .calling flight⟩) {e : ProviderError}
    (stage : flight.stage = .failed e) (calls : providerCalls cfg out = .error (.provider e)) :
    w.Ends cfg (finishProvision cfg w.store row out).2 := by
  have operated : (w.scene row).finish cfg r out.now =
      some (.write (row.recordFailure e out.now) ((w.sessions row.id).drop r)
        ((w.sessions row.id).drop r)) := by
    simp only [Scene.finish, World.scene, h.unlocked, h.request, stage]
  rcases finishProvision_failed w.store row calls with same | same
  · rw [same]
    exact h.dies
  · rw [same]
    exact h.writes (o := .finish r out.now) operated

theorem World.Lone.succeeds (h : w.Lone row r ⟨values, .calling flight⟩)
    {data : ProviderMeetingResult} {token : ProviderAuthResult}
    (stage : flight.stage = .succeeded data token)
    (calls : providerCalls cfg out = .ok (data, token)) :
    w.Ends cfg (finishProvision cfg w.store row out).2 := by
  rcases finishProvision_created w.store row calls with
    same | ⟨ready, hready, same⟩
  · rw [same]
    exact h.dies
  · have operated : (w.scene row).finish cfg r out.now =
        some (.write ready ((w.sessions row.id).drop r) ((w.sessions row.id).drop r)) := by
      simp only [Scene.finish, World.scene, h.unlocked, h.request, stage, hready]
    rw [same]
    exact h.writes (o := .finish r out.now) operated

theorem World.Lone.escapes (h : w.Lone row r q) {e : Raised}
    (calls : providerCalls cfg out = .error e) (plain : ∀ err, e ≠ .provider err) :
    w.Ends cfg (finishProvision cfg w.store row out).2 := by
  rw [finishProvision_escaped calls plain]
  exact h.dies

/-- The request goes on to another stage of its calls. -/
theorem World.Lone.stage (h : w.Lone row r ⟨values, .calling flight⟩) (session : Session)
    (next : Stage) (requests : session.requests = (w.sessions row.id).requests)
    (lock : session.lock = (w.sessions row.id).lock)
    (fresh : ∃ n, ∀ id, n ≤ id → session.calls id = none) :
    (w.settle row.id ((w.scene row).advance session r values flight next)).Lone row r
      ⟨values, .calling { flight with stage := next }⟩ := by
  refine h.go _ _ _ _ ?_ ?_ fresh ?_
  · simp [Session.put, requests]
  · simp [Session.put, lock, h.unlocked, Phase.locks]
  · exact fun room => Or.inl (h.no_room room)

/-- `get_token` returns, and the meeting can be started. -/
theorem World.Lone.authenticates (h : w.Lone row r ⟨values, .calling flight⟩)
    {outcome : TokenOutcome} (stage : flight.stage = .token again)
    (issued : outcome.result = .ok token)
    (next : ∀ w' : World, w'.store = w.store →
      w'.Lone row r ⟨values, .calling { flight with stage := .start again token }⟩ →
      w'.Ends cfg store) : w.Ends cfg store := by
  have operated : (w.scene row).token r outcome =
      some ((w.scene row).advance (w.sessions row.id) r values flight (.start again token)) := by
    simp only [Scene.token, World.scene, h.request, stage, issued]
  exact h.ends_of (o := .token r outcome) operated
    (next _ rfl (h.stage _ _ rfl rfl (h.fresh row.id)))

theorem World.Lone.refused (h : w.Lone row r ⟨values, .calling flight⟩)
    {outcome : TokenOutcome} {e : ProviderError} (stage : flight.stage = .token again)
    (refused : outcome.result = .error (.provider e))
    (calls : providerCalls cfg out = .error (.provider e)) :
    w.Ends cfg (finishProvision cfg w.store row out).2 := by
  have operated : (w.scene row).token r outcome =
      some ((w.scene row).advance (w.sessions row.id) r values flight (.failed e)) := by
    simp only [Scene.token, World.scene, h.request, stage, refused]
  exact h.ends_of (o := .token r outcome) operated
    ((h.stage _ _ rfl rfl (h.fresh row.id)).fails rfl calls)

/-- The session once the exchange is over still has call ids that are not in use. -/
theorem told_fresh {sc : Scene} (id : CallId) (call : Call) (result : HttpResult)
    (h : ∃ n, ∀ other, n ≤ other → sc.session.calls other = none) :
    ∃ n, ∀ other, n ≤ other → (sc.told id call result).calls other = none := by
  unfold Scene.told
  split
  · exact setCall_fresh id _ h
  · exact h

/-- An answer that creates nothing is one to a call for which nothing was created. -/
theorem World.Lone.receives (h : w.Lone row r ⟨values, .calling flight⟩) {id : CallId}
    {call : Call} (stage : flight.stage = .waiting again token id)
    (sent : (w.sessions row.id).calls id = some call) (uncreated : call.created = false)
    (goes : ∀ (next : Stage) (w' : World), Scene.verdict cfg again token result = some next →
      w'.store = w.store → w'.Lone row r ⟨values, .calling { flight with stage := next }⟩ →
      w'.Ends cfg store)
    (escapes : Scene.verdict cfg again token result = none → store = w.store) :
    w.Ends cfg store := by
  cases hv : Scene.verdict cfg again token result with
  | none =>
    rw [escapes hv]
    exact h.dies
  | some next =>
    have operated : (w.scene row).receive cfg r result = some ((w.scene row).advance
        ((w.scene row).told id call result) r values flight next) := by
      simp only [Scene.receive, World.scene, h.request, stage, sent, uncreated, Bool.and_false,
        Bool.false_eq_true, if_false, hv]
    refine h.ends_of (o := .receive r result) operated (goes next _ hv rfl ?_)
    refine h.stage _ _ ?_ ?_ (told_fresh id call result (h.fresh row.id))
    · unfold Scene.told
      split <;> rfl
    · unfold Scene.told
      split <;> rfl

/-- One exchange with the provider under a call id that is not in use. -/
theorem World.Lone.exchanges (h : w.Lone row r ⟨values, .calling flight⟩)
    (result : HttpResult) (stage : flight.stage = .start again token)
    (goes : ∀ (next : Stage) (w' : World), Scene.verdict cfg again token result = some next →
      w'.store = w.store → w'.Lone row r ⟨values, .calling { flight with stage := next }⟩ →
      w'.Ends cfg store)
    (escapes : Scene.verdict cfg again token result = none → store = w.store) :
    w.Ends cfg store := by
  obtain ⟨n, unused⟩ := h.fresh row.id
  have operated : (w.scene row).send r n = some ((w.scene row).advance
      ((w.sessions row.id).setCall n ((w.scene row).newCall flight)) r values flight
      (.waiting again token n)) := by
    simp only [Scene.send, World.scene, h.request, unused n (le_refl n), stage]
  refine h.ends_of (o := .send r n) operated ?_
  have waiting := h.stage ((w.sessions row.id).setCall n ((w.scene row).newCall flight))
    (.waiting again token n) rfl rfl (setCall_fresh n _ (h.fresh row.id))
  refine waiting.receives (rfl : _ = Stage.waiting again token n) ?_
    (rfl : ((w.scene row).newCall flight).created = false) goes escapes
  simp [World.settle, Scene.advance, Scene.stay, Session.put, Session.setCall]

/-- An exchange that no authentication follows. -/
theorem World.Lone.concludes (h : w.Lone row r ⟨values, .calling flight⟩)
    (result : HttpResult) (stage : flight.stage = .start again token)
    (calls : providerCalls cfg out = (startMeeting cfg result).map fun data => (data, token))
    (last : ∀ e, startMeeting cfg result = .error (.provider e) →
      (!again && decide (e.statusCode = some 401)) = false) :
    w.Ends cfg (finishProvision cfg w.store row out).2 := by
  cases hs : startMeeting cfg result with
  | ok data =>
    have verdict : Scene.verdict cfg again token result = some (.succeeded data token) := by
      unfold Scene.verdict
      rw [hs]
    have calls : providerCalls cfg out = .ok (data, token) := by rw [calls, hs]; rfl
    refine h.exchanges result stage ?_ ?_
    · intro next w' hv same h'
      rw [verdict] at hv
      cases hv
      rw [← same]
      exact h'.succeeds rfl calls
    · intro hv
      rw [verdict] at hv
      cases hv
  | error e =>
    have calls : providerCalls cfg out = .error e := by rw [calls, hs]; rfl
    refine h.exchanges result stage ?_ ?_
    · intro next w' hv same h'
      unfold Scene.verdict at hv
      rw [hs] at hv
      cases e with
      | provider e =>
        dsimp only at hv
        rw [last e hs] at hv
        cases hv
        rw [← same]
        exact h'.fails rfl calls
      | gateway e => cases hv
      | python e => cases hv
    · intro hv
      refine finishProvision_escaped calls ?_
      rintro err rfl
      unfold Scene.verdict at hv
      rw [hs] at hv
      dsimp only at hv
      rw [last err hs] at hv
      cases hv

/-- The authentication and the exchange after the first 401. -/
theorem World.Lone.second_end (h : w.Lone row r ⟨values, .calling flight⟩)
    (stage : flight.stage = .token true)
    (calls : providerCalls cfg out = match out.dropped with
      | .error e => .error (.python e)
      | .ok () =>
        match out.forcedToken.result with
        | .error e => .error e
        | .ok token => (startMeeting cfg out.secondStart).map fun data => (data, token)) :
    w.Ends cfg (finishProvision cfg w.store row out).2 := by
  cases hd : out.dropped with
  | error e =>
    rw [hd] at calls
    exact h.escapes calls (by simp)
  | ok _ =>
    rw [hd] at calls
    cases ht : out.forcedToken.result with
    | error e =>
      simp only [ht] at calls
      cases e with
      | provider e => exact h.refused stage ht calls
      | gateway e => exact h.escapes calls (by simp)
      | python e => exact h.escapes calls (by simp)
    | ok token =>
      simp only [ht] at calls
      refine h.authenticates stage ht fun w' same h' => ?_
      rw [← same]
      exact h'.concludes out.secondStart rfl calls (by simp)

theorem providerCalls_unauthorized {e : ProviderError} (issued : out.token.result = .ok token)
    (hs : startMeeting cfg out.start = .error (.provider e)) (h : e.statusCode = some 401) :
    providerCalls cfg out = match out.dropped with
      | .error e => .error (.python e)
      | .ok () =>
        match out.forcedToken.result with
        | .error e => .error e
        | .ok token => (startMeeting cfg out.secondStart).map fun data => (data, token) := by
  unfold providerCalls
  have rejected : ¬ e.statusCode ≠ some 401 := not_not.mpr h
  rw [issued]
  dsimp only
  rw [hs]
  refine (if_neg rejected).trans ?_
  cases out.dropped with
  | error e => rfl
  | ok _ => cases out.forcedToken.result <;> rfl

/-- The calls of a request that has just committed PROVISIONING. -/
theorem World.Lone.calls_end (h : w.Lone row r ⟨values, .calling flight⟩)
    (stage : flight.stage = .token false) :
    w.Ends cfg (finishProvision cfg w.store row out).2 := by
  cases ht : out.token.result with
  | error e =>
    have calls : providerCalls cfg out = .error e := by simp only [providerCalls, ht]
    cases e with
    | provider e => exact h.refused stage ht calls
    | gateway e => exact h.escapes calls (by simp)
    | python e => exact h.escapes calls (by simp)
  | ok token =>
    refine h.authenticates stage ht fun w' same h' => ?_
    rw [← same]
    by_cases rejected : ∃ e, startMeeting cfg out.start = .error (.provider e) ∧
        e.statusCode = some 401
    · obtain ⟨e, hs, unauthorized⟩ := rejected
      have verdict : Scene.verdict cfg false token out.start = some (.token true) := by
        unfold Scene.verdict
        rw [hs]
        simp [unauthorized]
      refine h'.exchanges out.start rfl ?_ ?_
      · intro next w'' hv same' h''
        rw [verdict] at hv
        cases hv
        rw [← same']
        exact h''.second_end rfl (providerCalls_unauthorized ht hs unauthorized)
      · intro hv
        rw [verdict] at hv
        cases hv
    · refine h'.concludes out.start rfl ?_ ?_
      · unfold providerCalls
        rw [ht]
        dsimp only
        cases hs : startMeeting cfg out.start with
        | ok data => rfl
        | error e =>
          cases e with
          | provider e =>
            have other : e.statusCode ≠ some 401 := fun he => rejected ⟨e, hs, he⟩
            simp [other, Except.map]
          | gateway e => rfl
          | python e => rfl
      · intro e hs
        have other : e.statusCode ≠ some 401 := fun he => rejected ⟨e, hs, he⟩
        simp [other]

end Calls

section Provision
variable {out : Outside} {reserved : Meeting} {retrying : Bool}

theorem Scene.provisions {sc : Scene} {room : Room} {provisioned : Meeting} {payload : JsonObject}
    (request : sc.session.requests r = some ⟨values, .reserving reserved retrying⟩)
    (hp : provisioning cfg sc.store reserved retrying out.now = .ok (provisioned, payload))
    (hroom : reserved.room.bind sc.store.room? = some room) :
    sc.commit cfg r out.now = some (.write provisioned
      ((sc.session.release r ⟨values, .calling ⟨room.id, room.username, payload, retrying,
        .token false⟩⟩).recordProvisioned ⟨room.id, room.username, payload⟩)
      (sc.session.drop r)) := by
  unfold Scene.commit
  rw [request]
  dsimp only
  rw [hp, hroom]

theorem Scene.attempt_ok {sc : Scene} {publicId : String} {rest : List String} {now : Int}
    (request : sc.session.requests r = some ⟨values, .allocating retrying (publicId :: rest)⟩)
    (free : sc.roomFree publicId = true)
    (h : sc.reservation cfg publicId values now = .ok reserved) :
    sc.attempt cfg r now = some (.quiet
      (sc.session.put r ⟨values, .reserving reserved retrying⟩) (sc.holdRoom reserved) false) := by
  unfold Scene.attempt
  rw [request]
  dsimp only
  rw [free, h]
  rfl

theorem Scene.attempt_error {sc : Scene} {publicId : String} {rest : List String} {now : Int}
    {e : Raised}
    (request : sc.session.requests r = some ⟨values, .allocating retrying (publicId :: rest)⟩)
    (free : sc.roomFree publicId = true) (h : sc.reservation cfg publicId values now = .error e) :
    sc.attempt cfg r now = some (excludedIf (sc.reservationExcluded cfg publicId values now)
      (if tryNextRoom e then sc.stay (sc.session.put r ⟨values, .allocating retrying rest⟩)
        else sc.leave r)) := by
  unfold Scene.attempt
  rw [request]
  dsimp only
  rw [free, h]
  rfl

theorem Scene.begin_resume {sc : Scene} (lock : sc.session.lock = none)
    (request : sc.session.requests r = some ⟨values, .registered⟩)
    (h : provisionGate sc.row values = .ok .resume) : sc.begin r =
      some (sc.stay (sc.session.take r ⟨values, .reserving sc.row true⟩)) := by
  unfold Scene.begin
  rw [lock, request]
  dsimp only
  rw [h]

theorem Scene.begin_allocate {sc : Scene} (lock : sc.session.lock = none)
    (request : sc.session.requests r = some ⟨values, .registered⟩)
    (h : provisionGate sc.row values = .ok (.allocate retrying)) : sc.begin r =
      some (sc.stay (sc.session.take r
        ⟨values, .allocating retrying (sc.store.activeRooms.map Room.publicId)⟩)) := by
  unfold Scene.begin
  rw [lock, request]
  dsimp only
  rw [h]

/-- The world after the PROVISIONING commit, whose row keeps its key. -/
theorem World.Lone.committed (h : w.Lone row r q) {saved : Meeting} (q' : Request)
    (p : Provisioned) (same : saved.id = row.id) (unlocks : q'.phase.locks = false) :
    World.Lone ⟨w.store.putMeeting saved, Function.update w.sessions row.id
      (((w.sessions row.id).release r q').recordProvisioned p), releaseRooms w.roomLock row.id,
      w.excluded⟩ saved r q' where
  stored := by
    have old : w.store.meeting? saved.id = some row := by rw [same, h.stored]
    exact Store.meeting?_putMeeting_self old
  request := by
    rw [same]
    simp [Session.recordProvisioned, Session.release, Session.put]
  only := by
    intro r' hne
    rw [same]
    simp [Session.recordProvisioned, Session.release, Session.put, hne, h.only r' hne]
  lock := by
    rw [same, unlocks]
    simp [Session.recordProvisioned, Session.release]
  others := by
    intro pk hne r'
    rw [same] at hne
    simp [hne, h.others pk hne r']
  otherLocks := by
    intro pk hne
    rw [same] at hne
    simp [hne, h.otherLocks pk hne]
  rooms := fun room => Or.inl (h.released room)
  fresh := by
    intro pk
    by_cases he : pk = row.id
    · subst he
      simpa [Session.recordProvisioned, Session.release, Session.put] using h.fresh row.id
    · simpa [he] using h.fresh pk

theorem World.Lone.commit_end (h : w.Lone row r ⟨values, .reserving reserved retrying⟩)
    (same : reserved.id = row.id) {room : Room}
    (hroom : reserved.room.bind w.store.room? = some room) :
    w.Ends cfg (commitProvision cfg w.store reserved retrying out).2 := by
  unfold commitProvision
  cases hp : provisioning cfg w.store reserved retrying out.now with
  | error e => exact h.dies
  | ok provisioned =>
    obtain ⟨provisioned, payload⟩ := provisioned
    dsimp only
    cases hc : w.store.commit cfg provisioned with
    | error e => exact h.dies
    | ok store' =>
      have saved := Store.commit_ok hc
      obtain ⟨_, _, rfl⟩ := Store.save_ok saved
      obtain ⟨_, type, _, _, rfl⟩ := provisioning_ok hp
      have kept : (reserved.toProvisioning cfg payload type out.now).id = row.id := same
      refine h.ends_of (o := .commit r out.now) (Scene.provisions h.request hp hroom) ?_
      simp only [World.settle, saved]
      exact (h.committed ⟨values, .calling ⟨room.id, room.username, payload, retrying,
        .token false⟩⟩ ⟨room.id, room.username, payload⟩ kept rfl).calls_end rfl

/-- A room the allocator reserved is one of the store's. -/
theorem reserveSpecificRoom_room {store : Store} {pk : MeetingId} {publicId : String}
    {start end_ : Datetime} {now : Int}
    (h : reserveSpecificRoom cfg store pk publicId start end_ now = .ok reserved) :
    reserved.id = pk ∧ ∃ room, reserved.room = some room.id ∧
      store.room? room.id = some room := by
  unfold reserveSpecificRoom at h
  split at h
  · rename_i saved hrow
    unfold saveReserved at h
    split at h
    · cases h
      obtain ⟨_, locked, room, _, stored, _, active, _, _, _, rfl⟩ := reservedRow_ok hrow
      have kept : locked.id = pk := Store.meeting?_id stored
      exact ⟨kept, room, rfl, KeyedTable.get?_eq_some.mpr ⟨(activeRoom?_mem active).1, rfl⟩⟩
    · cases h
    · cases h
  · cases h

theorem World.Lone.roomFree (h : w.Lone row r q) (quiet : q.phase.reserves = false)
    (publicId : String) : (w.scene row).roomFree publicId = true := by
  unfold Scene.roomFree
  split
  · rename_i room _
    rcases h.rooms room.id with free | ⟨_, reserves⟩
    · show (w.roomLock room.id).isNone = true
      rw [free]
      rfl
    · rw [quiet] at reserves
      cases reserves
  · rfl

/-- The store once the allocator is through. -/
def allocatedStore (cfg : Settings) (store : Store) (retrying : Bool) (out : Outside) :
    Except Raised Meeting → Store
  | .error _ => store
  | .ok reserved => (commitProvision cfg store reserved retrying out).2

/-- The room of a new reservation is the only one the request holds. -/
theorem World.Lone.holds {untried : List String} {id : RoomId}
    (h : w.Lone row r ⟨values, .allocating retrying untried⟩) (hroom : reserved.room = some id)
    (other : RoomId) : (w.scene row).holdRoom reserved other = none ∨
      ((w.scene row).holdRoom reserved other = some row.id ∧
        (Phase.reserving reserved retrying).reserves = true) := by
  unfold Scene.holdRoom
  rw [hroom]
  by_cases he : other = id
  · subst he
    exact Or.inr ⟨by simp [World.scene], rfl⟩
  · rcases h.rooms other with free | ⟨_, reserves⟩
    · exact Or.inl (by simp [he, World.scene, free])
    · cases reserves

/-- The allocator's loop; the rooms are free, so it never waits. -/
theorem World.Lone.allocate_end {untried : List String} {result : Except Raised Meeting}
    (h : w.Lone row r ⟨values, .allocating retrying untried⟩) (out : Outside)
    (tried : FirstFit.tryEach (fun publicId =>
      reserveSpecificRoom cfg (w.store.putMeeting (row.toDraft out.now)) row.id publicId
        values.startAt values.endAt out.now) tryNextRoom (.gateway noCapacity) untried = result) :
    w.Ends cfg (allocatedStore cfg w.store retrying out result) := by
  induction untried generalizing w with
  | nil =>
    cases tried
    exact h.dies
  | cons publicId rest ih =>
    simp only [FirstFit.tryEach] at tried
    have free := h.roomFree rfl publicId
    cases hr : reserveSpecificRoom cfg (w.store.putMeeting (row.toDraft out.now)) row.id publicId
        values.startAt values.endAt out.now with
    | ok reserved =>
      rw [hr] at tried
      cases tried
      obtain ⟨same, room, hroom, stored⟩ := reserveSpecificRoom_room hr
      refine h.ends_of (o := .attempt r out.now) (Scene.attempt_ok h.request free hr) ?_
      have lone := h.go ⟨values, .reserving reserved retrying⟩
        ((w.sessions row.id).put r ⟨values, .reserving reserved retrying⟩)
        ((w.scene row).holdRoom reserved) false rfl h.lock (h.fresh row.id) (h.holds hroom)
      refine lone.commit_end same (?_ : _ = some room)
      rw [hroom]
      exact stored
    | error e =>
      rw [hr] at tried
      refine h.ends_of (o := .attempt r out.now) (Scene.attempt_error h.request free hr) ?_
      dsimp only at tried
      cases hnext : tryNextRoom e with
      | true =>
        rw [hnext] at tried
        have lone := h.go ⟨values, .allocating retrying rest⟩
          ((w.sessions row.id).put r ⟨values, .allocating retrying rest⟩) w.roomLock
          ((w.scene row).reservationExcluded cfg publicId values out.now) rfl h.lock
          (h.fresh row.id) h.rooms
        exact ih lone tried
      | false =>
        rw [hnext] at tried
        cases tried
        exact h.leave_ends _

/-- The request takes the row's lock. -/
theorem World.Lone.takes (h : w.Lone row r ⟨values, .registered⟩) (q' : Request)
    (locks : q'.phase.locks = true) :
    (w.settle row.id ((w.scene row).stay ((w.sessions row.id).take r q'))).Lone row r q' := by
  refine h.go _ _ _ _ ?_ ?_ (h.fresh row.id) ?_
  · simp [Session.take, Session.put]
  · simp [Session.take, locks]
  · intro room
    rcases h.rooms room with free | ⟨_, reserves⟩
    · exact Or.inl free
    · cases reserves

theorem World.Lone.provision_end (h : w.Lone row r ⟨values, .registered⟩)
    (booked : row.status = .retryableFailed → row.room.isSome = true →
      ∃ room, row.room.bind w.store.room? = some room) :
    w.Ends cfg (provision cfg w.store row values out).2 := by
  unfold provision
  cases hgate : provisionGate row values with
  | error e => exact h.dies
  | ok gate =>
    cases gate with
    | replay => exact h.dies
    | resume =>
      obtain ⟨failed, _, _, _, held⟩ := provisionGate_resume hgate
      obtain ⟨room, hroom⟩ := booked failed held
      exact h.ends_of (o := .begin r) (Scene.begin_resume h.lock h.request hgate)
        ((h.takes ⟨values, .reserving row true⟩ rfl).commit_end rfl hroom)
    | allocate retrying =>
      refine h.ends_of (o := .begin r) (Scene.begin_allocate h.lock h.request hgate) ?_
      have lone := h.takes ⟨values, .allocating retrying
        (w.store.activeRooms.map Room.publicId)⟩ rfl
      dsimp only
      cases ha : allocateAnyRoom cfg (w.store.putMeeting (row.toDraft out.now)) row.id
          values.startAt values.endAt out.now with
      | error e => exact lone.allocate_end out ha
      | ok reserved => exact lone.allocate_end out ha

end Provision
end Steps

section Post
variable {cfg : Settings} {w : World} {store : Store} {row : Meeting} {r : RequestId}
variable {values : CreateValues} {request : PostRequest} {out : Outside}

/-- The world once a request is registered in a world at rest. -/
theorem World.Quiet.registers (h : w.Quiet) (session : Session)
    (stored : store.meeting? row.id = some row)
    (requests : session.requests = Function.update (fun _ => none) r (some ⟨values, .registered⟩))
    (lock : session.lock = none) (fresh : ∃ n, ∀ id, n ≤ id → session.calls id = none) :
    World.Lone ⟨store, Function.update w.sessions row.id session, w.roomLock, w.excluded⟩ row r
      ⟨values, .registered⟩ where
  stored := stored
  request := by simp [requests]
  only := by
    intro r' hne
    simp [requests, hne]
  lock := by simp [lock, Phase.locks]
  others := by
    intro pk hne r'
    simp [hne, h.requests pk r']
  otherLocks := by
    intro pk hne
    simp [hne, h.locks pk]
  rooms := fun room => Or.inl (h.rooms room)
  fresh := by
    intro pk
    by_cases he : pk = row.id
    · subst he
      simpa using fresh
    · simpa [he] using h.fresh pk

/-- The room a failed creation kept is still one of the store's. -/
theorem World.Sound.booked {accounts : RoomId → Option String} (sound : w.Sound cfg accounts)
    (stored : w.store.meeting? row.id = some row) (failed : row.status = .retryableFailed) :
    ∃ room, row.room.bind w.store.room? = some room := by
  have hrow := (sound.rows row stored).row
  obtain ⟨p, hp⟩ := Option.isSome_iff_exists.mp
    (hrow.begun (by simp [failed]) (by simp [failed]))
  have booking := hrow.booked p hp
  have account : (w.store.room? p.room).map Room.username = some p.account := by
    rw [← booking.account, ← sound.accounts]
    rfl
  obtain ⟨room, hroom, _⟩ := Option.map_eq_some_iff.mp account
  exact ⟨room, by rw [booking.room]; exact hroom⟩

/-- A new row is a draft, so it has no room yet. -/
theorem created_end (h : w.Quiet) {fresh : w.store.meeting? row.id = none}
    (hr : register w.store out.pk request.client values out.now = .ok (row, true)) :
    w.Ends cfg (provision cfg (w.store.insertMeeting row fresh) row values out).2 := by
  obtain ⟨rfl, _⟩ := register_created hr
  have created : World.step cfg w (.register 0 out.pk request.client values out.now) =
      some ⟨w.store.insertMeeting (values.draft out.pk request.client out.now) fresh,
        Function.update w.sessions out.pk (Session.opened 0 request.client values), w.roomLock,
        w.excluded⟩ := by
    simp only [World.step, World.register, hr]
    exact dif_pos fresh
  have lone := h.registers (Session.opened 0 request.client values)
    (Store.meeting?_insert_self fresh) rfl rfl ⟨0, fun _ _ => rfl⟩
  refine .of_step created (lone.provision_end ?_)
  intro failed
  cases failed

theorem joined_end {accounts : RoomId → Option String} (sound : w.Sound cfg accounts)
    (h : w.Quiet) (hr : register w.store out.pk request.client values out.now = .ok (row, false)) :
    w.Ends cfg (provision cfg w.store row values out).2 := by
  have stored : w.store.meeting? row.id = some row :=
    KeyedTable.get?_eq_some.mpr ⟨(register_found hr).1, rfl⟩
  have joined : World.step cfg w (.register 0 out.pk request.client values out.now) =
      some ⟨w.store, Function.update w.sessions row.id
        ((w.sessions row.id).put 0 ⟨values, .registered⟩), w.roomLock, w.excluded⟩ := by
    simp only [World.step, World.register, hr, h.requests]
  have idle : (w.sessions row.id).requests = fun _ => none := funext (h.requests row.id)
  have lone := h.registers ((w.sessions row.id).put 0 ⟨values, .registered⟩) stored
    (by rw [Session.put, idle]) (h.locks row.id) (h.fresh row.id)
  refine .of_step joined (lone.provision_end ?_)
  intro failed _
  exact sound.booked stored failed

/-- Whatever a create request does in a world at rest, it leaves a world at rest. -/
theorem post_end (drf : Drf) (request : PostRequest) (out : Outside)
    {accounts : RoomId → Option String} (sound : w.Sound cfg accounts) (h : w.Quiet) :
    w.Ends cfg (MeetingListView.post cfg drf w.store request out).2 := by
  rcases post_handled cfg drf w.store request out with
    ⟨e, hpost⟩ | ⟨values, row, created, store', accepted⟩
  · rw [hpost]
    exact h.ends
  · rw [accepted_post accepted, respond_store]
    have hreg := accepted.registered
    unfold registered at hreg
    cases hr : register w.store out.pk request.client values out.now with
    | error e =>
      rw [hr] at hreg
      cases hreg
    | ok pair =>
      obtain ⟨m, new⟩ := pair
      rw [hr] at hreg
      cases new with
      | true =>
        dsimp only at hreg
        split at hreg
        · cases hreg
          exact created_end h hr
        · cases hreg
      | false =>
        cases hreg
        exact joined_end sound h hr

end Post

end MeetingGateway
