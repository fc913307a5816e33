import MeetingGateway.RowInvariants
import MeetingGateway.Creation

/-!
# The status machine over whole runs

ENDED and CANCELLED are final and a READY meeting only goes on to LIVE or ENDED, unless an
error transaction comes late: unlike the success transaction it writes its status
without looking at the row's. Where every error transaction finds its row still waiting
for the outcome, no run breaks the law and no outcome replaces an operator's decision.
-/

namespace MeetingGateway

open LabelledRuns

/-- Where the status of a committed row may go. -/
def Status.mayBecome : Status → Status → Bool
  | .ended, next => decide (next = .ended)
  | .cancelled, next => decide (next = .cancelled)
  | .ready, next => decide (next = .ready) || decide (next = .live) || decide (next = .ended)
  | _, _ => true

theorem Status.mayBecome_refl (status : Status) : status.mayBecome status = true := by
  cases status <;> decide

theorem Status.awaitsOutcome_mayBecome {status : Status} (h : status.awaitsOutcome = true)
    (next : Status) : status.mayBecome next = true := by
  cases status <;> first | rfl | exact absurd h (by decide)

theorem Status.cancellable_mayBecome {status : Status} (h : status.cancellable = true)
    (next : Status) : status.mayBecome next = true := by
  cases status <;> first | rfl | exact absurd h (by decide)

theorem Status.confirmable_mayBecome {status : Status} (h : status.confirmable = true) :
    status.mayBecome .ended = true := by
  cases status <;> first | rfl | exact absurd h (by decide)

/-- The step is the final transaction of a request on this meeting. -/
def Label.finishes (pk : MeetingId) : Label → Bool
  | .on pk' (.finish _ _) => decide (pk' = pk)
  | _ => false

/-- No row leaves a final status or goes back from READY, and an outcome leaves a status
alone that an operator has set since the request's PROVISIONING commit. -/
def World.StatusLaw (w : World) (l : Label) (w' : World) : Prop :=
  ∀ m, w.store.meeting? m.id = some m → ∃ m', w'.store.meeting? m.id = some m' ∧
    m.status.mayBecome m'.status = true ∧
    (l.finishes m.id = true → (w.sessions m.id).history.operatorSet = true →
      m'.status = m.status)

/-- An error transaction finds its row waiting for the outcome. -/
def errorAwaited (w : World) : Label → Bool
  | .on pk (.finish r _) =>
    match w.store.meeting? pk, (w.sessions pk).requests r with
    | some row, some ⟨_, .calling flight⟩ =>
      match flight.stage with
      | .failed _ => row.status.awaitsOutcome
      | _ => true
    | _, _ => true
  | _ => true

theorem errorAwaited_failed {w : World} {row : Meeting} {r : RequestId} {values : CreateValues}
    {flight : Flight} {e : ProviderError} {now : Int}
    (stored : w.store.meeting? row.id = some row)
    (hrequest : (w.sessions row.id).requests r = some ⟨values, .calling flight⟩)
    (stage : flight.stage = .failed e) :
    errorAwaited w (.on row.id (.finish r now)) = row.status.awaitsOutcome := by
  simp only [errorAwaited, stored, hrequest, stage]

/-- A status an operator has set is READY or ENDED. -/
def OperatorDecided (m : Meeting) (s : Session) : Prop :=
  s.history.operatorSet = true → m.status = .ready ∨ m.status = .ended

theorem OperatorDecided.none_awaits {m : Meeting} {s : Session} (h : OperatorDecided m s)
    (awaits : m.status.awaitsOutcome = true) : s.history.operatorSet = false := by
  by_contra hset
  rcases h (by simpa using hset) with hs | hs
  · rw [hs] at awaits
    cases awaits
  · rw [hs] at awaits
    cases awaits

theorem OperatorDecided.undecided {m : Meeting} {s t : Session}
    (none_set : s.history.operatorSet = false) (same : t.history = s.history) :
    OperatorDecided m t := by
  intro hset
  rw [same, none_set] at hset
  cases hset

/-- A step that changes neither the history nor the row. -/
theorem OperatorDecided.same {m m' : Meeting} {s t : Session} (h : OperatorDecided m s)
    (status : m'.status = m.status) (same : t.history = s.history) : OperatorDecided m' t := by
  intro hset
  rw [same] at hset
  rw [status]
  exact h hset

theorem operatorDecided_upkeep {cfg : Settings} {m row : Meeting} {s done : Session}
    {op : Operation} (h : OperatorDecided m s) (upkeep : Upkeep cfg m s op row done) :
    OperatorDecided row done := by
  cases upkeep with
  | sweep hs =>
    refine .undecided (h.none_awaits ?_) rfl
    rw [hs]
    rfl
  | cancelAgain _ => exact h
  | cancel hc =>
    intro hset
    rcases h hset with hs | hs
    · rw [hs] at hc
      cases hc
    · rw [hs] at hc
      cases hc
  | touch _ => exact h.same rfl rfl
  | recover _ _ _ _ => exact fun _ => Or.inl rfl
  | confirmEnded _ => exact fun _ => Or.inr rfl

theorem operatorDecided_invariant (cfg : Settings) :
    RowInvariant cfg (fun w l => errorAwaited w l = true) OperatorDecided where
  opened := by
    intro values pk client r now _ hset
    cases hset
  joined := by
    intro m s r values h
    exact h.same rfl rfl
  moved := by
    intro accounts w row op effect m s stored _ h awaited move outcome
    cases outcome with
    | quiet => exact h.same rfl move.quiet_history
    | unsaved => exact h.same rfl move.failed_history
    | saved =>
      cases move with
      | provision _ _ _ _ _ => exact fun hset => by cases hset
      | failure _ hrequest stage =>
        rw [errorAwaited_failed stored hrequest stage] at awaited
        exact .undecided (h.none_awaits awaited) rfl
      | success _ _ _ _ _ => exact fun _ => Or.inl rfl
      | upkeep _ hup => exact operatorDecided_upkeep h hup

section Law
variable {cfg : Settings} {accounts : RoomId → Option String} {w w' : World}

theorem Upkeep.mayBecome {m row : Meeting} {s done : Session} {op : Operation}
    (upkeep : Upkeep cfg m s op row done) : m.status.mayBecome row.status = true := by
  cases upkeep with
  | sweep hs =>
    rw [hs]
    rfl
  | cancelAgain _ => exact Status.mayBecome_refl _
  | cancel hc => exact Status.cancellable_mayBecome hc _
  | touch _ => exact Status.mayBecome_refl _
  | recover hs _ _ _ =>
    rw [hs]
    rfl
  | confirmEnded hc => exact Status.confirmable_mayBecome hc

/-- What one operation does to its row's status while errors are awaited. -/
theorem Move.statusLaw {row m : Meeting} {s : Session} {op : Operation} {effect : Effect}
    (stored : w.store.meeting? row.id = some row)
    (sound : MeetingGateway.Sound cfg accounts row (w.sessions row.id))
    (decided : OperatorDecided row (w.sessions row.id))
    (awaited : errorAwaited w (.on row.id op) = true) (move : Move cfg (w.scene row) op effect)
    (outcome : effect.Outcome row m s) :
    row.status.mayBecome m.status = true ∧
      ((Label.on row.id op).finishes row.id = true →
        (w.sessions row.id).history.operatorSet = true → m.status = row.status) := by
  have same : row.status.mayBecome row.status = true ∧
      ((Label.on row.id op).finishes row.id = true →
        (w.sessions row.id).history.operatorSet = true → row.status = row.status) :=
    ⟨Status.mayBecome_refl _, fun _ _ => rfl⟩
  have awaiting : row.status.awaitsOutcome = true → ∀ next : Status,
      row.status.mayBecome next = true ∧ ((Label.on row.id op).finishes row.id = true →
        (w.sessions row.id).history.operatorSet = true → next = row.status) := by
    intro awaits next
    refine ⟨Status.awaitsOutcome_mayBecome awaits next, ?_⟩
    intro _ hset
    rw [decided.none_awaits awaits] at hset
    cases hset
  cases outcome with
  | quiet => exact same
  | unsaved => exact same
  | saved =>
    cases move with
    | provision hrequest _ _ _ _ =>
      have hphase : Pending cfg row _ _ _ := (sound.requests _ _ hrequest).phase
      refine ⟨?_, fun hf => by cases hf⟩
      rcases hphase with ⟨hs, _⟩ | ⟨hs, _⟩
      · rw [hs]
        rfl
      · rw [hs]
        rfl
    | failure _ hrequest stage =>
      rw [errorAwaited_failed stored hrequest stage] at awaited
      exact awaiting awaited _
    | success _ _ _ awaits _ => exact awaiting awaits _
    | upkeep _ hup =>
      refine ⟨hup.mayBecome, ?_⟩
      intro hf
      cases hup <;> cases hf

theorem Change.statusLaw {l : Label} (sound : w.Sound cfg accounts)
    (decided : ∀ m, w.store.meeting? m.id = some m → OperatorDecided m (w.sessions m.id))
    (awaited : errorAwaited w l = true) (change : Change cfg w l w') : w.StatusLaw l w' := by
  intro m stored
  obtain ⟨m', stored', _, _⟩ := World.Extends.change sound change m stored
  have hid : m'.id = m.id := Store.meeting?_id stored'
  have same : w'.store.meeting? m.id = w.store.meeting? m.id → m' = m := by
    intro hsame
    rw [hsame, stored] at stored'
    exact (Option.some.inj stored').symm
  have unchanged : m' = m → m.status.mayBecome m'.status = true ∧
      (l.finishes m.id = true → (w.sessions m.id).history.operatorSet = true →
        m'.status = m.status) := by
    rintro rfl
    exact ⟨Status.mayBecome_refl _, fun _ _ => rfl⟩
  refine ⟨m', stored', ?_⟩
  cases change with
  | refused _ => exact unchanged (same rfl)
  | @created r pk client values now fresh _ =>
    have hne : m.id ≠ pk := by
      rintro he
      rw [he, fresh] at stored
      cases stored
    exact unchanged (same (Store.meeting?_insert_of_ne fresh hne))
  | joined _ _ _ _ => exact unchanged (same rfl)
  | @operated op row effect hrow move =>
    have hsound := sound.rows row hrow
    have heffect := Sound.move (w.scene row) hsound sound.rooms move
    have hm' : (w.settle row.id effect).store.meeting? m'.id = some m' := by
      rw [hid]
      exact stored'
    rcases (settle_settled w row.id effect).outcome hrow heffect hm' with
      ⟨_, hold, _⟩ | ⟨he, outcome⟩
    · rw [hid, stored] at hold
      exact unchanged (Option.some.inj hold).symm
    · have hmrow : m = row := by
        rw [← hid, he, hrow] at stored
        exact (Option.some.inj stored).symm
      subst hmrow
      exact move.statusLaw hrow hsound (decided m hrow) awaited outcome
  | roomEdited _ => exact unchanged (same rfl)
  | systemPresetEdited => exact unchanged (same rfl)
  | clientPresetEdited => exact unchanged (same rfl)

theorem errorAwaited_false {l : Label} (late : errorAwaited w l = false) :
    ∃ row r values flight e now, l = .on row.id (.finish r now) ∧
      w.store.meeting? row.id = some row ∧
      (w.sessions row.id).requests r = some ⟨values, .calling flight⟩ ∧
      flight.stage = .failed e ∧ row.status.awaitsOutcome = false := by
  unfold errorAwaited at late
  split at late
  · rename_i pk r now
    split at late
    · rename_i row values flight hrow hrequest
      have hid : row.id = pk := Store.meeting?_id hrow
      subst hid
      split at late
      · rename_i e hstage
        exact ⟨row, r, values, flight, e, now, rfl, hrow, hrequest, hstage, late⟩
      · cases late
    · cases late
  · cases late

/-- The error transaction's status is never one the row may go to from READY or ENDED. -/
theorem recordFailure_not_mayBecome {m : Meeting} (flying : m.status.inFlight = true)
    (decided : m.status.awaitsOutcome = false) (e : ProviderError) (now : Int) :
    m.status.mayBecome (m.recordFailure e now).status = false := by
  have hstatus : m.status = .ready ∨ m.status = .ended := by
    generalize m.status = status at flying decided
    cases status <;> first | exact Or.inl rfl | exact Or.inr rfl | cases flying <;> cases decided
  rcases recordFailure_status m e now with ⟨hs, _⟩ | ⟨hs, _⟩ | ⟨hs, _⟩ | ⟨hs, _⟩
  all_goals
    rw [hs]
    rcases hstatus with hm | hm <;> rw [hm] <;> rfl

/-- An error transaction that comes late breaks the law with whatever it saves. -/
theorem late_error_breaks_law {l : Label} (sound : w.Sound cfg accounts)
    (late : errorAwaited w l = false) (step : World.step cfg w l = some w')
    (saved : w'.store ≠ w.store) : ¬ w.StatusLaw l w' := by
  obtain ⟨row, r, values, flight, e, now, rfl, stored, hrequest, hstage, decided⟩ :=
    errorAwaited_false late
  simp only [World.step, stored] at step
  obtain ⟨effect, heffect, rfl⟩ := Option.map_eq_some_iff.mp step
  have flying : row.status.inFlight = true := ((sound.rows row stored).flying hrequest).status
  have settled := settle_settled w row.id effect
  cases operate_move stored heffect with
  | leave _ => exact absurd rfl saved
  | @failure _ values' flight' e' _ _ hrequest' hstage' =>
    generalize hw' : w.settle row.id _ = w' at settled saved
    cases settled with
    | unsaved _ => exact absurd rfl saved
    | saved _ _ =>
      intro law
      obtain ⟨m', hm', hmoved, _⟩ := law row stored
      have hid : (row.recordFailure e' now).id = row.id := recordFailure_id ..
      have hself : (w.store.putMeeting (row.recordFailure e' now)).meeting? row.id =
          some (row.recordFailure e' now) := by
        rw [← hid]
        exact Store.meeting?_putMeeting_self (by rw [hid]; exact stored)
      have hsame : m' = row.recordFailure e' now := Option.some.inj (hm'.symm.trans hself)
      rw [hsame, recordFailure_not_mayBecome flying decided] at hmoved
      cases hmoved
  | success _ hrequest' hstage' _ _ =>
    cases hrequest'.symm.trans hrequest
    rw [hstage] at hstage'
    cases hstage'
  | upkeep _ hup => cases hup

/-- In every run in which each error transaction finds its row waiting for the outcome,
every step obeys the status law; a step that does not wait breaks it once it saves. -/
theorem status_law_while_errors_awaited {store : Store}
    (reached : Reachable (restrict (fun w l => errorAwaited w l = true) (World.step cfg))
      (World.initial store) w) {l : Label} (step : World.step cfg w l = some w') :
    (errorAwaited w l = true → w.StatusLaw l w') ∧
      (errorAwaited w l = false → w'.store ≠ w.store → ¬ w.StatusLaw l w') := by
  have sound := reached_sound reached.of_restrict
  have decided := (operatorDecided_invariant cfg).reached reached
  constructor
  · intro awaited
    exact (step_change step).statusLaw sound decided awaited
  · intro late saved
    exact late_error_breaks_law sound late step saved

end Law

/-- The sweep flags the row while its call is out, and an operator confirms its end. -/
def exampleDecided : List Label :=
  exampleCommitted ++ [.on 1 (.token 0 (.issued exampleToken)), .on 1 (.send 0 0),
    .on 1 (.sweep (11 * minuteMicroseconds)), .on 1 (.confirmEnded (12 * minuteMicroseconds))]

/-- The call then turns out not to have reached the provider. -/
def exampleRefused : World :=
  exampleWorld (exampleDecided ++ [.on 1 (.receive 0 (.failed .connectError false))]) (by decide)

/-- The error transaction takes the ended meeting back to RETRYABLE_FAILED. -/
theorem late_error_reopens_ended :
    ∃ w', Reached exampleSettings exampleStore exampleRefused ∧
      World.step exampleSettings exampleRefused
        (.on 1 (.finish 0 (13 * minuteMicroseconds))) = some w' ∧
      (exampleRefused.store.meeting? 1).map Meeting.status = some .ended ∧
      (exampleRefused.sessions 1).history.operatorSet = true ∧
      (w'.store.meeting? 1).map Meeting.status = some .retryableFailed ∧
      ¬ exampleRefused.StatusLaw (.on 1 (.finish 0 (13 * minuteMicroseconds))) w' := by
  have hstep : (World.step exampleSettings exampleRefused
      (.on 1 (.finish 0 (13 * minuteMicroseconds)))).isSome = true := by decide
  have hafter : ((World.step exampleSettings exampleRefused
      (.on 1 (.finish 0 (13 * minuteMicroseconds)))).bind fun w' =>
        (w'.store.meeting? 1).map Meeting.status) = some .retryableFailed := by decide
  obtain ⟨w', hw'⟩ := Option.isSome_iff_exists.mp hstep
  rw [hw', Option.bind_some] at hafter
  have hbefore : (exampleRefused.store.meeting? 1).map Meeting.status = some .ended := by decide
  refine ⟨w', exampleWorld_reached _, hw', hbefore, by decide, hafter, ?_⟩
  intro law
  obtain ⟨m, hm, hended⟩ := Option.map_eq_some_iff.mp hbefore
  have hid : m.id = 1 := Store.meeting?_id hm
  obtain ⟨m', hm', hmoved, _⟩ := law m (by rw [hid]; exact hm)
  rw [hid] at hm'
  rw [hm', Option.map_some] at hafter
  rw [hended, Option.some.inj hafter] at hmoved
  cases hmoved

/-- The same outcome before the operator acts: the row waits for it, and the law holds. -/
theorem status_law_after_refusal :
    ∃ w w', Reachable (restrict (fun w l => errorAwaited w l = true)
        (World.step exampleSettings)) (World.initial exampleStore) w ∧
      World.step exampleSettings w (.on 1 (.finish 0 1)) = some w' ∧
      (w'.store.meeting? 1).map Meeting.status = some .retryableFailed ∧
      w.StatusLaw (.on 1 (.finish 0 1)) w' := by
  let labels : List Label := exampleCommitted ++ [.on 1 (.token 0 (.issued exampleToken)),
    .on 1 (.send 0 0), .on 1 (.receive 0 (.failed .connectError false))]
  have hrun : (run (restrict (fun w l => errorAwaited w l = true)
      (World.step exampleSettings)) (World.initial exampleStore) labels).isSome = true := by decide
  have hlast : ((run (restrict (fun w l => errorAwaited w l = true)
      (World.step exampleSettings)) (World.initial exampleStore) labels).bind fun w =>
        (World.step exampleSettings w (.on 1 (.finish 0 1))).map fun w' =>
          (errorAwaited w (.on 1 (.finish 0 1)), (w'.store.meeting? 1).map Meeting.status)) =
      some (true, some .retryableFailed) := by decide
  obtain ⟨w, hw⟩ := Option.isSome_iff_exists.mp hrun
  rw [hw, Option.bind_some] at hlast
  obtain ⟨w', hw', hpair⟩ := Option.map_eq_some_iff.mp hlast
  obtain ⟨hawaited, hafter⟩ := Prod.mk.inj hpair
  have hreached := reachable_of_run hw
  exact ⟨w, w', hreached, hw', hafter,
    (status_law_while_errors_awaited hreached hw').1 hawaited⟩

end MeetingGateway
