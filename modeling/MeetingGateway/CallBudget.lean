import MeetingGateway.TrailRows

/-!
# The trail bounds the provider's load

Every start-meeting call that leaves for the provider is paid for by a row of the trail: a
PROVISIONING commit writes one row and lets its request call at most twice, the second time
only after a confirmed 401. So the rows of a meeting bound the calls made for it, whatever
dies, is retried or runs in between.
-/

namespace MeetingGateway

open LabelledRuns Journals

/-- The number of start-meeting calls that can follow a stage. -/
def Stage.budget : Stage → Nat
  | .token again => if again then 1 else 2
  | .start again _ => if again then 1 else 2
  | .waiting again _ _ => if again then 0 else 1
  | .failed _ => 0
  | .succeeded _ _ => 0

/-- The operation is a call that leaves. -/
def Operation.sends : Operation → Bool
  | .send _ _ => true
  | _ => false

/-- A call for the meeting leaves. -/
def Work.sends (pk : MeetingId) : Work → Bool
  | .step (.on pk' op) _ _ => decide (pk' = pk) && op.sends
  | _ => false

/-- The row of a PROVISIONING commit of the meeting. -/
def AuditLog.starts (pk : MeetingId) (row : AuditLog) : Bool :=
  decide (row.objectId = pk) &&
    (decide (row.action = .providerProvisioningStarted) ||
      decide (row.action = .providerRetryStarted))

section Stages
variable {cfg : Settings} {r : RequestId} {op : Operation} {before after : Stage}

theorem verdict_budget {again : Bool} {token : ProviderAuthResult} {id : CallId}
    {result : HttpResult} {stage : Stage}
    (h : Scene.verdict cfg again token result = some stage) :
    stage.budget ≤ (Stage.waiting again token id).budget := by
  unfold Scene.verdict at h
  split at h
  · cases h
    exact Nat.zero_le _
  · split at h
    · rename_i hagain
      cases h
      have hfirst : again = false := by simpa using (Bool.and_eq_true_iff.mp hagain).1
      rw [hfirst]
      exact Nat.le_refl 1
    · cases h
      exact Nat.zero_le _
  · cases h

/-- A stage hands its budget on, less one for a call that leaves. -/
theorem StageStep.budget_le (step : StageStep cfg r op before after) :
    after.budget + (if op.sends then 1 else 0) ≤ before.budget := by
  cases step with
  | issued _ => exact Nat.le_refl _
  | refused _ => exact Nat.zero_le _
  | @sent again token id => cases again <;> exact Nat.le_refl _
  | received hverdict => exact verdict_budget hverdict

end Stages

section Flights
variable {cfg : Settings} {accounts : RoomId → Option String} {w w' : World} {pk : MeetingId}

/-- The calls a meeting's rows still pay for. -/
def World.Within (w : World) (pk : MeetingId) (sent started : Nat) : Prop :=
  sent ≤ 2 * started ∧ ∀ r values flight,
    (w.sessions pk).requests r = some ⟨values, .calling flight⟩ →
      sent + flight.stage.budget ≤ 2 * started

theorem World.Within.mono {sent started later : Nat} (h : w.Within pk sent started)
    (grows : started ≤ later) : w.Within pk sent later := by
  refine ⟨by have := h.1; omega, ?_⟩
  intro r values flight hrequest
  have := h.2 r values flight hrequest
  omega

/-- A call that leaves is that of the only request that calls the provider. -/
theorem step_send {r : RequestId} {id : CallId}
    (h : World.step cfg w (.on pk (.send r id)) = some w') :
    ∃ values flight again token,
      (w.sessions pk).requests r = some ⟨values, .calling flight⟩ ∧
      flight.stage = .start again token ∧ (w'.sessions pk).requests r =
        some ⟨values, .calling { flight with stage := .waiting again token id }⟩ := by
  obtain ⟨row, effect, stored, rfl, heffect, rfl⟩ := step_on h
  have hsend : (w.scene row).send r id = some effect := heffect
  unfold Scene.send at hsend
  split at hsend
  · rename_i values flight hrequest hfresh
    split at hsend
    · rename_i again token hstage
      cases hsend
      refine ⟨values, flight, again, token, hrequest, hstage, ?_⟩
      simp [World.settle, Scene.advance, Scene.stay, Session.put]
    · cases hsend
  · cases hsend

theorem within_send (sound : w.Sound cfg accounts) {r : RequestId} {id : CallId}
    {sent started : Nat} (within : w.Within pk sent started)
    (h : World.step cfg w (.on pk (.send r id)) = some w') : w'.Within pk (sent + 1) started := by
  obtain ⟨values, flight, again, token, hbefore, hstage, hafter⟩ := step_send h
  obtain ⟨row, _, stored, rfl, _, _⟩ := step_on h
  have paid := within.2 r values flight hbefore
  rw [hstage] at paid
  have budget : (Stage.start again token).budget =
      (Stage.waiting again token id).budget + 1 := by cases again <;> rfl
  refine ⟨by omega, ?_⟩
  intro r' values' flight' hrequest
  by_cases he : r' = r
  · subst he
    rw [hafter] at hrequest
    cases hrequest
    show sent + 1 + (Stage.waiting again token id).budget ≤ 2 * started
    omega
  · have single := (sound.rows row stored).single
    cases step_flight h hrequest with
    | kept old => exact absurd (single _ _ _ _ _ _ old hbefore) he
    | started hl _ _ _ _ _ => cases hl
    | advanced hl old _ => exact absurd (single _ _ _ _ _ _ old hbefore) he

/-- The commit that starts a flight leaves its row. -/
theorem started_row (actor : Actor) {r : RequestId} {values : CreateValues} {now : Int}
    {row reserved committed : Meeting} {retrying : Bool} {done failed : Session} {store : Store}
    (stored : w.store.meeting? row.id = some row)
    (hrequest : (w.sessions row.id).requests r = some ⟨values, .reserving reserved retrying⟩)
    (heffect : (w.scene row).operate cfg (.commit r now) = some (.write committed done failed))
    (hsave : w.store.save committed = .ok store) :
    1 ≤ (w.records cfg actor (.on row.id (.commit r now))).countP (AuditLog.starts row.id) := by
  have hrequest' : (w.scene row).session.requests r =
      some ⟨values, .reserving reserved retrying⟩ := hrequest
  have hrow : (w.scene row).row = row := rfl
  have hrows : w.records cfg actor (.on row.id (.commit r now)) =
      (w.scene row).startRows actor.context reserved retrying := by
    rw [records_on stored heffect]
    simp only [World.kept, hsave, Scene.inserts, hrequest']
  have hmem : row.clientRow actor.context
      (if retrying then .providerRetryStarted else .providerProvisioningStarted) none ∈
        w.records cfg actor (.on row.id (.commit r now)) := by
    rw [hrows]
    simp [Scene.startRows, hrow]
  refine List.countP_pos_iff.mpr ⟨_, hmem, ?_⟩
  cases retrying <;> simp [AuditLog.starts, Meeting.clientRow, audit]

/-- A step pays for the calls it allows and charges those it makes. -/
theorem within_step (sound : w.Sound cfg accounts) {l : Label} {actor : Actor} {n : NoticeId}
    {sent started : Nat} (within : w.Within pk sent started)
    (h : World.step cfg w l = some w') :
    w'.Within pk (sent + if (Work.step l actor n).sends pk then 1 else 0)
      (started + (w.records cfg actor l).countP (AuditLog.starts pk)) := by
  by_cases hsend : ∃ r id, l = .on pk (.send r id)
  · obtain ⟨r, id, rfl⟩ := hsend
    have hsends : (Work.step (.on pk (.send r id)) actor n).sends pk = true := by
      simp [Work.sends, Operation.sends]
    rw [if_pos hsends]
    exact (within_send sound within h).mono (Nat.le_add_right _ _)
  · have hsends : (Work.step l actor n).sends pk = false := by
      cases l with
      | on pk' op =>
        by_cases he : pk' = pk
        · subst he
          cases op with
          | send r id => exact absurd ⟨r, id, rfl⟩ hsend
          | _ => simp [Work.sends, Operation.sends]
        · simp [Work.sends, he]
      | _ => rfl
    rw [hsends]
    refine ⟨by have := within.1; simp only [Bool.false_eq_true, if_false]; omega, ?_⟩
    intro r values flight hrequest
    simp only [Bool.false_eq_true, if_false]
    cases step_flight h hrequest with
    | kept old =>
      have := within.2 r values flight old
      omega
    | @started now row reserved committed done failed store hl stored old hstage heffect hsave =>
      subst hl
      have hid : row.id = pk := Store.meeting?_id stored
      subst hid
      have paid := started_row actor stored old heffect hsave
      have := within.1
      rw [hstage]
      show sent + 0 + 2 ≤ _
      omega
    | @advanced op stage hl old step =>
      have budget := step.budget_le
      have := within.2 r values _ old
      dsimp only at this
      omega

end Flights

/-- In every run, the calls that have left for a meeting are at most twice its rows of started
creations and retries. -/
theorem calls_within_trail {cfg : Settings} {store : Store} {works : List Work} {s : Service}
    {trail : List AuditLog}
    (h : run (journaled (Service.step cfg) (Service.rows cfg)) (Service.initial store, []) works =
      some (s, trail)) (pk : MeetingId) :
    works.countP (Work.sends pk) ≤ 2 * trail.countP (AuditLog.starts pk) := by
  let Inv : List Work → Service × List AuditLog → Prop := fun done q =>
    Audited cfg store q.1 q.2 ∧
      q.1.world.Within pk (done.countP (Work.sends pk)) (q.2.countP (AuditLog.starts pk))
  have start : Inv [] (Service.initial store, []) := by
    refine ⟨.start, Nat.zero_le _, ?_⟩
    intro r values flight hrequest
    cases hrequest
  have preserved : ∀ done a work b, Inv done a →
      journaled (Service.step cfg) (Service.rows cfg) a work = some b →
      Inv (done ++ [work]) b := by
    rintro done ⟨a, rows⟩ work b ⟨reached, within⟩ hs
    have hstep := hs
    obtain ⟨t, ht, rfl⟩ := journaled_eq_some.mp hs
    refine ⟨reached.step hstep, ?_⟩
    have sound := reached_sound (reached_of_audited reached)
    simp only [List.countP_append, List.countP_singleton]
    have same : ∀ more, t.world = a.world → work.sends pk = false →
        t.world.Within pk (done.countP (Work.sends pk) + if work.sends pk then 1 else 0)
          (rows.countP (AuditLog.starts pk) + more) := by
      intro more hworld hsends
      rw [hworld, hsends]
      exact within.mono (Nat.le_add_right _ _)
    cases Service.step_change ht with
    | stepped hw => exact within_step sound within hw
    | registered hw _ => exact within_step sound within hw
    | viewed _ _ _ => exact same _ rfl rfl
    | written _ => exact same _ rfl rfl
    | lost => exact same _ rfl rfl
  exact (run_invariant h start preserved).2.1

def exampleRepeated : List Work :=
  (exampleCommitted ++ [Label.on 1 (.token 0 (.issued exampleToken)), Label.on 1 (.send 0 0),
    Label.on 1 (.receive 0 (.answered ⟨401, by decide, .error .valueError⟩)),
    Label.on 1 (.token 0 (.issued exampleToken)), Label.on 1 (.send 0 1)]).map
      fun l => .step l exampleActor 0

/-- One commit, two calls: the bound is met. -/
theorem repeated_call_within_trail :
    ∃ s trail, run (journaled (Service.step exampleSettings) (Service.rows exampleSettings))
        (Service.initial exampleStore, []) exampleRepeated = some (s, trail) ∧
      exampleRepeated.countP (Work.sends 1) = 2 ∧ trail.countP (AuditLog.starts 1) = 1 ∧
      exampleRepeated.countP (Work.sends 1) ≤ 2 * trail.countP (AuditLog.starts 1) := by
  have hrun : ((run (journaled (Service.step exampleSettings) (Service.rows exampleSettings))
      (Service.initial exampleStore, []) exampleRepeated).map fun p =>
        p.2.countP (AuditLog.starts 1)) = some 1 := by decide
  obtain ⟨⟨s, trail⟩, hp, hcount⟩ := Option.map_eq_some_iff.mp hrun
  exact ⟨s, trail, hp, by decide, hcount, calls_within_trail hp 1⟩

end MeetingGateway
