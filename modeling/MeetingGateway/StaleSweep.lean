import MeetingGateway.CreationResponses

/-!
# The sweep under a request that finishes

`flag_stale_provisioning` may mark a row as unknown while its request still waits for the
provider. The final transaction works on the row it then reads: it writes every column the
sweep wrote, and asks for the status only where both statuses will do. So a request that
finishes leaves the same row and gives the same answer as without the sweep.
-/

namespace MeetingGateway

/-- A run of the sweep: its clock, and the rows that `skip_locked` passes over. -/
structure Sweep where
  now : Int
  locked : MeetingId → Bool

def Sweep.row (sweep : Sweep) (m : Meeting) : Meeting :=
  if sweep.locked m.id then m else (flagStaleProvisioning m sweep.now).getD m

/-- What a row has become under any number of sweeps. -/
inductive Swept (m : Meeting) : Meeting → Prop
  | kept : Swept m m
  | flagged {now : Int} : m.status = .provisioning → Swept m (m.toUnknown now)

section Rows
variable {m m' m'' : Meeting}

theorem sweep_row_cases (sweep : Sweep) (m : Meeting) :
    sweep.row m = m ∨ (m.status = .provisioning ∧ sweep.row m = m.toUnknown sweep.now) := by
  unfold Sweep.row
  split
  · exact Or.inl rfl
  · cases hflag : flagStaleProvisioning m sweep.now with
    | none => exact Or.inl rfl
    | some row =>
      obtain ⟨hstatus, rfl⟩ := flagStaleProvisioning_some hflag
      exact Or.inr ⟨hstatus, rfl⟩

theorem swept_row (sweep : Sweep) (m : Meeting) : Swept m (sweep.row m) := by
  rcases sweep_row_cases sweep m with same | ⟨hstatus, flagged⟩
  · rw [same]
    exact .kept
  · rw [flagged]
    exact .flagged hstatus

theorem Swept.trans (h : Swept m m') (h' : Swept m' m'') : Swept m m'' := by
  cases h with
  | kept => exact h'
  | flagged hstatus =>
    cases h' with
    | kept => exact .flagged hstatus
    | flagged hunknown => cases hunknown

theorem Swept.id (h : Swept m m') : m'.id = m.id := by
  cases h <;> rfl

/-- A row that has been flagged is not flagged again, however late. -/
theorem sweep_flagged (sweep : Sweep) (m : Meeting) (now : Int) :
    sweep.row (m.toUnknown now) = m.toUnknown now := by
  unfold Sweep.row
  split
  · rfl
  · rfl

theorem sweep_row_twice (sweep : Sweep) (m : Meeting) :
    sweep.row (sweep.row m) = sweep.row m := by
  rcases sweep_row_cases sweep m with same | ⟨_, flagged⟩
  · rw [same, same]
  · rw [flagged]
    exact sweep_flagged sweep m sweep.now

theorem recordFailure_swept (h : Swept m m') (e : ProviderError) (now : Int) :
    m'.recordFailure e now = m.recordFailure e now := by
  cases h with
  | kept => rfl
  | flagged _ =>
    cases hresult : e.providerResult with
    | none => simp [Meeting.recordFailure, hresult, Meeting.toUnknown]
    | some result => simp [Meeting.recordFailure, hresult, Meeting.toUnknown]

theorem toReady_swept (h : Swept m m') (data : ProviderMeetingResult)
    (startUrl : Option (Stored String)) (now : Int) :
    m'.toReady data startUrl now = m.toReady data startUrl now := by
  cases h with
  | kept => rfl
  | flagged _ => rfl

theorem startUrl_swept {cfg : Settings} (h : Swept m m') (data : ProviderMeetingResult) :
    m'.startUrl cfg data = m.startUrl cfg data := by
  cases h with
  | kept => rfl
  | flagged _ => rfl

/-- The success transaction tests the status, and takes the one the sweep sets too. -/
theorem recordSuccess_swept {cfg : Settings} (h : Swept m m')
    (provisioning : m.status = .provisioning)
    (data : ProviderMeetingResult) (now : Int) :
    m'.recordSuccess cfg data now = m.recordSuccess cfg data now := by
  have awaits : m.status.awaitsOutcome = true := by rw [provisioning]; rfl
  have awaits' : m'.status.awaitsOutcome = true := by
    cases h with
    | kept => exact awaits
    | flagged _ => rfl
  simp [Meeting.recordSuccess, awaits, awaits', startUrl_swept h, toReady_swept h]

theorem excludes_swept (h : Swept m m') (row : Meeting) : m'.excludes row = m.excludes row := by
  cases h with
  | kept => rfl
  | flagged _ => rfl

end Rows

def Store.sweep (s : Store) (sweep : Sweep) : Store :=
  { s with meetings := s.meetings.mapRows sweep.row fun m => (swept_row sweep m).id }

def Store.sweeps (s : Store) (sweeps : List Sweep) : Store := sweeps.foldl Store.sweep s

theorem Store.sweep_twice (s : Store) (sweep : Sweep) :
    (s.sweep sweep).sweep sweep = s.sweep sweep := by
  have rows : (s.meetings.rows.map sweep.row).map sweep.row = s.meetings.rows.map sweep.row := by
    rw [List.map_map]
    exact List.map_congr_left fun m _ => sweep_row_twice sweep m
  simp only [Store.sweep, KeyedTable.mapRows, rows]

/-- What the sweeps make of one row. -/
def sweepAll (sweeps : List Sweep) (m : Meeting) : Meeting :=
  sweeps.foldl (fun m sweep => sweep.row m) m

theorem swept_all (sweeps : List Sweep) (m : Meeting) : Swept m (sweepAll sweeps m) := by
  induction sweeps generalizing m with
  | nil => exact .kept
  | cons sweep rest ih => exact (swept_row sweep m).trans (ih (sweep.row m))

section Tables
variable (s : Store) (sweeps : List Sweep)

theorem sweeps_rows :
    (s.sweeps sweeps).meetings.rows = s.meetings.rows.map (sweepAll sweeps) := by
  induction sweeps generalizing s with
  | nil => exact (List.map_id _).symm
  | cons sweep rest ih =>
    have later : ((s.sweep sweep).sweeps rest).meetings.rows =
        (s.meetings.rows.map sweep.row).map (sweepAll rest) := ih (s.sweep sweep)
    rw [List.map_map] at later
    exact later

theorem sweeps_meeting? {pk : MeetingId} {m : Meeting} (hm : s.meeting? pk = some m) :
    (s.sweeps sweeps).meeting? pk = some (sweepAll sweeps m) := by
  obtain ⟨hmem, hid⟩ := KeyedTable.get?_eq_some.mp hm
  refine KeyedTable.get?_eq_some.mpr ⟨?_, ((swept_all sweeps m).id).trans hid⟩
  rw [sweeps_rows]
  exact List.mem_map_of_mem hmem

/-- A sweep moves no reservation, so the constraints refuse the same rows. -/
theorem sweeps_excluded (row : Meeting) : (s.sweeps sweeps).excluded row = s.excluded row := by
  rw [Store.excluded, Store.excluded, sweeps_rows, List.any_map]
  congr 1
  funext m
  have swept := swept_all sweeps m
  simp [swept.id, excludes_swept swept]

/-- Saving a row after the sweeps ends as it does without them. -/
theorem sweeps_commit (cfg : Settings) {row : Meeting} {old : Meeting}
    (stored : s.meeting? row.id = some old) :
    (∃ e, s.commit cfg row = .error e ∧ (s.sweeps sweeps).commit cfg row = .error e) ∨
      ∃ s₁ s₂, s.commit cfg row = .ok s₁ ∧ (s.sweeps sweeps).commit cfg row = .ok s₂ ∧
        s₁.meeting? row.id = some row ∧ s₂.meeting? row.id = some row := by
  unfold Store.commit
  by_cases fits : row.fitsColumns cfg = true
  · simp only [fits, Bool.not_true, Bool.false_eq_true, if_false, Store.save, sweeps_excluded]
    by_cases checks : row.checks = true
    · by_cases excluded : s.excluded row = true
      · left
        simp [checks, excluded, Except.mapError]
      · right
        simp only [checks, excluded, Bool.not_true, Bool.false_eq_true, if_false, Except.mapError]
        exact ⟨_, _, rfl, rfl, Store.meeting?_putMeeting_self stored,
          Store.meeting?_putMeeting_self (sweeps_meeting? s sweeps stored)⟩
    · left
      simp [checks, Except.mapError]
  · left
    simp [fits]

end Tables

/-- The row the final transaction saves, if the request gets to one. -/
def finalRow (cfg : Settings) (current : Meeting) (out : Outside) : Option Meeting :=
  match providerCalls cfg out with
  | .ok (data, _) => (current.recordSuccess cfg data out.now).toOption
  | .error (.provider e) =>
    match (if e.statusCode = some 401 then out.invalidated else .ok ()) with
    | .ok () => some (current.recordFailure e out.now)
    | .error _ => none
  | .error _ => none

/-- The request finishes: the database takes the row of its final transaction. -/
def Finishes (cfg : Settings) (store : Store) (current : Meeting) (out : Outside)
    (row : Meeting) : Prop :=
  finalRow cfg current out = some row ∧ ∃ store', store.commit cfg row = .ok store'

/-- What the request answers once that row is saved. -/
def finalAnswer (cfg : Settings) (out : Outside) (row : Meeting) :
    Except Raised (Meeting × Option ProviderAuthResult) :=
  match providerCalls cfg out with
  | .ok (_, token) => .ok (row, some token)
  | .error (.provider e) => .error (.gateway (providerFailure e))
  | .error e => .error e

section Finish
variable {cfg : Settings} {store store' : Store} {current current' row : Meeting} {out : Outside}

theorem toOption_some {α : Type} {x : Except Raised α} {a : α} (h : x.toOption = some a) :
    x = .ok a := by
  cases x with
  | error e => cases h
  | ok b =>
    cases h
    rfl

theorem finalRow_swept (h : Swept current current')
    (provisioning : current.status = .provisioning) :
    finalRow cfg current' out = finalRow cfg current out := by
  simp only [finalRow, recordSuccess_swept h provisioning, recordFailure_swept h]

theorem finalRow_id (h : finalRow cfg current out = some row) : row.id = current.id := by
  unfold finalRow at h
  split at h
  · obtain ⟨_, _, _, rfl⟩ := recordSuccess_ok (toOption_some h)
    rfl
  · split at h
    · cases h
      exact recordFailure_id _ _ _
    · cases h
  · cases h

/-- With a row to save, the commit decides. -/
theorem finish_of_row (h : finalRow cfg current out = some row) :
    finishProvision cfg store current out = match store.commit cfg row with
      | .error e => (.error e, store)
      | .ok store' => (finalAnswer cfg out row, store') := by
  cases hcalls : providerCalls cfg out with
  | ok found =>
    obtain ⟨data, token⟩ := found
    have hrow : current.recordSuccess cfg data out.now = .ok row :=
      toOption_some (by simpa only [finalRow, hcalls] using h)
    cases hcommit : store.commit cfg row with
    | error e => simp [finishProvision, hcalls, hrow, hcommit]
    | ok store' => simp [finishProvision, finalAnswer, hcalls, hrow, hcommit]
  | error e =>
    cases e with
    | provider p =>
      cases hdeleted : (if p.statusCode = some 401 then out.invalidated else .ok ()) with
      | error err => simp [finalRow, hcalls, hdeleted] at h
      | ok _ =>
        simp only [finalRow, hcalls, hdeleted, Option.some.injEq] at h
        subst h
        cases hcommit : store.commit cfg (current.recordFailure p out.now) with
        | error err => simp [finishProvision, hcalls, hdeleted, hcommit]
        | ok store' => simp [finishProvision, finalAnswer, hcalls, hdeleted, hcommit]
    | gateway g => simp [finalRow, hcalls] at h
    | python p => simp [finalRow, hcalls] at h

/-- Without one, the sweeps and the store have no say in the answer. -/
theorem finish_of_none (swept : Swept current current')
    (provisioning : current.status = .provisioning) (h : finalRow cfg current out = none) :
    (finishProvision cfg store' current' out).1 = (finishProvision cfg store current out).1 := by
  cases hcalls : providerCalls cfg out with
  | ok found =>
    obtain ⟨data, token⟩ := found
    have same := @recordSuccess_swept _ _ cfg swept provisioning data out.now
    cases hrow : current.recordSuccess cfg data out.now with
    | error e => simp only [finishProvision, hcalls, same, hrow]
    | ok row => simp [finalRow, hcalls, hrow, Except.toOption] at h
  | error e =>
    cases e with
    | provider p =>
      cases hdeleted : (if p.statusCode = some 401 then out.invalidated else .ok ()) with
      | error err => simp only [finishProvision, hcalls, hdeleted]
      | ok _ => simp [finalRow, hcalls, hdeleted] at h
    | gateway g => simp only [finishProvision, hcalls]
    | python p => simp only [finishProvision, hcalls]

/-- The answer of `provision` is the same, and so is the row of a request that finishes. -/
theorem finishProvision_sweeps (cfg : Settings) (out : Outside)
    (provisioning : current.status = .provisioning)
    (stored : store.meeting? current.id = some current) (sweeps : List Sweep) :
    (finishProvision cfg (store.sweeps sweeps) (sweepAll sweeps current) out).1 =
        (finishProvision cfg store current out).1 ∧
      ∀ row, Finishes cfg store current out row →
        (finishProvision cfg store current out).2.meeting? current.id = some row ∧
        (finishProvision cfg (store.sweeps sweeps) (sweepAll sweeps current) out).2.meeting?
          current.id = some row := by
  have same : finalRow cfg (sweepAll sweeps current) out = finalRow cfg current out :=
    finalRow_swept (swept_all sweeps current) provisioning
  cases hrow : finalRow cfg current out with
  | none =>
    refine ⟨finish_of_none (swept_all sweeps current) provisioning hrow, ?_⟩
    rintro row ⟨hfinal, _⟩
    rw [hrow] at hfinal
    cases hfinal
  | some row =>
    have hid := finalRow_id hrow
    have hstored : store.meeting? row.id = some current := by rw [hid]; exact stored
    rw [finish_of_row hrow, finish_of_row (same.trans hrow)]
    rcases sweeps_commit store sweeps cfg hstored with ⟨e, he, he'⟩ | ⟨s₁, s₂, h₁, h₂, hm₁, hm₂⟩
    · rw [he, he']
      refine ⟨rfl, ?_⟩
      rintro final ⟨hfinal, store', hcommit⟩
      rw [hrow] at hfinal
      cases hfinal
      rw [he] at hcommit
      cases hcommit
    · rw [h₁, h₂]
      refine ⟨rfl, ?_⟩
      rintro final ⟨hfinal, _⟩
      rw [hrow] at hfinal
      cases hfinal
      exact ⟨hid ▸ hm₁, hid ▸ hm₂⟩

end Finish

/-- The view answers from what `provision` returns. -/
theorem respond_answer (cfg : Settings) (request : PostRequest) (created : Bool) (out : Outside)
    {a b : Provision} (same : a.1 = b.1) :
    (respond cfg request created out a).1 = (respond cfg request created out b).1 := by
  obtain ⟨answer, s⟩ := a
  obtain ⟨answer', s'⟩ := b
  cases same
  cases answer with
  | error e => rfl
  | ok result =>
    obtain ⟨current, token⟩ := result
    cases htoken : responseToken request token out with
    | error e => simp [respond, htoken]
    | ok token =>
      cases hdata : representation cfg current token with
      | error e => simp [respond, htoken, hdata]
      | ok data => simp [respond, htoken, hdata]

/-- The database takes the final row after the sweeps exactly if it does without them. -/
theorem finishes_sweeps {cfg : Settings} {store : Store} {current : Meeting} {out : Outside}
    (provisioning : current.status = .provisioning)
    (stored : store.meeting? current.id = some current) (sweeps : List Sweep) (row : Meeting) :
    Finishes cfg (store.sweeps sweeps) (sweepAll sweeps current) out row ↔
      Finishes cfg store current out row := by
  unfold Finishes
  rw [finalRow_swept (swept_all sweeps current) provisioning]
  refine and_congr_right fun hrow => ?_
  have hstored : store.meeting? row.id = some current := by rw [finalRow_id hrow]; exact stored
  rcases sweeps_commit store sweeps cfg hstored with ⟨e, he, he'⟩ | ⟨s₁, s₂, h₁, h₂, _, _⟩
  · simp [he, he']
  · simp [h₁, h₂]

/-- Any number of sweeps between the PROVISIONING commit and the final transaction: the
answer to the client is the same, the request finishes with the same row or not at all,
and that row is what both stores then hold. Sweeping twice is sweeping once. -/
theorem stale_sweep_invisible {cfg : Settings} {store : Store} {current : Meeting}
    (out : Outside) (provisioning : current.status = .provisioning)
    (stored : store.meeting? current.id = some current) (sweeps : List Sweep)
    (request : PostRequest) (created : Bool) :
    (store.sweeps sweeps).meeting? current.id = some (sweepAll sweeps current) ∧
      (respond cfg request created out
          (finishProvision cfg (store.sweeps sweeps) (sweepAll sweeps current) out)).1 =
        (respond cfg request created out (finishProvision cfg store current out)).1 ∧
      (∀ row, Finishes cfg (store.sweeps sweeps) (sweepAll sweeps current) out row ↔
        Finishes cfg store current out row) ∧
      (∀ row, Finishes cfg store current out row →
        (finishProvision cfg store current out).2.meeting? current.id = some row ∧
        (finishProvision cfg (store.sweeps sweeps) (sweepAll sweeps current) out).2.meeting?
          current.id = some row) ∧
      ∀ sweep, (store.sweep sweep).sweep sweep = store.sweep sweep := by
  obtain ⟨answer, final⟩ := finishProvision_sweeps cfg out provisioning stored sweeps
  exact ⟨sweeps_meeting? store sweeps stored, respond_answer cfg request created out answer,
    finishes_sweeps provisioning stored sweeps, final, store.sweep_twice⟩

def exampleWaiting : Store := { exampleStore with meetings := ⟨[exampleAwaiting], by decide⟩ }

/-- Eleven minutes after the commit; no other transaction holds the row. -/
def exampleLateSweep : Sweep := ⟨11 * minuteMicroseconds, fun _ => false⟩

def exampleLateAnswer : Outside :=
  { exampleOutside 1 with
    now := 12 * minuteMicroseconds
    token := .issued ⟨"T-1", none⟩
    start := .answered (exampleAnswer "https://meet.convay.com/start") }

/-- The row is flagged as unknown, and the late success is answered as if it were not. -/
theorem stale_sweep_invisible_late :
    (sweepAll [exampleLateSweep] exampleAwaiting).status = .providerStateUnknown ∧
      (respond exampleSettings (exampleRequest "2026-09-24") true exampleLateAnswer
          (finishProvision exampleSettings (exampleWaiting.sweeps [exampleLateSweep])
            (sweepAll [exampleLateSweep] exampleAwaiting) exampleLateAnswer)).1 =
        (respond exampleSettings (exampleRequest "2026-09-24") true exampleLateAnswer
          (finishProvision exampleSettings exampleWaiting exampleAwaiting exampleLateAnswer)).1 :=
  ⟨by decide, (stale_sweep_invisible exampleLateAnswer rfl (by rfl) [exampleLateSweep]
    (exampleRequest "2026-09-24") true).2.1⟩

end MeetingGateway
