import MeetingGateway.AuditTrail
import MeetingGateway.ErrorCodes
import MeetingGateway.StatusFlow

/-!
# Reading the audit trail back

The rows about a meeting, read in order, take its status from DRAFT to what it is now: each
row says by itself where the status goes from the one before it. Where an error transaction
comes late the trail is no longer read so, and the code of a refused token has to be
one that `get_token` raises.
-/

namespace MeetingGateway

open LabelledRuns Journals

/-- The status an error transaction leaves, from the metadata of its row. -/
def ProviderErrorMetadata.status (d : ProviderErrorMetadata) : Status :=
  if d.outcomeUnknown then .providerStateUnknown
  else if d.providerErrorCode = .providerResponseInvalid then .providerResponseInvalid
  else if d.providerErrorCode.retryable then .retryableFailed
  else .nonRetryableFailed

/-- The statuses a meeting can have once a token was asked for it. -/
def Status.served : Status → Bool
  | .ready | .live | .ended => true
  | _ => false

/-- The status after a row, which is `none` where no run writes the row. -/
def AuditLog.next (status : Status) (row : AuditLog) : Option Status :=
  match row.action with
  | .meetingDraftCreated | .existingMeetingMismatch => some status
  | .meetingReadyReplayed => if status = .ready ∨ status = .live then some status else none
  | .slotReserved => if status = .draft then some .reserved else none
  | .providerProvisioningStarted => if status = .reserved then some .provisioning else none
  | .providerRetryStarted => if status = .retryableFailed then some .provisioning else none
  | .providerRetryFailed => if status.awaitsOutcome then some status else none
  | .providerStateUnknown => if status.awaitsOutcome then some .providerStateUnknown else none
  | .providerError =>
    match row.metadata with
    | none => none
    | some d =>
      if status.awaitsOutcome then some d.status else if status.served then some status else none
  | .lateProviderResponseRequiresReview => none
  | .meetingCreated => if status.awaitsOutcome then some .ready else none
  | .providerRetrySucceeded => if status = .ready then some .ready else none
  | .meetingCancelled => if status.cancellable then some .cancelled else none
  | .adminRecoveredProviderMeeting => if status = .providerStateUnknown then some .ready else none
  | .adminConfirmedProviderEnded => if status.confirmable then some .ended else none
  | .convayTokenIssued => if status.served then some status else none

/-- The code of a refused token is one `get_token` raises. -/
def Label.plainToken : Label → Bool
  | .on _ (.token _ outcome) => outcome.plain
  | _ => true

/-- Errors are awaited and tokens are refused with their own codes. -/
def orderly (w : World) (l : Label) : Bool := errorAwaited w l && l.plainToken

/-- The work of such runs. -/
def orderlyWork (s : Service) : Work → Bool
  | .step l _ _ => orderly s.world l
  | _ => true

abbrev OrderlyWorld (cfg : Settings) (store : Store) (w : World) : Prop :=
  Reachable (restrict (fun w l => orderly w l = true) (World.step cfg)) (World.initial store) w

abbrev OrderlyService (cfg : Settings) (store : Store) (s : Service) : Prop :=
  Reachable (restrict (fun s work => orderlyWork s work = true) (Service.step cfg))
    (Service.initial store) s

section Orderly
variable {cfg : Settings} {store : Store} {w : World} {s : Service}

theorem orderly_awaited {l : Label} (h : orderly w l = true) : errorAwaited w l = true :=
  (Bool.and_eq_true_iff.mp h).1

theorem OrderlyWorld.awaited (h : OrderlyWorld cfg store w) :
    Reachable (restrict (fun w l => errorAwaited w l = true) (World.step cfg))
      (World.initial store) w := by
  induction h with
  | start => exact .start
  | step _ hs ih =>
    obtain ⟨hallowed, hstep⟩ := restrict_eq_some.mp hs
    exact ih.step (restrict_eq_some.mpr ⟨orderly_awaited hallowed, hstep⟩)

theorem orderly_world (h : OrderlyService cfg store s) : OrderlyWorld cfg store s.world := by
  induction h with
  | start => exact .start
  | step _ hs ih =>
    obtain ⟨hallowed, hstep⟩ := restrict_eq_some.mp hs
    cases Service.step_change hstep with
    | stepped hw => exact ih.step (restrict_eq_some.mpr ⟨hallowed, hw⟩)
    | registered hw _ => exact ih.step (restrict_eq_some.mpr ⟨hallowed, hw⟩)
    | viewed _ _ _ => exact ih
    | written _ => exact ih
    | lost => exact ih

theorem verdict_telling {again : Bool} {token : ProviderAuthResult} {result : HttpResult}
    {e : ProviderError} (h : Scene.verdict cfg again token result = some (.failed e)) :
    e.Telling := by
  unfold Scene.verdict at h
  split at h
  · cases h
  · rename_i e' he
    split at h
    · cases h
    · cases h
      exact startMeeting_telling he
  · cases h

theorem StageStep.telling {r : RequestId} {op : Operation} {before after : Stage}
    {e : ProviderError} (step : StageStep cfg r op before after) {pk : MeetingId}
    (plain : (Label.on pk op).plainToken = true) (failed : after = .failed e) : e.Telling := by
  cases step with
  | issued _ => cases failed
  | refused hresult =>
    cases failed
    exact TokenOutcome.plain_telling plain hresult
  | sent => cases failed
  | received hverdict =>
    subst failed
    exact verdict_telling hverdict

theorem StageStep.certain {r : RequestId} {op : Operation} {before after : Stage}
    {e : ProviderError} (step : StageStep cfg r op before after) (failed : after = .failed e) :
    e.Certain := by
  cases step with
  | issued _ => cases failed
  | refused hresult =>
    cases failed
    exact TokenOutcome.certain hresult
  | sent => cases failed
  | received hverdict =>
    subst failed
    exact (verdict_telling hverdict).certain

/-- No error that waits for its transaction is of a known creation and ambiguous. -/
def World.Certain (w : World) : Prop :=
  ∀ pk r values flight e, (w.sessions pk).requests r = some ⟨values, .calling flight⟩ →
    flight.stage = .failed e → e.Certain

/-- This needs nothing of the codes of refused tokens. -/
theorem reached_certain (h : Reached cfg store w) : w.Certain := by
  refine h.invariant ?_ ?_
  · intro pk r values flight e hrequest
    cases hrequest
  · intro a l b _ before hs pk r values flight e hrequest hstage
    cases step_flight hs hrequest with
    | kept old => exact before pk r values flight e old hstage
    | started _ _ _ start _ _ =>
      rw [start] at hstage
      cases hstage
    | advanced hl _ step =>
      subst hl
      exact step.certain hstage

/-- Every error that waits for its transaction tells by its code whether the creation is
known. -/
def World.Telling (w : World) : Prop :=
  ∀ pk r values flight e, (w.sessions pk).requests r = some ⟨values, .calling flight⟩ →
    flight.stage = .failed e → e.Telling

theorem orderly_telling (h : OrderlyWorld cfg store w) : w.Telling := by
  refine h.invariant ?_ ?_
  · intro pk r values flight e hrequest
    cases hrequest
  · intro a l b _ before hs pk r values flight e hrequest hstage
    obtain ⟨hallowed, hstep⟩ := restrict_eq_some.mp hs
    cases step_flight hstep hrequest with
    | kept old => exact before pk r values flight e old hstage
    | started _ _ _ start _ _ =>
      rw [start] at hstage
      cases hstage
    | advanced hl _ step =>
      subst hl
      exact step.telling (Bool.and_eq_true_iff.mp hallowed).2 hstage

end Orderly

section Rows
variable {cfg : Settings} {accounts : RoomId → Option String} {sc : Scene} {actor : Actor}

/-- A replay is recorded on a meeting that is ready or live, which it stays. -/
theorem begin_accounts (r : RequestId) :
    run AuditLog.next sc.row.status (sc.inserts actor (.begin r)) = some sc.row.status := by
  simp only [Scene.inserts]
  split
  · split
    · rename_i hreplay
      rcases provisionGate_replay.mp hreplay with hs | hs
      · simp [run, AuditLog.next, Meeting.clientRow, audit, hs]
      · simp [run, AuditLog.next, Meeting.clientRow, audit, hs]
    · rfl
  · rfl

theorem start_accounts (context : RequestContext) {values : CreateValues} {reserved : Meeting}
    {retrying : Bool} (pending : Pending cfg sc.row values reserved retrying) :
    run AuditLog.next sc.row.status (sc.startRows context reserved retrying) =
      some .provisioning := by
  rcases pending with ⟨hs, rfl, room, slot, now, _, _, rfl⟩ | ⟨hs, rfl, rfl⟩
  · simp [Scene.startRows, Meeting.reserve, run, AuditLog.next, Meeting.clientRow, audit, hs]
  · simp [Scene.startRows, run, AuditLog.next, Meeting.clientRow, audit, hs]

/-- The metadata of a telling error gives the status its transaction writes. -/
theorem metadata_status {e : ProviderError} (telling : e.Telling) (m : Meeting) (now : Int) :
    (ProviderErrorMetadata.mk e.code e.statusCode e.ambiguous).status =
      (m.recordFailure e now).status := by
  unfold ProviderErrorMetadata.status Meeting.recordFailure
  cases hresult : e.providerResult with
  | some result =>
    have known : e.knownCreated = true := by simp [ProviderError.knownCreated, hresult]
    simp [telling.certain known, telling.code.mpr known]
  | none =>
    have hcode : e.code ≠ .providerResponseInvalid := by
      intro hc
      have known := telling.code.mp hc
      simp [ProviderError.knownCreated, hresult] at known
    simp [failedStatus, hcode]

theorem failure_accounts (context : RequestContext) (retrying : Bool) {e : ProviderError}
    (telling : e.Telling) (awaits : sc.row.status.awaitsOutcome = true) (now : Int) :
    run AuditLog.next sc.row.status (sc.failureRows context retrying e) =
      some (sc.row.recordFailure e now).status := by
  have retried : run AuditLog.next sc.row.status
      (if retrying then [sc.row.clientRow context .providerRetryFailed none] else []) =
        some sc.row.status := by
    cases retrying
    · rfl
    · simp [run, AuditLog.next, Meeting.clientRow, audit, awaits]
  have flagged : ∃ status : Status, status.awaitsOutcome = true ∧ run AuditLog.next sc.row.status
      (if e.ambiguous then [sc.row.clientRow context .providerStateUnknown none] else []) =
        some status := by
    cases e.ambiguous
    · exact ⟨sc.row.status, awaits, rfl⟩
    · exact ⟨.providerStateUnknown, rfl,
        by simp [run, AuditLog.next, Meeting.clientRow, audit, awaits]⟩
  obtain ⟨status, hawaits, hflagged⟩ := flagged
  have last : AuditLog.next status (sc.row.clientRow context .providerError (some e)) =
      some (sc.row.recordFailure e now).status := by
    rw [← metadata_status telling]
    simp [AuditLog.next, Meeting.clientRow, audit, hawaits]
  rw [Scene.failureRows, run_append, run_append, retried, Option.bind_some, hflagged,
    Option.bind_some]
  simp [run, last]

theorem success_accounts (context : RequestContext) (retrying : Bool)
    (awaits : sc.row.status.awaitsOutcome = true) :
    run AuditLog.next sc.row.status (sc.successRows context retrying) = some .ready := by
  cases retrying <;>
    simp [Scene.successRows, awaits, run, AuditLog.next, Meeting.clientRow, audit]

theorem upkeep_accounts {op : Operation} {row : Meeting} {done : Session}
    (upkeep : Upkeep cfg sc.row sc.session op row done) :
    run AuditLog.next sc.row.status (sc.inserts actor op) = some row.status := by
  cases upkeep with
  | sweep hs => simp [Scene.inserts, run, AuditLog.next, audit, hs, Status.awaitsOutcome,
      Meeting.toUnknown]
  | cancelAgain hs => simp [Scene.inserts, run, hs]
  | cancel hc =>
    have hs : sc.row.status ≠ .cancelled := by
      intro hs
      rw [hs] at hc
      cases hc
    simp [Scene.inserts, run, AuditLog.next, Meeting.clientRow, audit, hs, hc, Meeting.toCancelled]
  | touch hs => simp [Scene.inserts, run, hs]
  | recover hs _ _ _ => simp [Scene.inserts, run, AuditLog.next, audit, hs, Meeting.toRecovered]
  | confirmEnded hc => simp [Scene.inserts, run, AuditLog.next, audit, hc, Meeting.toEnded]

/-- What a saved transaction writes takes the status to the one it saves. -/
theorem saved_accounts (actor : Actor) {op : Operation} {row : Meeting} {done failed : Session}
    (sound : Sound cfg accounts sc.row sc.session)
    (errors : ∀ r now values flight e, op = .finish r now →
      sc.session.requests r = some ⟨values, .calling flight⟩ → flight.stage = .failed e →
      sc.row.status.awaitsOutcome = true ∧ e.Telling)
    (move : Move cfg sc op (.write row done failed)) :
    run AuditLog.next sc.row.status (sc.inserts actor op) = some row.status := by
  cases move with
  | provision hrequest _ _ _ _ =>
    simp only [Scene.inserts, hrequest]
    exact start_accounts actor.context (sound.requests _ _ hrequest).phase
  | @failure _ _ flight _ now _ hrequest hstage =>
    obtain ⟨awaits, telling⟩ := errors _ _ _ _ _ rfl hrequest hstage
    simp only [Scene.inserts, hrequest, hstage]
    exact failure_accounts actor.context flight.retrying telling awaits now
  | @success _ _ flight _ _ _ _ _ hrequest hstage awaits _ =>
    simp only [Scene.inserts, hrequest, hstage]
    exact success_accounts actor.context flight.retrying awaits
  | upkeep _ hup => exact upkeep_accounts hup

/-- What a transaction that saves nothing leaves in the trail. -/
theorem quiet_accounts (sc : Scene) (actor : Actor) (w : World) (op : Operation) (session : Session)
    (roomLock : RoomId → Option MeetingId) (excluded : Bool) :
    run AuditLog.next sc.row.status
      (w.kept op (sc.inserts actor op) (.quiet session roomLock excluded)) =
        some sc.row.status := by
  cases op with
  | begin r => exact begin_accounts r
  | _ => rfl

end Rows

/-- The status of a meeting, DRAFT as long as there is none. -/
def World.statusOf (w : World) (pk : MeetingId) : Status :=
  ((w.store.meeting? pk).map Meeting.status).getD .draft

section Steps
variable {cfg : Settings} {accounts : RoomId → Option String} {w w' : World} {actor : Actor}

theorem statusOf_settle_of_ne {row : Meeting} {effect : Effect}
    (sound : effect.Sound cfg accounts row) {pk : MeetingId} (hne : pk ≠ row.id) :
    (w.settle row.id effect).statusOf pk = w.statusOf pk := by
  have settled := settle_settled w row.id effect
  generalize w.settle row.id effect = w' at settled
  cases settled with
  | quiet => rfl
  | @saved row' _ _ _ _ =>
    have hid : row'.id = row.id := sound.1
    have kept : (w.store.putMeeting row').meeting? pk = w.store.meeting? pk :=
      Store.meeting?_putMeeting_of_ne (by rw [hid]; exact hne)
    simp only [World.statusOf, kept]
  | unsaved _ => rfl

/-- A step on a meeting accounts for its status with the rows it leaves. -/
theorem on_accounts {op : Operation} (sound : w.Sound cfg accounts) (telling : w.Telling)
    {pk : MeetingId} (awaited : errorAwaited w (.on pk op) = true)
    (h : World.step cfg w (.on pk op) = some w') :
    run AuditLog.next (w.statusOf pk) (w.records cfg actor (.on pk op)) =
      some (w'.statusOf pk) := by
  obtain ⟨row, effect, stored, rfl, heffect, rfl⟩ := step_on h
  have hstatus : w.statusOf row.id = row.status := by simp [World.statusOf, stored]
  have move := operate_move stored heffect
  have rowSound := sound.rows row stored
  have hsound := Sound.move (w.scene row) rowSound sound.rooms move
  rw [records_on stored heffect, hstatus]
  have settled := settle_settled w row.id effect
  generalize w.settle row.id effect = w' at settled
  cases settled with
  | quiet =>
    simp only [World.statusOf, stored, Option.map_some, Option.getD_some]
    exact quiet_accounts (w.scene row) actor w op _ _ _
  | @saved row' done failed hc he =>
    have hid : row'.id = row.id := hsound.1
    have hself : (w.store.putMeeting row').meeting? row.id = some row' := by
      rw [← hid]
      exact Store.meeting?_putMeeting_self (by rw [hid]; exact stored)
    have errors : ∀ r now values flight e, op = .finish r now →
        (w.scene row).session.requests r = some ⟨values, .calling flight⟩ →
        flight.stage = .failed e →
        (w.scene row).row.status.awaitsOutcome = true ∧ e.Telling := by
      rintro r now values flight e rfl hrequest hstage
      refine ⟨?_, telling row.id r values flight e hrequest hstage⟩
      rw [errorAwaited_failed stored hrequest hstage] at awaited
      exact awaited
    have accounted : run AuditLog.next row.status ((w.scene row).inserts actor op) =
        some row'.status := saved_accounts actor rowSound errors move
    have hkept : w.kept op ((w.scene row).inserts actor op) (.write row' done failed) =
        (w.scene row).inserts actor op := by
      simp only [World.kept, Store.save_of_not_excluded hc he]
    simpa [World.statusOf, hself, hkept] using accounted
  | @unsaved row' done failed e he =>
    simp [World.kept, he, run, World.statusOf, stored]

/-- A step that is no operation on the meeting leaves its status and the trail of it. -/
theorem statusOf_other {l : Label} (sound : w.Sound cfg accounts)
    (h : World.step cfg w l = some w') {pk : MeetingId} (other : ∀ op, l ≠ .on pk op) :
    w'.statusOf pk = w.statusOf pk := by
  cases step_change h with
  | refused _ => rfl
  | @created r pk' client values now fresh _ =>
    by_cases he : pk = pk'
    · subst he
      have hnew : (w.store.insertMeeting (values.draft pk client now) fresh).meeting? pk =
          some (values.draft pk client now) := Store.meeting?_insert_self fresh
      simp only [World.statusOf, hnew, fresh]
      rfl
    · have kept : (w.store.insertMeeting (values.draft pk' client now) fresh).meeting? pk =
          w.store.meeting? pk := Store.meeting?_insert_of_ne fresh he
      simp only [World.statusOf, kept]
  | joined _ _ _ _ => rfl
  | @operated op row effect stored move =>
    have hne : pk ≠ row.id := by
      rintro rfl
      exact other op rfl
    exact statusOf_settle_of_ne (Sound.move (w.scene row) (sound.rows row stored) sound.rooms move)
      hne
  | roomEdited _ => rfl
  | systemPresetEdited => rfl
  | clientPresetEdited => rfl

/-- Every step of an orderly run accounts for the status of every meeting. -/
theorem step_accounts {l : Label} (sound : w.Sound cfg accounts) (telling : w.Telling)
    (awaited : errorAwaited w l = true) (h : World.step cfg w l = some w') (pk : MeetingId) :
    run AuditLog.next (w.statusOf pk)
      ((w.records cfg actor l).filter fun row => decide (row.objectId = pk)) =
        some (w'.statusOf pk) := by
  by_cases hon : ∃ op, l = .on pk op
  · obtain ⟨op, rfl⟩ := hon
    rw [filter_eq_self_of_object records_object]
    exact on_accounts sound telling awaited h
  · have other : ∀ op, l ≠ .on pk op := fun op hl => hon ⟨op, hl⟩
    rw [statusOf_other sound h other]
    cases l with
    | on pk' op =>
      have hne : pk' ≠ pk := by
        rintro rfl
        exact other op rfl
      rw [filter_eq_nil_of_object hne records_object]
      rfl
    | _ => rfl

end Steps

section Notices
variable {cfg : Settings} {store : Store} {s s' : Service}

/-- The row of a registration decides no status, and a token is viewed for a meeting that is
ready or has ended since. -/
def Service.Noticed (s : Service) : Prop :=
  ∀ n notice, s.notices n = some notice → match notice with
    | .registered action _ _ =>
      action = .meetingDraftCreated ∨ action = .existingMeetingMismatch
    | .token _ pk _ => s.world.statusOf pk = .ready ∨ s.world.statusOf pk = .ended

/-- Ready and ended meetings stay so in orderly runs. -/
theorem statusOf_served {w w' : World} (h : OrderlyWorld cfg store w) {l : Label}
    (allowed : orderly w l = true) (step : World.step cfg w l = some w') {pk : MeetingId}
    (before : w.statusOf pk = .ready ∨ w.statusOf pk = .ended) :
    w'.statusOf pk = .ready ∨ w'.statusOf pk = .ended := by
  cases hm : w.store.meeting? pk with
  | none =>
    simp [World.statusOf, hm] at before
  | some m =>
    have hid : m.id = pk := Store.meeting?_id hm
    subst hid
    have law := (status_law_while_errors_awaited h.awaited step).1 (orderly_awaited allowed)
    obtain ⟨m', hm', hmoved, _⟩ := law m hm
    have hid' : m'.id = m.id := Store.meeting?_id hm'
    have reached : Reached cfg store w' := h.of_restrict.step step
    have written := ((reached_sound reached).rows m' (by rw [hid']; exact hm')).row.written
    simp only [World.statusOf, hm, hm', Option.map_some, Option.getD_some] at before ⊢
    revert hmoved written
    generalize m'.status = status
    rcases before with hs | hs
    · rw [hs]
      cases status <;> simp [Status.mayBecome, Status.written]
    · rw [hs]
      cases status <;> simp [Status.mayBecome]

theorem Service.Noticed.drop (noticed : s.Noticed) (n : NoticeId) : (s.put n none).Noticed := by
  intro n' notice hn
  by_cases he : n' = n
  · subst he
    simp [Service.put] at hn
  · have old : s.notices n' = some notice := by simpa [Service.put, he] using hn
    exact noticed n' notice old

/-- The notices of a service whose gateway has stepped. -/
theorem Service.Noticed.stepped (noticed : s.Noticed) (h : OrderlyWorld cfg store s.world)
    {l : Label} (allowed : orderly s.world l = true) {w : World}
    (step : World.step cfg s.world l = some w) : ({ s with world := w } : Service).Noticed := by
  intro n notice hn
  cases notice with
  | registered action pk client => exact noticed n _ hn
  | token creation pk client => exact statusOf_served h allowed step (noticed n _ hn)

theorem Service.Noticed.put {s : Service} (noticed : s.Noticed) {n : NoticeId} {notice : Notice}
    (new : match notice with
      | .registered action _ _ =>
        action = .meetingDraftCreated ∨ action = .existingMeetingMismatch
      | .token _ pk _ => s.world.statusOf pk = .ready ∨ s.world.statusOf pk = .ended) :
    (s.put n (some notice)).Noticed := by
  intro n' notice' hn
  by_cases he : n' = n
  · subst he
    have hsame : notice = notice' := by simpa [Service.put] using hn
    subst hsame
    exact new
  · have old : s.notices n' = some notice' := by simpa [Service.put, he] using hn
    exact noticed n' notice' old

theorem orderly_noticed (h : OrderlyService cfg store s) : s.Noticed := by
  refine h.invariant ?_ ?_
  · intro n notice hn
    cases hn
  · intro a work b reached before hs
    obtain ⟨allowed, hstep⟩ := restrict_eq_some.mp hs
    cases Service.step_change hstep with
    | stepped hw => exact before.stepped (orderly_world reached) allowed hw
    | registered hw hn =>
      obtain ⟨action, pk, client, rfl, haction⟩ := notice_registered hn
      exact (before.stepped (orderly_world reached) allowed hw).put haction
    | @viewed n pk client creation m hm _ hstatus =>
      have written := ((reached_sound (orderly_world reached).of_restrict).rows m
        (by rw [Store.meeting?_id hm]; exact hm)).row.written
      refine before.put (Or.inl ?_)
      simp only [World.statusOf, hm, Option.map_some, Option.getD_some]
      rcases hstatus with hs | hs
      · exact hs
      · rw [hs] at written
        cases written
    | written _ => exact before.drop _
    | lost => exact before.drop _

theorem token_rows_account {context : RequestContext} {outcome : TokenOutcome} {creation : Bool}
    {pk : MeetingId} {client : ClientId} {status : Status}
    (served : status = .ready ∨ status = .ended) :
    run AuditLog.next status ((Notice.token creation pk client).rows context outcome) =
      some status := by
  have hserved : status.served = true ∧ status.awaitsOutcome = false := by
    rcases served with rfl | rfl
    · exact ⟨rfl, rfl⟩
    · exact ⟨rfl, rfl⟩
  simp only [Notice.rows]
  split
  · simp [run, AuditLog.next, audit, hserved.1]
  · cases creation
    · simp [run, AuditLog.next, audit, hserved.1, hserved.2]
    · rfl
  · rfl

/-- A notice that is written leaves the statuses alone, and its row says so. -/
theorem notice_accounts (noticed : s.Noticed) {n : NoticeId} {notice : Notice}
    (hn : s.notices n = some notice) (context : RequestContext) (outcome : TokenOutcome)
    (pk : MeetingId) :
    run AuditLog.next (s.world.statusOf pk)
      ((notice.rows context outcome).filter fun row => decide (row.objectId = pk)) =
        some (s.world.statusOf pk) := by
  have new := noticed n notice hn
  have object := notice_object context outcome notice
  cases notice with
  | registered action pk' client =>
    by_cases he : pk' = pk
    · subst he
      rw [filter_eq_self_of_object object]
      rcases new with rfl | rfl
      · rfl
      · rfl
    · rw [filter_eq_nil_of_object he object]
      rfl
  | token creation pk' client =>
    by_cases he : pk' = pk
    · subst he
      rw [filter_eq_self_of_object object]
      exact token_rows_account new
    · rw [filter_eq_nil_of_object he object]
      rfl

end Notices

/-- The rows about a meeting, read in order from DRAFT, give its status in every orderly run,
whatever is between the rows of one request. -/
theorem trail_replays_status {cfg : Settings} {store : Store} {s : Service} {trail : List AuditLog}
    (reached : Reachable (journaled
      (restrict (fun s work => orderlyWork s work = true) (Service.step cfg)) (Service.rows cfg))
      (Service.initial store, []) (s, trail)) {m : Meeting}
    (stored : s.world.store.meeting? m.id = some m) :
    run AuditLog.next .draft (trail.filter fun row => decide (row.objectId = m.id)) =
      some m.status := by
  have hstatus : s.world.statusOf m.id = m.status := by simp [World.statusOf, stored]
  rw [← hstatus]
  refine journal_replays (fun s => s.world.statusOf m.id) ?_ reached
  intro a work b hreached hs
  obtain ⟨allowed, hstep⟩ := restrict_eq_some.mp hs
  have sound := reached_sound (orderly_world hreached).of_restrict
  have telling := orderly_telling (orderly_world hreached)
  cases work with
  | step l actor n =>
    have account : ∀ w, World.step cfg a.world l = some w → run AuditLog.next
        (a.world.statusOf m.id)
        ((a.world.records cfg actor l).filter fun row => decide (row.objectId = m.id)) =
          some (w.statusOf m.id) := fun w hw =>
      step_accounts sound telling (orderly_awaited allowed) hw m.id
    cases Service.step_change hstep with
    | stepped hw => exact account _ hw
    | registered hw _ => exact account _ hw
  | write n context outcome =>
    cases Service.step_change hstep with
    | written hn =>
      simp only [Service.rows, hn]
      exact notice_accounts (orderly_noticed hreached) hn context outcome m.id
  | view n pk client creation =>
    cases Service.step_change hstep
    rfl
  | lose n =>
    cases Service.step_change hstep
    rfl

def exampleActor : Actor := ⟨⟨"11111111-1111-4111-8111-111111111111", some "10.0.0.1"⟩, 1⟩

/-- The retry of a lost creation; the row of the registration comes last but for a token view. -/
def exampleWork : List Work :=
  (exampleCommitted ++ exampleRetried).map (fun l => .step l exampleActor 0) ++
    [.view 1 1 7 false, .write 0 exampleActor.context (.escaped .unexpected),
      .write 1 exampleActor.context (.refused .providerAuthBusy none)]

/-- The actions of a trail. -/
def actions (trail : List AuditLog) : List AuditAction := trail.map AuditLog.action

theorem trail_replays_status_after_retry :
    ∃ s trail m, Reachable (journaled
        (restrict (fun s work => orderlyWork s work = true) (Service.step exampleSettings))
        (Service.rows exampleSettings)) (Service.initial exampleStore, []) (s, trail) ∧
      actions trail = [.slotReserved, .providerProvisioningStarted, .providerError,
        .providerRetryStarted, .meetingCreated, .providerRetrySucceeded, .meetingDraftCreated,
        .providerError] ∧
      s.world.store.meeting? m.id = some m ∧ m.status = .ready ∧
      run AuditLog.next .draft (trail.filter fun row => decide (row.objectId = m.id)) =
        some m.status := by
  have hrun : ((run (journaled
      (restrict (fun s work => orderlyWork s work = true) (Service.step exampleSettings))
      (Service.rows exampleSettings)) (Service.initial exampleStore, []) exampleWork).map
        fun p => (actions p.2, (p.1.world.store.meeting? 1).map Meeting.status)) =
      some ([.slotReserved, .providerProvisioningStarted, .providerError, .providerRetryStarted,
        .meetingCreated, .providerRetrySucceeded, .meetingDraftCreated, .providerError],
        some .ready) := by decide
  obtain ⟨⟨s, trail⟩, hp, hpair⟩ := Option.map_eq_some_iff.mp hrun
  obtain ⟨hactions, hstatus⟩ := Prod.mk.inj hpair
  obtain ⟨m, hm, hready⟩ := Option.map_eq_some_iff.mp hstatus
  have hid : m.id = 1 := Store.meeting?_id hm
  have stored : s.world.store.meeting? m.id = some m := by
    rw [hid]
    exact hm
  have reached := reachable_of_run hp
  exact ⟨s, trail, m, reached, hactions, stored, hready, trail_replays_status reached stored⟩

end MeetingGateway
