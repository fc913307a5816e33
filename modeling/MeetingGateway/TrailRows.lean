import MeetingGateway.TrailReplay

/-!
# What the rows of the trail say

In every run, late error transactions included, a change of a meeting's status and the row
that explains it are committed together, and every row names the meeting's own client, the
administrator or the sweep. The row of a late provider response is written by a
transaction that raises, so no trail has one.
-/

namespace MeetingGateway

open LabelledRuns Journals

/-- The row says why a meeting has this status. -/
def AuditAction.explains : AuditAction → Status → Bool
  | .providerProvisioningStarted, .provisioning => true
  | .providerRetryStarted, .provisioning => true
  | .meetingCreated, .ready => true
  | .adminRecoveredProviderMeeting, .ready => true
  | .providerStateUnknown, .providerStateUnknown => true
  | .providerError, .retryableFailed => true
  | .providerError, .nonRetryableFailed => true
  | .providerError, .providerResponseInvalid => true
  | .meetingCancelled, .cancelled => true
  | .adminConfirmedProviderEnded, .ended => true
  | _, _ => false

/-- The statuses that a transaction on the meeting commits with the row: none for a row that is
written on its own or by a transaction that raises. -/
def AuditAction.commits : AuditAction → List Status
  | .meetingDraftCreated | .existingMeetingMismatch | .convayTokenIssued
  | .lateProviderResponseRequiresReview => []
  | .slotReserved | .providerProvisioningStarted | .providerRetryStarted => [.provisioning]
  | .providerRetryFailed | .providerError =>
      [.providerStateUnknown, .providerResponseInvalid, .retryableFailed, .nonRetryableFailed]
  | .providerStateUnknown => [.providerStateUnknown]
  | .meetingReadyReplayed | .meetingCreated | .providerRetrySucceeded
  | .adminRecoveredProviderMeeting => [.ready]
  | .meetingCancelled => [.cancelled]
  | .adminConfirmedProviderEnded => [.ended]

section Transactions
variable {cfg : Settings} {accounts : RoomId → Option String} {sc : Scene} {actor : Actor}
variable {op : Operation} {row : Meeting} {done failed : Session}

theorem failure_explained (context : RequestContext) (retrying : Bool) (e : ProviderError)
    (now : Int) : ∃ r ∈ sc.failureRows context retrying e,
      r.action.explains (sc.row.recordFailure e now).status = true := by
  have last : sc.row.clientRow context .providerError (some e) ∈
      sc.failureRows context retrying e := by simp [Scene.failureRows]
  unfold Meeting.recordFailure
  split
  · exact ⟨_, last, rfl⟩
  · cases hambiguous : e.ambiguous with
    | true =>
      refine ⟨sc.row.clientRow context .providerStateUnknown none, ?_, ?_⟩
      · simp [Scene.failureRows, hambiguous]
      · simp [failedStatus, hambiguous, Meeting.clientRow, audit, AuditAction.explains]
    | false =>
      refine ⟨_, last, ?_⟩
      cases hretry : e.code.retryable <;>
        simp [failedStatus, hambiguous, hretry, Meeting.clientRow, audit, AuditAction.explains]

theorem upkeep_explained (upkeep : Upkeep cfg sc.row sc.session op row done)
    (changed : row.status ≠ sc.row.status) :
    ∃ r ∈ sc.inserts actor op, r.action.explains row.status = true := by
  cases upkeep with
  | sweep _ => exact ⟨_, List.mem_singleton_self _, rfl⟩
  | cancelAgain _ => exact absurd rfl changed
  | cancel hc =>
    have hs : sc.row.status ≠ .cancelled := by
      intro hs
      rw [hs] at hc
      cases hc
    refine ⟨sc.row.clientRow actor.context .meetingCancelled none, ?_, rfl⟩
    simp [Scene.inserts, hs]
  | touch _ => exact absurd rfl changed
  | recover hs _ _ _ =>
    refine ⟨audit actor.context .adminRecoveredProviderMeeting sc.row.id none
      (some actor.admin) none, ?_, rfl⟩
    simp [Scene.inserts, hs]
  | confirmEnded _ => exact ⟨_, List.mem_singleton_self _, rfl⟩

/-- A save that changes the status writes a row that explains the new one. -/
theorem saved_explained (move : Move cfg sc op (.write row done failed))
    (changed : row.status ≠ sc.row.status) :
    ∃ r ∈ sc.inserts actor op, r.action.explains row.status = true := by
  cases move with
  | @provision _ _ _ retrying _ _ _ _ _ hrequest _ _ _ _ =>
    refine ⟨sc.row.clientRow actor.context
      (if retrying then .providerRetryStarted else .providerProvisioningStarted) none, ?_, ?_⟩
    · simp [Scene.inserts, hrequest, Scene.startRows]
    · cases retrying <;> rfl
  | @failure _ _ flight e now _ hrequest hstage =>
    simp only [Scene.inserts, hrequest, hstage]
    exact failure_explained actor.context flight.retrying e now
  | @success _ _ flight _ _ _ _ _ hrequest hstage awaits _ =>
    refine ⟨sc.row.clientRow actor.context .meetingCreated none, ?_, rfl⟩
    simp [Scene.inserts, hrequest, hstage, Scene.successRows, awaits]
  | upkeep _ hup => exact upkeep_explained hup changed

theorem upkeep_commits (upkeep : Upkeep cfg sc.row sc.session op row done) {r : AuditLog}
    (hr : r ∈ sc.inserts actor op) : row.status ∈ r.action.commits := by
  cases upkeep with
  | sweep _ =>
    rw [List.mem_singleton.mp hr]
    exact List.mem_singleton_self _
  | cancelAgain hs =>
    simp [Scene.inserts, hs] at hr
  | cancel hc =>
    simp only [Scene.inserts] at hr
    split at hr
    · cases hr
    · rw [List.mem_singleton.mp hr]
      exact List.mem_singleton_self _
  | touch hs => simp [Scene.inserts, hs] at hr
  | recover hs _ _ _ =>
    obtain ⟨_, rfl⟩ := mem_if hr
    exact List.mem_singleton_self _
  | confirmEnded _ =>
    rw [List.mem_singleton.mp hr]
    exact List.mem_singleton_self _

/-- An error transaction leaves one of its four outcomes. -/
theorem recordFailure_commits (m : Meeting) (e : ProviderError) (now : Int) :
    (m.recordFailure e now).status ∈
      [.providerStateUnknown, .providerResponseInvalid, .retryableFailed,
        Status.nonRetryableFailed] := by
  unfold Meeting.recordFailure
  split
  · simp
  · unfold failedStatus
    split
    · simp
    · split <;> simp

theorem recordFailure_unknown {e : ProviderError} (certain : e.Certain)
    (ambiguous : e.ambiguous = true) (m : Meeting) (now : Int) :
    (m.recordFailure e now).status = .providerStateUnknown := by
  cases hresult : e.providerResult with
  | some result =>
    have sure := certain (by simp [ProviderError.knownCreated, hresult])
    rw [ambiguous] at sure
    cases sure
  | none => simp [Meeting.recordFailure, hresult, failedStatus, ambiguous]

/-- A row of a transaction that saves is committed with a status its action stands for. -/
theorem saved_commits (certain : ∀ r values flight e, sc.session.requests r =
      some ⟨values, .calling flight⟩ → flight.stage = .failed e → e.Certain)
    (move : Move cfg sc op (.write row done failed)) {r : AuditLog} (hr : r ∈ sc.inserts actor op) :
    row.status ∈ r.action.commits := by
  cases move with
  | @provision _ _ _ retrying _ _ _ _ _ hrequest _ _ _ _ =>
    simp only [Scene.inserts, hrequest] at hr
    rcases List.mem_append.mp hr with hslot | hstart
    · obtain ⟨_, rfl⟩ := mem_if hslot
      exact List.mem_singleton_self _
    · rw [List.mem_singleton.mp hstart]
      cases retrying
      · exact List.mem_singleton_self _
      · exact List.mem_singleton_self _
  | @failure _ _ _ e now _ hrequest hstage =>
    simp only [Scene.inserts, hrequest, hstage, Scene.failureRows, List.mem_append,
      List.mem_singleton] at hr
    rcases hr with (hretry | hunknown) | rfl
    · obtain ⟨_, rfl⟩ := mem_if hretry
      exact recordFailure_commits sc.row e now
    · obtain ⟨ambiguous, rfl⟩ := mem_if hunknown
      exact List.mem_singleton.mpr
        (recordFailure_unknown (certain _ _ _ _ hrequest hstage) ambiguous sc.row now)
    · exact recordFailure_commits sc.row e now
  | success _ hrequest hstage awaits _ =>
    simp only [Scene.inserts, hrequest, hstage, Scene.successRows, awaits, Bool.not_true,
      Bool.false_eq_true, if_false] at hr
    rcases List.mem_cons.mp hr with rfl | hretry
    · exact List.mem_singleton_self _
    · obtain ⟨_, rfl⟩ := mem_if hretry
      exact List.mem_singleton_self _
  | upkeep _ hup => exact upkeep_commits hup hr

/-- A transaction that saves never finds the outcome late. -/
theorem saved_not_late (move : Move cfg sc op (.write row done failed)) {r : AuditLog}
    (hr : r ∈ sc.inserts actor op) : r.action ≠ .lateProviderResponseRequiresReview := by
  cases inserts_wrote hr with
  | client _ hlate _ => exact hlate
  | failed => exact fun h => by cases h
  | late hrequest hstage hnot =>
    cases move with
    | failure _ hrequest' hstage' =>
      cases hrequest.symm.trans hrequest'
      rw [hstage] at hstage'
      cases hstage'
    | success _ hrequest' _ awaits _ =>
      rw [hnot] at awaits
      cases awaits
    | upkeep _ hup => cases hup
  | sweep => exact fun h => by cases h
  | admin haction =>
    rintro rfl
    cases haction

/-- The rows that stay although nothing was saved are those of a replay, and of a ready row if
it has a status that is written at all. -/
theorem quiet_rows {w : World} {session : Session} {roomLock : RoomId → Option MeetingId}
    {excluded : Bool} {r : AuditLog}
    (hr : r ∈ w.kept op (sc.inserts actor op) (.quiet session roomLock excluded)) :
    r.action = .meetingReadyReplayed ∧
      (sc.row.status.written = true → sc.row.status = .ready) := by
  cases op with
  | begin r' =>
    simp only [World.kept, Operation.returnsUnsaved, if_true, Scene.inserts] at hr
    split at hr
    · obtain ⟨hreplay, rfl⟩ := mem_if hr
      refine ⟨rfl, ?_⟩
      intro written
      rcases provisionGate_replay.mp hreplay with ready | live
      · exact ready
      · rw [live] at written
        cases written
    · cases hr
  | _ => cases hr

end Transactions

section Steps
variable {cfg : Settings} {accounts : RoomId → Option String} {w w' : World} {actor : Actor}
variable {op : Operation} {pk : MeetingId}

/-- The rows of a step that saves, and what it saves. -/
theorem step_saved {row row' : Meeting} {done failed : Session}
    (stored : w.store.meeting? row.id = some row)
    (heffect : (w.scene row).operate cfg op = some (.write row' done failed))
    (hc : row'.checks = true) (he : w.store.excluded row' = false) :
    w.records cfg actor (.on row.id op) = (w.scene row).inserts actor op := by
  rw [records_on stored heffect]
  simp only [World.kept, Store.save_of_not_excluded hc he]

theorem on_explained (sound : w.Sound cfg accounts)
    (h : World.step cfg w (.on pk op) = some w') (changed : w'.statusOf pk ≠ w.statusOf pk) :
    ∃ r ∈ w.records cfg actor (.on pk op),
      r.objectId = pk ∧ r.action.explains (w'.statusOf pk) = true := by
  obtain ⟨row, effect, stored, rfl, heffect, rfl⟩ := step_on h
  have move := operate_move stored heffect
  have hsound := Sound.move (w.scene row) (sound.rows row stored) sound.rooms move
  have settled := settle_settled w row.id effect
  generalize w.settle row.id effect = w' at settled changed
  cases settled with
  | quiet => exact absurd rfl changed
  | @saved row' done failed hc he =>
    have hid : row'.id = row.id := hsound.1
    have hself : (w.store.putMeeting row').meeting? row.id = some row' := by
      rw [← hid]
      exact Store.meeting?_putMeeting_self (by rw [hid]; exact stored)
    simp only [World.statusOf, hself, stored, Option.map_some, Option.getD_some] at changed ⊢
    obtain ⟨r, hr, explains⟩ : ∃ r ∈ (w.scene row).inserts actor op,
        r.action.explains row'.status = true := saved_explained move changed
    rw [← step_saved stored heffect hc he] at hr
    exact ⟨r, hr, records_object r hr, explains⟩
  | unsaved _ => exact absurd rfl changed

theorem on_commits (sound : w.Sound cfg accounts) (certain : w.Certain)
    (h : World.step cfg w (.on pk op) = some w') {r : AuditLog}
    (hr : r ∈ w.records cfg actor (.on pk op)) :
    ∃ m, w'.store.meeting? pk = some m ∧ m.status ∈ r.action.commits := by
  obtain ⟨row, effect, stored, rfl, heffect, rfl⟩ := step_on h
  have move := operate_move stored heffect
  have hsound := Sound.move (w.scene row) (sound.rows row stored) sound.rooms move
  rw [records_on stored heffect] at hr
  have settled := settle_settled w row.id effect
  generalize w.settle row.id effect = w' at settled
  cases settled with
  | quiet =>
    obtain ⟨haction, replayed⟩ := quiet_rows hr
    have ready : row.status = .ready := replayed (sound.rows row stored).row.written
    rw [haction]
    exact ⟨row, stored, List.mem_singleton.mpr ready⟩
  | @saved row' done failed hc he =>
    have hid : row'.id = row.id := hsound.1
    refine ⟨row', ?_, saved_commits (certain row.id) move (kept_subset hr)⟩
    show (w.store.putMeeting row').meeting? row.id = some row'
    rw [← hid]
    exact Store.meeting?_putMeeting_self (by rw [hid]; exact stored)
  | unsaved herror =>
    simp only [World.kept, herror] at hr
    cases hr

end Steps

/-- There is such a meeting and it belongs to the client. -/
def World.Owns (w : World) (pk : MeetingId) (client : ClientId) : Prop :=
  ∃ m, w.store.meeting? pk = some m ∧ m.integrationClient = client

theorem World.Owns.extends {w w' : World} {pk : MeetingId} {client : ClientId}
    (h : w.Owns pk client) (grows : w.Extends w') : w'.Owns pk client := by
  obtain ⟨m, hm, hclient⟩ := h
  have hid : m.id = pk := Store.meeting?_id hm
  obtain ⟨m', hm', same, _⟩ := grows m (by rw [hid]; exact hm)
  have hsame : m'.integrationClient = m.integrationClient := congrArg Identity.client same
  exact ⟨m', by rw [← hid]; exact hm', hsame.trans hclient⟩

/-- The row names an administrator if its action is one of theirs, and otherwise the client whose
meeting it is about or, for the sweep, nobody. -/
inductive AuditLog.Signed (row : AuditLog) (client : ClientId) : Prop
  | client : row.actorType = .client → row.integrationClient = some client →
      row.adminUser = none → row.action.admins = false → Signed row client
  | admin : row.actorType = .admin → row.integrationClient = none →
      row.adminUser.isSome = true → row.action.admins = true → Signed row client
  | system : row.actorType = .system → row.integrationClient = none → row.adminUser = none →
      row.action = .providerStateUnknown → Signed row client

/-- What holds of every row of a trail. -/
structure AuditLog.Faithful (w : World) (row : AuditLog) : Prop where
  signed : ∃ client, w.Owns row.objectId client ∧ row.Signed client
  metadata : row.metadata.isSome = true ↔ row.action = .providerError
  timely : row.action ≠ .lateProviderResponseRequiresReview

theorem AuditLog.Faithful.extends {w w' : World} {row : AuditLog} (h : row.Faithful w)
    (grows : w.Extends w') : row.Faithful w' where
  signed := by
    obtain ⟨client, owns, signed⟩ := h.signed
    exact ⟨client, owns.extends grows, signed⟩
  metadata := h.metadata
  timely := h.timely

/-- The notices are about meetings of the clients they name. -/
def Service.Owned (s : Service) : Prop :=
  ∀ n notice, s.notices n = some notice → match notice with
    | .registered action pk client => s.world.Owns pk client ∧
      (action = .meetingDraftCreated ∨ action = .existingMeetingMismatch)
    | .token _ pk client => s.world.Owns pk client

section Named
variable {cfg : Settings} {accounts : RoomId → Option String} {s : Service} {w : World}

theorem wrote_faithful {sc : Scene} {actor : Actor} {op : Operation} {row : AuditLog}
    (stored : w.store.meeting? sc.row.id = some sc.row) (wrote : Wrote sc actor op row)
    (timely : row.action ≠ .lateProviderResponseRequiresReview) : row.Faithful w := by
  have owns : w.Owns sc.row.id sc.row.integrationClient := ⟨sc.row, stored, rfl⟩
  cases wrote with
  | client hplain hlate hclient =>
    refine ⟨⟨_, owns, .client rfl rfl rfl hclient⟩, ?_, hlate⟩
    simpa [Meeting.clientRow, audit] using hplain
  | failed =>
    refine ⟨⟨_, owns, .client rfl rfl rfl rfl⟩, ?_, timely⟩
    simp [Meeting.clientRow, audit]
  | late _ _ _ => exact absurd rfl timely
  | sweep => exact ⟨⟨_, owns, .system rfl rfl rfl rfl⟩, by simp [audit], timely⟩
  | admin haction =>
    refine ⟨⟨_, owns, .admin rfl rfl rfl haction⟩, ?_, timely⟩
    constructor
    · rintro ⟨⟩
    · rintro rfl
      cases haction

/-- The rows of a step are about a meeting that was there before it. -/
theorem records_faithful {l : Label} {w' : World} (h : World.step cfg w l = some w')
    {actor : Actor} {row : AuditLog}
    (hrow : row ∈ w.records cfg actor l) : row.Faithful w := by
  cases l with
  | on pk op =>
    obtain ⟨m, effect, stored, rfl, heffect, _⟩ := step_on h
    have move := operate_move stored heffect
    rw [records_on stored heffect] at hrow
    have wrote := inserts_wrote (kept_subset hrow)
    cases effect with
    | quiet session roomLock excluded =>
      refine wrote_faithful stored wrote ?_
      rw [(quiet_rows hrow).1]
      exact fun hc => by cases hc
    | write row' done failed =>
      exact wrote_faithful stored wrote (saved_not_late move (kept_subset hrow))
  | _ => cases hrow

theorem notice_faithful {context : RequestContext} {outcome : TokenOutcome} {notice : Notice}
    (owned : match notice with
      | .registered action pk client => w.Owns pk client ∧
        (action = .meetingDraftCreated ∨ action = .existingMeetingMismatch)
      | .token _ pk client => w.Owns pk client) :
    ∀ row ∈ notice.rows context outcome, row.Faithful w := by
  intro row hrow
  cases notice with
  | registered action pk client =>
    obtain ⟨owns, haction⟩ := owned
    rw [List.mem_singleton.mp hrow]
    rcases haction with rfl | rfl
    · exact ⟨⟨client, owns, .client rfl rfl rfl rfl⟩, by simp [audit], fun h => by cases h⟩
    · exact ⟨⟨client, owns, .client rfl rfl rfl rfl⟩, by simp [audit], fun h => by cases h⟩
  | token creation pk client =>
    simp only [Notice.rows] at hrow
    split at hrow
    · rw [List.mem_singleton.mp hrow]
      exact ⟨⟨client, owned, .client rfl rfl rfl rfl⟩, by simp [audit], fun h => by cases h⟩
    · split at hrow
      · cases hrow
      · rw [List.mem_singleton.mp hrow]
        exact ⟨⟨client, owned, .client rfl rfl rfl rfl⟩, by simp [audit], fun h => by cases h⟩
    · cases hrow

theorem Service.Owned.extends {w : World} (h : s.Owned) (grows : s.world.Extends w) :
    ({ s with world := w } : Service).Owned := by
  intro n notice hn
  have old := h n notice hn
  cases notice with
  | registered action pk client => exact ⟨old.1.extends grows, old.2⟩
  | token creation pk client => exact World.Owns.extends old grows

theorem Service.Owned.put (h : s.Owned) {n : NoticeId} {new : Option Notice}
    (owned : ∀ notice, new = some notice → match notice with
      | .registered action pk client => s.world.Owns pk client ∧
        (action = .meetingDraftCreated ∨ action = .existingMeetingMismatch)
      | .token _ pk client => s.world.Owns pk client) : (s.put n new).Owned := by
  intro n' notice hn
  by_cases he : n' = n
  · subst he
    have hsame : new = some notice := by simpa [Service.put] using hn
    exact owned notice hsame
  · have old : s.notices n' = some notice := by simpa [Service.put, he] using hn
    exact h n' notice old

/-- The meeting a registration notices is there after the registration. -/
theorem notice_owned {w' : World} {l : Label} {notice : Notice} (hn : w.notice l = some notice)
    (h : World.step cfg w l = some w') : ∃ action pk client,
      notice = .registered action pk client ∧ w'.Owns pk client ∧
        (action = .meetingDraftCreated ∨ action = .existingMeetingMismatch) := by
  cases l with
  | register r pk client values now =>
    simp only [World.notice] at hn
    simp only [World.step, World.register] at h
    cases hregister : MeetingGateway.register w.store pk client values now with
    | ok found =>
      obtain ⟨m, created⟩ := found
      rw [hregister] at hn h
      cases created with
      | false => cases hn
      | true =>
        cases hn
        dsimp only at h
        split at h
        · rename_i fresh
          cases h
          obtain ⟨rfl, _⟩ := register_created hregister
          refine ⟨_, _, _, rfl, ⟨_, Store.meeting?_insert_self fresh, rfl⟩, Or.inl rfl⟩
        · cases h
    | error e =>
      rw [hregister] at hn h
      cases h
      dsimp only at hn
      split at hn
      · rename_i m hone
        cases hn
        have hmem :
            m ∈ w.store.meetings.rows.filter (Meeting.keyed client values.classInfo.id) := by
          rw [hone]
          exact List.mem_singleton_self m
        obtain ⟨hrow, hkeyed⟩ := List.mem_filter.mp hmem
        have hclient := (keyed_iff.mp hkeyed).1
        exact ⟨_, _, _, rfl, ⟨m, KeyedTable.get?_eq_some.mpr ⟨hrow, rfl⟩, hclient⟩, Or.inr rfl⟩
      · cases hn
  | _ => cases hn

theorem service_extends {store : Store} (h : Reachable (Service.step cfg) (Service.initial store) s)
    {work : Work} {s' : Service} (step : s.step cfg work = some s') :
    s.world.Extends s'.world := by
  rcases (Service.step_change step).world with ⟨l, hw⟩ | same
  · exact .change (reached_sound (reached_of_service h)) (MeetingGateway.step_change hw)
  · rw [same]
    exact .refl _

theorem service_owned {store : Store}
    (h : Reachable (Service.step cfg) (Service.initial store) s) : s.Owned := by
  refine h.invariant ?_ ?_
  · intro n notice hn
    cases hn
  · intro a work b reached before hs
    have grows := service_extends reached hs
    cases Service.step_change hs with
    | stepped _ => exact before.extends grows
    | registered hw hn =>
      obtain ⟨action, pk, client, rfl, owns, haction⟩ := notice_owned hn hw
      refine (before.extends grows).put ?_
      rintro notice ⟨rfl⟩
      exact ⟨owns, haction⟩
    | viewed hm hclient _ =>
      refine before.put ?_
      rintro notice ⟨rfl⟩
      exact ⟨_, hm, hclient⟩
    | written _ => exact before.put fun _ hc => by cases hc
    | lost => exact before.put fun _ hc => by cases hc

end Named

/-- Every row of every trail names the client whose meeting it is about, or an administrator
for an administrator's action, or is the sweep's; it has metadata only for a provider error;
and none is that of a late provider response, whose transaction always raises. -/
theorem trail_rows_faithful {cfg : Settings} {store : Store} {s : Service} {trail : List AuditLog}
    (h : Audited cfg store s trail) : ∀ row ∈ trail, row.Faithful s.world := by
  let Holds : Service × List AuditLog → Prop := fun q => ∀ row ∈ q.2, row.Faithful q.1.world
  have start : Holds (Service.initial store, []) := by
    intro row hrow
    cases hrow
  have preserved : ∀ a work b, Reachable (journaled (Service.step cfg) (Service.rows cfg))
      (Service.initial store, []) a → Holds a →
      journaled (Service.step cfg) (Service.rows cfg) a work = some b → Holds b := by
    intro a work b reached before hs
    obtain ⟨t, ht, rfl⟩ := journaled_eq_some.mp hs
    have grows := service_extends (reachable_state reached) ht
    intro row hrow
    rcases List.mem_append.mp hrow with old | new
    · exact (before row old).extends grows
    · refine AuditLog.Faithful.extends ?_ grows
      cases work with
      | step l actor n =>
        cases Service.step_change ht with
        | stepped hw => exact records_faithful hw new
        | registered hw _ => exact records_faithful hw new
      | write n context outcome =>
        cases Service.step_change ht with
        | @written _ _ _ notice hn =>
          simp only [Service.rows, hn] at new
          exact notice_faithful (service_owned (reachable_state reached) n notice hn) row new
      | view n pk client creation => cases new
      | lose n => cases new
  exact h.invariant start preserved

/-- In every run a step that changes a meeting's status leaves a row on it that explains the
new status, and a row that a transaction writes is left only with a status its action stands
for. -/
theorem status_changes_recorded {cfg : Settings} {store : Store} {s s' : Service} {work : Work}
    (reached : Reachable (Service.step cfg) (Service.initial store) s)
    (step : s.step cfg work = some s') :
    (∀ pk, s'.world.statusOf pk ≠ s.world.statusOf pk → ∃ row ∈ Service.rows cfg s work s',
      row.objectId = pk ∧ row.action.explains (s'.world.statusOf pk) = true) ∧
    ∀ l actor n, work = .step l actor n → ∀ row ∈ Service.rows cfg s work s',
      ∃ m, s'.world.store.meeting? row.objectId = some m ∧ m.status ∈ row.action.commits := by
  have sound := reached_sound (reached_of_service reached)
  have certain := reached_certain (reached_of_service reached)
  constructor
  · intro pk changed
    have stepped : ∀ l actor w, World.step cfg s.world l = some w →
        w.statusOf pk ≠ s.world.statusOf pk → ∃ row ∈ s.world.records cfg actor l,
          row.objectId = pk ∧ row.action.explains (w.statusOf pk) = true := by
      intro l actor w hw hchanged
      by_cases hon : ∃ op, l = .on pk op
      · obtain ⟨op, rfl⟩ := hon
        exact on_explained sound hw hchanged
      · exact absurd (statusOf_other sound hw fun op hl => hon ⟨op, hl⟩) hchanged
    cases Service.step_change step with
    | stepped hw => exact stepped _ _ _ hw changed
    | registered hw _ => exact stepped _ _ _ hw changed
    | viewed _ _ _ => exact absurd rfl changed
    | written _ => exact absurd rfl changed
    | lost => exact absurd rfl changed
  · rintro l actor n rfl row hrow
    have stepped : ∀ w, World.step cfg s.world l = some w → row ∈ s.world.records cfg actor l →
        ∃ m, w.store.meeting? row.objectId = some m ∧ m.status ∈ row.action.commits := by
      intro w hw hmem
      cases l with
      | on pk op =>
        rw [records_object row hmem]
        exact on_commits sound certain hw hmem
      | _ => cases hmem
    cases Service.step_change step with
    | stepped hw => exact stepped _ hw hrow
    | registered hw _ => exact stepped _ hw hrow

/-- The provider's answer comes after the sweep flagged the meeting and an operator confirmed
its end: the success transaction raises, and its row is gone. -/
def exampleLateWork : List Work :=
  (exampleDecided ++ [Label.on 1 (.receive 0 exampleCreated),
    Label.on 1 (.finish 0 (13 * minuteMicroseconds))]).map fun l => .step l exampleActor 0

theorem late_answer_leaves_no_row :
    ∃ s trail, Audited exampleSettings exampleStore s trail ∧
      actions trail = [.slotReserved, .providerProvisioningStarted, .providerStateUnknown,
        .adminConfirmedProviderEnded] ∧
      ∀ row ∈ trail, row.Faithful s.world := by
  have hrun : ((run (journaled (Service.step exampleSettings) (Service.rows exampleSettings))
      (Service.initial exampleStore, []) exampleLateWork).map fun p => actions p.2) =
      some [.slotReserved, .providerProvisioningStarted, .providerStateUnknown,
        .adminConfirmedProviderEnded] := by decide
  obtain ⟨⟨s, trail⟩, hp, hactions⟩ := Option.map_eq_some_iff.mp hrun
  have reached := reachable_of_run hp
  exact ⟨s, trail, reached, hactions, trail_rows_faithful reached⟩

/-- The sweep of the meeting whose call is out, with its row. -/
theorem sweep_leaves_row :
    ∃ s s', Reachable (Service.step exampleSettings) (Service.initial exampleStore) s ∧
      s.step exampleSettings (.step (.on 1 (.sweep (11 * minuteMicroseconds))) exampleActor 0) =
        some s' ∧
      s'.world.statusOf 1 ≠ s.world.statusOf 1 ∧
      ∃ row ∈ Service.rows exampleSettings s
          (.step (.on 1 (.sweep (11 * minuteMicroseconds))) exampleActor 0) s',
        row.objectId = 1 ∧ row.action.explains (s'.world.statusOf 1) = true := by
  have hrun : ((run (Service.step exampleSettings) (Service.initial exampleStore)
      (exampleCommitted.map fun l => Work.step l exampleActor 0)).bind fun s =>
        (s.step exampleSettings
          (.step (.on 1 (.sweep (11 * minuteMicroseconds))) exampleActor 0)).map fun s' =>
            (s.world.statusOf 1, s'.world.statusOf 1)) =
      some (.provisioning, .providerStateUnknown) := by decide
  obtain ⟨s, hs, hlast⟩ := Option.bind_eq_some_iff.mp hrun
  obtain ⟨s', hs', hpair⟩ := Option.map_eq_some_iff.mp hlast
  obtain ⟨hbefore, hafter⟩ := Prod.mk.inj hpair
  have changed : s'.world.statusOf 1 ≠ s.world.statusOf 1 := by
    rw [hbefore, hafter]
    decide
  have reached := reachable_of_run hs
  exact ⟨s, s', reached, hs', changed, (status_changes_recorded reached hs').1 1 changed⟩

end MeetingGateway
