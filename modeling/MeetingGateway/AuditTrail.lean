import MeetingGateway.Flights
import MeetingGateway.Library.Journals

/-!
# The audit trail

`apps/audit/services.py` and its calls on meetings. A row written inside a transaction
stays only if the transaction commits; the rows of a registration and of a token view are
written on their own, after the request has read the meeting, so any other step can come
before them, and a request that dies never writes them.
-/

namespace MeetingGateway

open LabelledRuns Journals

abbrev AdminId := Nat
abbrev NoticeId := Nat

/-- What `RequestIDMiddleware` leaves in `request_context`. -/
structure RequestContext where
  requestId : String
  ip : Option String
  deriving DecidableEq

/-- Outside a request the context is empty. -/
def RequestContext.empty : RequestContext := ⟨"", none⟩

inductive ActorType where
  | admin
  | client
  | system
  deriving DecidableEq

/-- The actions recorded on a meeting. -/
inductive AuditAction where
  | meetingDraftCreated
  | existingMeetingMismatch
  | meetingReadyReplayed
  | slotReserved
  | providerProvisioningStarted
  | providerRetryStarted
  | providerRetryFailed
  | providerStateUnknown
  | providerError
  | lateProviderResponseRequiresReview
  | meetingCreated
  | providerRetrySucceeded
  | meetingCancelled
  | adminRecoveredProviderMeeting
  | adminConfirmedProviderEnded
  | convayTokenIssued
  deriving DecidableEq

/-- The text of the `action` column. -/
def AuditAction.text : AuditAction → String
  | .meetingDraftCreated => "meeting_draft_created"
  | .existingMeetingMismatch => "existing_meeting_mismatch"
  | .meetingReadyReplayed => "meeting_ready_replayed"
  | .slotReserved => "slot_reserved"
  | .providerProvisioningStarted => "provider_provisioning_started"
  | .providerRetryStarted => "provider_retry_started"
  | .providerRetryFailed => "provider_retry_failed"
  | .providerStateUnknown => "provider_state_unknown"
  | .providerError => "provider_error"
  | .lateProviderResponseRequiresReview => "late_provider_response_requires_review"
  | .meetingCreated => "meeting_created"
  | .providerRetrySucceeded => "provider_retry_succeeded"
  | .meetingCancelled => "meeting_cancelled"
  | .adminRecoveredProviderMeeting => "admin_recovered_provider_meeting"
  | .adminConfirmedProviderEnded => "admin_confirmed_provider_ended"
  | .convayTokenIssued => "convay_token_issued"

/-- The actions of `MeetingAdmin`. -/
def AuditAction.admins : AuditAction → Bool
  | .adminRecoveredProviderMeeting | .adminConfirmedProviderEnded => true
  | _ => false

/-- `metadata` of a provider error; the other rows have an empty object. -/
structure ProviderErrorMetadata where
  providerErrorCode : ProviderCode
  upstreamStatusCode : Option Nat
  outcomeUnknown : Bool
  deriving DecidableEq

/-- A row about a meeting. Its own key and its timestamp decide nothing. -/
structure AuditLog where
  actorType : ActorType
  adminUser : Option AdminId
  integrationClient : Option ClientId
  action : AuditAction
  objectType : String
  objectId : MeetingId
  requestId : String
  ip : Option String
  metadata : Option ProviderErrorMetadata
  deriving DecidableEq

def audit (context : RequestContext) (action : AuditAction) (obj : MeetingId)
    (client : Option ClientId) (admin : Option AdminId) (providerError : Option ProviderError) :
    AuditLog where
  actorType := if admin.isSome then .admin else if client.isSome then .client else .system
  adminUser := admin
  integrationClient := client
  action := action
  objectType := "meetings.Meeting"
  objectId := obj
  requestId := context.requestId
  ip := context.ip
  metadata := providerError.map fun e => ⟨e.code, e.statusCode, e.ambiguous⟩

/-- A row of a request, with the meeting's own client. -/
def Meeting.clientRow (m : Meeting) (context : RequestContext) (action : AuditAction)
    (providerError : Option ProviderError) : AuditLog :=
  audit context action m.id (some m.integrationClient) none providerError

/-- Who runs a step: the context of its request and, in the admin, the user. -/
structure Actor where
  context : RequestContext
  admin : AdminId

namespace Scene

/-- The error transaction. -/
def failureRows (sc : Scene) (context : RequestContext) (retrying : Bool) (e : ProviderError) :
    List AuditLog :=
  (if retrying then [sc.row.clientRow context .providerRetryFailed none] else []) ++
    (if e.ambiguous then [sc.row.clientRow context .providerStateUnknown none] else []) ++
      [sc.row.clientRow context .providerError (some e)]

/-- The success transaction, which raises after its row if the outcome is not awaited. -/
def successRows (sc : Scene) (context : RequestContext) (retrying : Bool) : List AuditLog :=
  if !sc.row.status.awaitsOutcome then
    [sc.row.clientRow context .lateProviderResponseRequiresReview none]
  else
    sc.row.clientRow context .meetingCreated none ::
      (if retrying then [sc.row.clientRow context .providerRetrySucceeded none] else [])

/-- The first transaction: the allocator's row, if it ran, and that of the commit. -/
def startRows (sc : Scene) (context : RequestContext) (reserved : Meeting) (retrying : Bool) :
    List AuditLog :=
  (if reserved.status = .reserved then [sc.row.clientRow context .slotReserved none] else []) ++
    [sc.row.clientRow context
      (if retrying then .providerRetryStarted else .providerProvisioningStarted) none]

/-- The rows a transaction writes, whether it then commits or raises; one that raises earlier has
written fewer. -/
def inserts (sc : Scene) (actor : Actor) : Operation → List AuditLog
  | .begin r =>
    match sc.session.requests r with
    | some ⟨values, .registered⟩ =>
      if provisionGate sc.row values = .ok .replay then
        [sc.row.clientRow actor.context .meetingReadyReplayed none]
      else []
    | _ => []
  | .commit r _ =>
    match sc.session.requests r with
    | some ⟨_, .reserving reserved retrying⟩ => sc.startRows actor.context reserved retrying
    | _ => []
  | .finish r _ =>
    match sc.session.requests r with
    | some ⟨_, .calling flight⟩ =>
      match flight.stage with
      | .failed e => sc.failureRows actor.context flight.retrying e
      | .succeeded _ _ => sc.successRows actor.context flight.retrying
      | _ => []
    | _ => []
  | .sweep _ => [audit .empty .providerStateUnknown sc.row.id none none none]
  | .cancel _ =>
    if sc.row.status = .cancelled then []
    else [sc.row.clientRow actor.context .meetingCancelled none]
  | .recover _ _ =>
    if sc.row.status = .providerStateUnknown then
      [audit actor.context .adminRecoveredProviderMeeting sc.row.id none (some actor.admin) none]
    else []
  | .confirmEnded _ =>
    [audit actor.context .adminConfirmedProviderEnded sc.row.id none (some actor.admin) none]
  | _ => []

end Scene

/-- Whether the operation's transaction commits without saving the row. -/
def Operation.returnsUnsaved : Operation → Bool
  | .begin _ => true
  | _ => false

/-- The rows that stay: those of a transaction that commits. -/
def World.kept (w : World) (op : Operation) (rows : List AuditLog) : Effect → List AuditLog
  | .quiet _ _ _ => if op.returnsUnsaved then rows else []
  | .write row _ _ =>
    match w.store.save row with
    | .ok _ => rows
    | .error _ => []

/-- The rows a step of the gateway leaves in the trail. -/
def World.records (cfg : Settings) (w : World) (actor : Actor) : Label → List AuditLog
  | .on pk op =>
    match w.store.meeting? pk with
    | none => []
    | some row =>
      match (w.scene row).operate cfg op with
      | none => []
      | some effect => w.kept op ((w.scene row).inserts actor op) effect
  | _ => []

/-- What a request still has to write: the row of its registration, or that of a token view,
which a creation with the token scope ends with too. -/
inductive Notice where
  | registered (action : AuditAction) (pk : MeetingId) (client : ClientId)
  | token (creation : Bool) (pk : MeetingId) (client : ClientId)

/-- The row `register` writes once the row is there or found to differ. -/
def World.notice (w : World) : Label → Option Notice
  | .register _ pk client values now =>
    match MeetingGateway.register w.store pk client values now with
    | .ok (m, true) => some (.registered .meetingDraftCreated m.id client)
    | .ok (_, false) => none
    | .error _ =>
      match w.store.meetings.rows.filter (Meeting.keyed client values.classInfo.id) with
      | [m] => some (.registered .existingMeetingMismatch m.id client)
      | _ => none
  | _ => none

/-- The rows once `get_token` has answered. A creation lets its errors pass. -/
def Notice.rows (context : RequestContext) (outcome : TokenOutcome) : Notice → List AuditLog
  | .registered action pk client => [audit context action pk (some client) none none]
  | .token creation pk client =>
    match outcome.result with
    | .ok _ => [audit context .convayTokenIssued pk (some client) none none]
    | .error (.provider e) =>
      if creation then [] else [audit context .providerError pk (some client) none (some e)]
    | .error _ => []

/-- The gateway and the rows its requests still have to write. -/
structure Service where
  world : World
  notices : NoticeId → Option Notice

/-- `step` names the notice a registration would leave; `view` reads a meeting for its token;
`write` ends a notice with its row, `lose` without one. -/
inductive Work where
  | step (l : Label) (actor : Actor) (n : NoticeId)
  | view (n : NoticeId) (pk : MeetingId) (client : ClientId) (creation : Bool)
  | write (n : NoticeId) (context : RequestContext) (outcome : TokenOutcome)
  | lose (n : NoticeId)

namespace Service

def initial (store : Store) : Service := ⟨World.initial store, fun _ => none⟩

def put (s : Service) (n : NoticeId) (notice : Option Notice) : Service :=
  { s with notices := Function.update s.notices n notice }

/-- `owned`, and the status check of `MeetingTokenView`. -/
def viewable (s : Service) (pk : MeetingId) (client : ClientId) (creation : Bool) : Bool :=
  match s.world.store.meeting? pk with
  | none => false
  | some row => decide (row.integrationClient = client) &&
      (decide (row.status = .ready) || decide (row.status = .live)) &&
      (creation || row.room.isSome)

def step (cfg : Settings) (s : Service) : Work → Option Service
  | .step l _ n =>
    match World.step cfg s.world l, s.world.notice l with
    | some w, none => some { s with world := w }
    | some w, some notice =>
      if (s.notices n).isSome then none else some (({ s with world := w } : Service).put n notice)
    | none, _ => none
  | .view n pk client creation =>
    if (s.notices n).isNone && s.viewable pk client creation then
      some (s.put n (some (.token creation pk client)))
    else none
  | .write n _ _ => (s.notices n).map fun _ => s.put n none
  | .lose n => (s.notices n).map fun _ => s.put n none

/-- What a piece of work appends to the trail. -/
def rows (cfg : Settings) (s : Service) (work : Work) (_ : Service) : List AuditLog :=
  match work with
  | .step l actor _ => s.world.records cfg actor l
  | .write n context outcome =>
    match s.notices n with
    | some notice => notice.rows context outcome
    | none => []
  | _ => []

end Service

/-- The states of the gateway with its trail. -/
abbrev Audited (cfg : Settings) (store : Store) (s : Service) (trail : List AuditLog) : Prop :=
  Reachable (journaled (Service.step cfg) (Service.rows cfg)) (Service.initial store, [])
    (s, trail)

/-- What a piece of work does to the gateway and to the notices. -/
inductive Service.Change (cfg : Settings) (s : Service) : Work → Service → Prop
  | stepped {l : Label} {actor : Actor} {n : NoticeId} {w : World} :
      World.step cfg s.world l = some w → Change cfg s (.step l actor n) { s with world := w }
  | registered {l : Label} {actor : Actor} {n : NoticeId} {w : World} {notice : Notice} :
      World.step cfg s.world l = some w → s.world.notice l = some notice →
      Change cfg s (.step l actor n) (({ s with world := w } : Service).put n notice)
  | viewed {n : NoticeId} {pk : MeetingId} {client : ClientId} {creation : Bool} {m : Meeting} :
      s.world.store.meeting? pk = some m → m.integrationClient = client →
      (m.status = .ready ∨ m.status = .live) →
      Change cfg s (.view n pk client creation) (s.put n (some (.token creation pk client)))
  | written {n : NoticeId} {context : RequestContext} {outcome : TokenOutcome} {notice : Notice} :
      s.notices n = some notice → Change cfg s (.write n context outcome) (s.put n none)
  | lost {n : NoticeId} : Change cfg s (.lose n) (s.put n none)

section Changes
variable {cfg : Settings} {s s' : Service} {work : Work}

theorem Service.step_change (h : s.step cfg work = some s') : s.Change cfg work s' := by
  cases work with
  | step l actor n =>
    simp only [Service.step] at h
    cases hw : World.step cfg s.world l with
    | none =>
      rw [hw] at h
      cases h
    | some w =>
      cases hn : s.world.notice l with
      | none =>
        rw [hw, hn] at h
        cases h
        exact .stepped hw
      | some notice =>
        rw [hw, hn] at h
        dsimp only at h
        split at h
        · cases h
        · cases h
          exact .registered hw hn
  | view n pk client creation =>
    simp only [Service.step] at h
    split at h
    · rename_i hopen
      cases h
      obtain ⟨_, hview⟩ := Bool.and_eq_true_iff.mp hopen
      unfold Service.viewable at hview
      cases hm : s.world.store.meeting? pk with
      | none =>
        rw [hm] at hview
        cases hview
      | some m =>
        rw [hm] at hview
        simp only [Bool.and_eq_true, Bool.or_eq_true, decide_eq_true_eq] at hview
        exact .viewed hm hview.1.1 hview.1.2
    · cases h
  | write n context outcome =>
    obtain ⟨notice, hn, rfl⟩ := Option.map_eq_some_iff.mp h
    exact .written hn
  | lose n =>
    obtain ⟨notice, _, rfl⟩ := Option.map_eq_some_iff.mp h
    exact .lost

/-- The gateway itself steps or stays. -/
theorem Service.Change.world (h : s.Change cfg work s') :
    (∃ l, World.step cfg s.world l = some s'.world) ∨ s'.world = s.world := by
  cases h with
  | stepped hw => exact Or.inl ⟨_, hw⟩
  | registered hw _ => exact Or.inl ⟨_, hw⟩
  | viewed _ _ _ => exact Or.inr rfl
  | written _ => exact Or.inr rfl
  | lost => exact Or.inr rfl

/-- The gateway takes its own steps only. -/
theorem reached_of_service {store : Store}
    (h : Reachable (Service.step cfg) (Service.initial store) s) : Reached cfg store s.world := by
  induction h with
  | start => exact .start
  | step _ hs ih =>
    rcases (Service.step_change hs).world with ⟨l, hw⟩ | same
    · exact ih.step hw
    · rw [same]
      exact ih

theorem reached_of_audited {store : Store} {trail : List AuditLog}
    (h : Audited cfg store s trail) : Reached cfg store s.world :=
  reached_of_service (reachable_state h)

end Changes

section Rows
variable {cfg : Settings} {sc : Scene} {w : World} {actor : Actor}

/-- The rows an operation can write, by who is recorded in them. -/
inductive Wrote (sc : Scene) (actor : Actor) : Operation → AuditLog → Prop
  | client {op : Operation} {action : AuditAction} : action ≠ .providerError →
      action ≠ .lateProviderResponseRequiresReview → action.admins = false →
      Wrote sc actor op (sc.row.clientRow actor.context action none)
  | failed {r : RequestId} {now : Int} {e : ProviderError} :
      Wrote sc actor (.finish r now) (sc.row.clientRow actor.context .providerError (some e))
  | late {r : RequestId} {now : Int} {values : CreateValues} {flight : Flight}
      {data : ProviderMeetingResult} {token : ProviderAuthResult} :
      sc.session.requests r = some ⟨values, .calling flight⟩ →
      flight.stage = .succeeded data token → sc.row.status.awaitsOutcome = false →
      Wrote sc actor (.finish r now)
        (sc.row.clientRow actor.context .lateProviderResponseRequiresReview none)
  | sweep {now : Int} :
      Wrote sc actor (.sweep now) (audit .empty .providerStateUnknown sc.row.id none none none)
  | admin {op : Operation} {action : AuditAction} :
      action.admins = true →
      Wrote sc actor op (audit actor.context action sc.row.id none (some actor.admin) none)

theorem mem_if {α : Type} {p : Prop} [Decidable p] {a b : α} (h : a ∈ if p then [b] else []) :
    p ∧ a = b := by
  by_cases hp : p
  · rw [if_pos hp] at h
    exact ⟨hp, List.mem_singleton.mp h⟩
  · rw [if_neg hp] at h
    cases h

theorem finish_wrote {r : RequestId} {now : Int} {row : AuditLog}
    (h : row ∈ sc.inserts actor (.finish r now)) : Wrote sc actor (.finish r now) row := by
  simp only [Scene.inserts] at h
  split at h
  · rename_i values flight hrequest
    split at h
    · simp only [Scene.failureRows, List.mem_append, List.mem_singleton] at h
      rcases h with (hretry | hunknown) | rfl
      · obtain ⟨_, rfl⟩ := mem_if hretry
        exact .client (by decide) (by decide) rfl
      · obtain ⟨_, rfl⟩ := mem_if hunknown
        exact .client (by decide) (by decide) rfl
      · exact .failed
    · rename_i data token hstage
      simp only [Scene.successRows] at h
      split at h
      · rename_i hlate
        rw [List.mem_singleton.mp h]
        exact .late hrequest hstage (by simpa using hlate)
      · rcases List.mem_cons.mp h with rfl | hretry
        · exact .client (by decide) (by decide) rfl
        · obtain ⟨_, rfl⟩ := mem_if hretry
          exact .client (by decide) (by decide) rfl
    · cases h
  · cases h

theorem inserts_wrote {op : Operation} {row : AuditLog} (h : row ∈ sc.inserts actor op) :
    Wrote sc actor op row := by
  cases op with
  | begin r =>
    simp only [Scene.inserts] at h
    split at h
    · obtain ⟨_, rfl⟩ := mem_if h
      exact .client (by decide) (by decide) rfl
    · cases h
  | commit r now =>
    simp only [Scene.inserts] at h
    split at h
    · rename_i reserved retrying _
      rcases List.mem_append.mp h with hslot | hstart
      · obtain ⟨_, rfl⟩ := mem_if hslot
        exact .client (by decide) (by decide) rfl
      · rw [List.mem_singleton.mp hstart]
        cases retrying
        · exact .client (by decide) (by decide) rfl
        · exact .client (by decide) (by decide) rfl
    · cases h
  | finish r now => exact finish_wrote h
  | sweep now =>
    rw [List.mem_singleton.mp h]
    exact .sweep
  | cancel now =>
    simp only [Scene.inserts] at h
    split at h
    · cases h
    · rw [List.mem_singleton.mp h]
      exact .client (by decide) (by decide) rfl
  | recover values now =>
    obtain ⟨_, rfl⟩ := mem_if h
    exact .admin rfl
  | confirmEnded now =>
    rw [List.mem_singleton.mp h]
    exact .admin rfl
  | _ => cases h

theorem Wrote.object {op : Operation} {row : AuditLog} (h : Wrote sc actor op row) :
    row.objectId = sc.row.id := by
  cases h <;> rfl

theorem records_on {op : Operation} {row : Meeting} {effect : Effect}
    (stored : w.store.meeting? row.id = some row)
    (h : (w.scene row).operate cfg op = some effect) :
    w.records cfg actor (.on row.id op) =
      w.kept op ((w.scene row).inserts actor op) effect := by
  simp only [World.records, stored, h]

theorem kept_subset {op : Operation} {rows : List AuditLog} {effect : Effect} {row : AuditLog}
    (h : row ∈ w.kept op rows effect) : row ∈ rows := by
  unfold World.kept at h
  split at h
  · split at h
    · exact h
    · cases h
  · split at h
    · exact h
    · cases h

/-- The rows of a step on one meeting are about that meeting. -/
theorem records_object {pk : MeetingId} {op : Operation} :
    ∀ row ∈ w.records cfg actor (.on pk op), row.objectId = pk := by
  intro row hrow
  simp only [World.records] at hrow
  split at hrow
  · cases hrow
  · rename_i m hm
    split at hrow
    · cases hrow
    · rw [(inserts_wrote (kept_subset hrow)).object]
      exact Store.meeting?_id hm

theorem notice_registered {w : World} {l : Label} {notice : Notice} (h : w.notice l = some notice) :
    ∃ action pk client, notice = .registered action pk client ∧
      (action = .meetingDraftCreated ∨ action = .existingMeetingMismatch) := by
  cases l with
  | register r pk client values now =>
    simp only [World.notice] at h
    split at h
    · cases h
      exact ⟨_, _, _, rfl, Or.inl rfl⟩
    · cases h
    · split at h
      · cases h
        exact ⟨_, _, _, rfl, Or.inr rfl⟩
      · cases h
  | _ => cases h

theorem notice_object (context : RequestContext) (outcome : TokenOutcome) (notice : Notice) :
    ∀ row ∈ notice.rows context outcome,
      row.objectId = match notice with
        | .registered _ pk _ => pk
        | .token _ pk _ => pk := by
  intro row hrow
  cases notice with
  | registered action pk client =>
    rw [List.mem_singleton.mp hrow]
    rfl
  | token creation pk client =>
    simp only [Notice.rows] at hrow
    split at hrow
    · rw [List.mem_singleton.mp hrow]
      rfl
    · split at hrow
      · cases hrow
      · rw [List.mem_singleton.mp hrow]
        rfl
    · cases hrow

theorem filter_eq_self_of_object {rows : List AuditLog} {pk : MeetingId}
    (h : ∀ row ∈ rows, row.objectId = pk) :
    rows.filter (fun row => decide (row.objectId = pk)) = rows :=
  List.filter_eq_self.mpr fun row hrow => by simpa using h row hrow

theorem filter_eq_nil_of_object {rows : List AuditLog} {pk pk' : MeetingId} (hne : pk' ≠ pk)
    (h : ∀ row ∈ rows, row.objectId = pk') :
    rows.filter (fun row => decide (row.objectId = pk)) = [] :=
  List.filter_eq_nil_iff.mpr fun row hrow => by simpa [h row hrow] using hne

end Rows
end MeetingGateway
