import MeetingGateway.Invariants
import MeetingGateway.Availability

/-!
# Creation at the provider

Over every run: at most one remote meeting for each class and one request at a time that
calls for it, every created meeting keeps its reservation until an operator confirms
its end, and every call repeats the first PROVISIONING commit.
-/

namespace MeetingGateway

open LabelledRuns

/-- The client and class a row was registered for. -/
def World.key (w : World) (pk : MeetingId) : Option (ClientId × String) :=
  (w.store.meeting? pk).map fun m => (m.integrationClient, m.externalClassId)

/-- The request is between its PROVISIONING commit and its final transaction. -/
def World.calling (w : World) (pk : MeetingId) (r : RequestId) : Prop :=
  ∃ values flight, (w.sessions pk).requests r = some ⟨values, .calling flight⟩

/-- No two remote meetings exist for one client and class. -/
def World.SingleMeeting (w : World) : Prop :=
  ∀ pk pk' i i' c c', (w.sessions pk).calls i = some c → (w.sessions pk').calls i' = some c' →
    c.created = true → c'.created = true → c.client = c'.client → c.classId = c'.classId →
    pk = pk' ∧ i = i'

/-- No two requests call the provider for one client and class. -/
def World.SingleCaller (w : World) : Prop :=
  ∀ pk pk' r r', w.calling pk r → w.calling pk' r' → w.key pk = w.key pk' → pk = pk' ∧ r = r'

section Sound
variable {cfg : Settings} {accounts : RoomId → Option String} {w : World}

theorem World.Sound.stored_of_call (h : w.Sound cfg accounts) {pk : MeetingId} {i : CallId}
    {c : Call} (hc : (w.sessions pk).calls i = some c) :
    ∃ m, w.store.meeting? pk = some m ∧ MeetingGateway.Sound cfg accounts m (w.sessions pk) := by
  cases hm : w.store.meeting? pk with
  | none =>
    rw [h.idle pk hm] at hc
    cases hc
  | some m =>
    have hid := Store.meeting?_id hm
    subst hid
    exact ⟨m, rfl, h.rows m hm⟩

theorem World.Sound.stored_of_calling (h : w.Sound cfg accounts) {pk : MeetingId} {r : RequestId}
    (hr : w.calling pk r) :
    ∃ m, w.store.meeting? pk = some m ∧ MeetingGateway.Sound cfg accounts m (w.sessions pk) := by
  obtain ⟨values, flight, hrequest⟩ := hr
  cases hm : w.store.meeting? pk with
  | none =>
    rw [h.idle pk hm] at hrequest
    cases hrequest
  | some m =>
    have hid := Store.meeting?_id hm
    subst hid
    exact ⟨m, rfl, h.rows m hm⟩

theorem World.Sound.same_row (h : w.Sound cfg accounts) {pk pk' : MeetingId} {m m' : Meeting}
    (hm : w.store.meeting? pk = some m) (hm' : w.store.meeting? pk' = some m')
    (client : m.integrationClient = m'.integrationClient)
    (classId : m.externalClassId = m'.externalClassId) : pk = pk' := by
  have hid := Store.meeting?_id hm
  have hid' := Store.meeting?_id hm'
  subst hid
  subst hid'
  exact h.unique m m' hm hm' client classId

end Sound

/-- At most one remote meeting is ever created for a client's class, and at most one
request at a time has committed PROVISIONING for it and not yet recorded the outcome. -/
theorem one_remote_meeting_per_class {cfg : Settings} {store : Store} {w : World}
    (reached : Reached cfg store w) : w.SingleMeeting ∧ w.SingleCaller := by
  have h := reached_sound reached
  refine ⟨?_, ?_⟩
  · intro pk pk' i i' c c' hc hc' hcreated hcreated' hclient hclass
    obtain ⟨m, hm, hsound⟩ := h.stored_of_call hc
    obtain ⟨m', hm', hsound'⟩ := h.stored_of_call hc'
    obtain ⟨hkc, hkl⟩ := hsound.calls.key i c hc
    obtain ⟨hkc', hkl'⟩ := hsound'.calls.key i' c' hc'
    have heq : pk = pk' := by
      apply h.same_row hm hm'
      · rw [← hkc, ← hkc', hclient]
      · rw [← hkl, ← hkl', hclass]
    subst heq
    refine ⟨rfl, hsound.calls.single i i' c c' hc hc' ?_ ?_⟩
    · exact hsound.calls.created i c hc hcreated
    · exact hsound.calls.created i' c' hc' hcreated'
  · intro pk pk' r r' hr hr' hkey
    obtain ⟨m, hm, hsound⟩ := h.stored_of_calling hr
    obtain ⟨m', hm', _⟩ := h.stored_of_calling hr'
    simp only [World.key, hm, hm', Option.map_some, Option.some.injEq, Prod.mk.injEq] at hkey
    have heq : pk = pk' := h.same_row hm hm' hkey.1 hkey.2
    subst heq
    obtain ⟨values, flight, hrequest⟩ := hr
    obtain ⟨values', flight', hrequest'⟩ := hr'
    exact ⟨rfl, hsound.single _ _ _ _ _ _ hrequest hrequest'⟩

/-- Whatever the adapter made of an exchange, a row for which a remote meeting exists
holds its reservation, unless an operator confirmed the end of that very meeting. -/
theorem remote_meeting_keeps_reservation {cfg : Settings} {store : Store} {w : World}
    (reached : Reached cfg store w) {m : Meeting} (stored : w.store.meeting? m.id = some m)
    {i : CallId} {c : Call} (issued : (w.sessions m.id).calls i = some c)
    (created : c.created = true) :
    m.reservationActive = true ∨ (w.sessions m.id).history.confirmed = true := by
  have hsound := (reached_sound reached).rows m stored
  have hopen := hsound.calls.created i c issued created
  have hcalled : m.status.uncalled = false := by
    cases hu : m.status.uncalled with
    | false => rfl
    | true =>
      have hrejected := hsound.calls.uncalled hu i c issued
      rw [hopen] at hrejected
      cases hrejected
  have hwritten := hsound.row.written
  rw [hsound.row.active]
  cases hs : m.status with
  | ended => exact Or.inr (hsound.row.ended hs)
  | provisioning => exact Or.inl rfl
  | ready => exact Or.inl rfl
  | providerResponseInvalid => exact Or.inl rfl
  | providerStateUnknown => exact Or.inl rfl
  | reserved => exact Or.inl rfl
  | live => exact Or.inl rfl
  | retryableFailed => exact Or.inl rfl
  | draft =>
    rw [hs] at hcalled
    cases hcalled
  | cancelled =>
    rw [hs] at hcalled
    cases hcalled
  | nonRetryableFailed =>
    rw [hs] at hcalled
    cases hcalled
  | failed =>
    rw [hs] at hwritten
    cases hwritten

/-- All calls for a meeting go to one account with one payload: those of the commit that
made the row PROVISIONING, whether they were issued before or after. The log of calls
only grows, so no call escapes this. -/
theorem calls_repeat_provisioning {cfg : Settings} {store : Store} {w₁ w₂ : World}
    (reached : Reached cfg store w₁) (later : Reachable (World.step cfg) w₁ w₂) :
    (∀ pk i j c d, (w₂.sessions pk).calls i = some c → (w₂.sessions pk).calls j = some d →
      c.room = d.room ∧ c.account = d.account ∧ c.payload = d.payload) ∧
    ∀ m, w₁.store.meeting? m.id = some m →
      (∀ i c, (w₁.sessions m.id).calls i = some c → ∃ rejected created,
        (w₂.sessions m.id).calls i = some { c with rejected := rejected, created := created }) ∧
      (m.status = .provisioning → ∃ room account payload snapshot, m.room = some room ∧
        accountsOf store room = some account ∧
        m.encryptedProviderPayload = some snapshot ∧ decrypt cfg.keyring snapshot = .ok payload ∧
        ∀ i c, (w₂.sessions m.id).calls i = some c →
          c.room = room ∧ c.account = account ∧ c.payload = payload) := by
  have h₂ := reached_sound (reached.trans later)
  refine ⟨?_, ?_⟩
  · intro pk i j c d hc hd
    obtain ⟨m, _, hsound⟩ := h₂.stored_of_call hc
    have hfirst := hsound.calls.provisioned i c hc
    have hsecond := hsound.calls.provisioned j d hd
    rw [hfirst] at hsecond
    have heq := Option.some.inj hsecond
    exact ⟨congrArg Provisioned.room heq, congrArg Provisioned.account heq,
      congrArg Provisioned.payload heq⟩
  · intro m stored
    obtain ⟨_, _, _, hgrows⟩ := reached_extends reached later m stored
    refine ⟨?_, ?_⟩
    · intro i c hc
      obtain ⟨rejected, created, hcall, _⟩ := hgrows.calls i c hc
      exact ⟨rejected, created, hcall⟩
    · intro provisioning
      have hrow := ((reached_sound reached).rows m stored).row
      have hbegun := hrow.begun (by rw [provisioning]; decide) (by rw [provisioning]; decide)
      obtain ⟨p, hp⟩ := Option.isSome_iff_exists.mp hbegun
      have hbooked := hrow.booked p hp
      refine ⟨p.room, p.account, p.payload, _, hbooked.room, hbooked.account, hbooked.snapshot,
        decrypt_encryptDumps _ _, ?_⟩
      intro i c hc
      obtain ⟨_, _, hsound⟩ := h₂.stored_of_call hc
      have hfirst := hsound.calls.provisioned i c hc
      rw [hgrows.provisioned p hp] at hfirst
      cases hfirst
      exact ⟨rfl, rfl, rfl⟩

def exampleToken : ProviderAuthResult := ⟨"token", none⟩

/-- A response with everything a ready meeting needs. -/
def exampleCreated : HttpResult :=
  .answered ⟨200, by decide, .ok (.obj [("success", .bool true),
    ("data", .obj [("calendarId", .str "cal-1"),
      ("meetingPanelAddress", .str "https://meet.convay.com/panel"),
      ("startMeetingUrl", .str "https://meet.convay.com/start")])])⟩

/-- The request gets the room and has committed PROVISIONING. -/
def exampleCommitted : List Label :=
  [.register 0 1 7 (exampleValues "CLS-001" 10) 0, .on 1 (.begin 0), .on 1 (.attempt 0 0),
    .on 1 (.commit 0 0)]

/-- Its call does not reach the provider; the scheduler's retry does. -/
def exampleRetried : List Label :=
  [.on 1 (.token 0 (.issued exampleToken)), .on 1 (.send 0 0),
    .on 1 (.receive 0 (.failed .connectError false)), .on 1 (.finish 0 1),
    .register 1 2 7 (exampleValues "CLS-001" 10) 2, .on 1 (.begin 1), .on 1 (.commit 1 3),
    .on 1 (.token 1 (.issued exampleToken)), .on 1 (.send 1 1), .on 1 (.remoteCreates 1),
    .on 1 (.receive 1 exampleCreated), .on 1 (.finish 1 4)]

/-- The world after a run of the small installation. -/
def exampleWorld (labels : List Label)
    (runs : (run (World.step exampleSettings) (World.initial exampleStore) labels).isSome = true) :
    World :=
  (run (World.step exampleSettings) (World.initial exampleStore) labels).get runs

theorem exampleWorld_run {labels : List Label}
    (runs : (run (World.step exampleSettings) (World.initial exampleStore) labels).isSome = true) :
    run (World.step exampleSettings) (World.initial exampleStore) labels =
      some (exampleWorld labels runs) := (Option.some_get runs).symm

theorem exampleWorld_reached {labels : List Label}
    (runs : (run (World.step exampleSettings) (World.initial exampleStore) labels).isSome = true) :
    Reached exampleSettings exampleStore (exampleWorld labels runs) :=
  reachable_of_run (exampleWorld_run runs)

def exampleReady : World := exampleWorld (exampleCommitted ++ exampleRetried) (by decide)

theorem exampleReady_reached : Reached exampleSettings exampleStore exampleReady :=
  exampleWorld_reached _

/-- The first call is rejected, the second one created the only meeting. -/
theorem one_remote_meeting_after_retry :
    ((exampleReady.sessions 1).calls 0).map Call.rejected = some true ∧
      ((exampleReady.sessions 1).calls 1).map Call.created = some true ∧
      exampleReady.SingleMeeting ∧ exampleReady.SingleCaller := by
  refine ⟨by decide, by decide, ?_⟩
  exact one_remote_meeting_per_class exampleReady_reached

theorem exampleReady_row : ∃ m, m.id = 1 ∧ exampleReady.store.meeting? m.id = some m := by
  have hsome : (exampleReady.store.meeting? 1).isSome = true := by decide
  obtain ⟨m, hm⟩ := Option.isSome_iff_exists.mp hsome
  have hid := Store.meeting?_id hm
  exact ⟨m, hid, by rw [hid]; exact hm⟩

/-- The created meeting of the retry keeps the room's slot. -/
theorem remote_meeting_keeps_reservation_after_retry :
    ∃ m, exampleReady.store.meeting? 1 = some m ∧ (m.reservationActive = true ∨
      (exampleReady.sessions 1).history.confirmed = true) := by
  obtain ⟨m, hid, stored⟩ := exampleReady_row
  have hcall : ((exampleReady.sessions 1).calls 1).map Call.created = some true := by decide
  obtain ⟨c, issued, created⟩ := Option.map_eq_some_iff.mp hcall
  rw [← hid] at issued
  have hkept := remote_meeting_keeps_reservation exampleReady_reached stored issued created
  rw [hid] at stored hkept
  exact ⟨m, stored, hkept⟩

/-- Both calls of the retry carry what the first commit stored. -/
theorem calls_repeat_provisioning_after_retry :
    ∃ w₁ w₂, run (World.step exampleSettings) (World.initial exampleStore) exampleCommitted =
        some w₁ ∧
      run (World.step exampleSettings) w₁ exampleRetried = some w₂ ∧
      ∀ i j c d, (w₂.sessions 1).calls i = some c → (w₂.sessions 1).calls j = some d →
        c.room = d.room ∧ c.account = d.account ∧ c.payload = d.payload := by
  let w₁ := exampleWorld exampleCommitted (by decide)
  have hrun : (run (World.step exampleSettings) w₁ exampleRetried).isSome = true := by decide
  obtain ⟨w₂, hw₂⟩ := Option.isSome_iff_exists.mp hrun
  refine ⟨w₁, w₂, exampleWorld_run _, hw₂, ?_⟩
  exact (calls_repeat_provisioning (exampleWorld_reached _) (reachable_of_run hw₂)).1 1

end MeetingGateway
