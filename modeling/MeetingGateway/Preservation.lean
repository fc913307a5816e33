import MeetingGateway.Lifecycle

/-!
# Every move keeps the life of a meeting sound

One lemma for each kind of move. A request's step touches its own entry and, for a call,
the calls; a save touches the row. The provider's rooms enter through `accounts`, which
gives the account of every stored room.
-/

namespace MeetingGateway

section Steps
variable {cfg : Settings} {accounts : RoomId → Option String} {m : Meeting} {s : Session}
variable {r : RequestId} {values : CreateValues} {flight : Flight}

theorem Status.inFlight_not_uncalled {status : Status} (h : status.inFlight = true) :
    status.uncalled = false := by
  cases status <;> first | rfl | exact absurd h (by decide)

theorem Status.cancellable_not_inFlight {status : Status} (h : status.cancellable = true) :
    status.inFlight = false := by
  cases status <;> first | rfl | exact absurd h (by decide)

theorem Status.cancellable_uncalled {status : Status} (h : status.cancellable = true)
    (written : status.written = true) : status.uncalled = true := by
  cases status <;> first | rfl | exact absurd h (by decide) | exact absurd written (by decide)

theorem Status.awaitsOutcome_retains {status : Status} (h : status.awaitsOutcome = true) :
    status.retains = true := by
  cases status <;> first | rfl | exact absurd h (by decide)

theorem Status.confirmable_begun {status : Status} (h : status.confirmable = true) :
    status ≠ .draft ∧ status ≠ .cancelled := by
  constructor
  · rintro rfl
    cases h
  · rintro rfl
    cases h

/-- A request that holds no lock is not the one the lock belongs to. -/
theorem Sound.not_holder (h : Sound cfg accounts m s) {q : Request}
    (hq : s.requests r = some q) (unlocked : q.phase.locks = false) : s.lock ≠ some r := by
  intro hl
  obtain ⟨q', hq', hlocks⟩ := h.locked r hl
  rw [hq] at hq'
  cases hq'
  rw [unlocked] at hlocks
  cases hlocks

theorem Sound.flying (h : Sound cfg accounts m s)
    (hrequest : s.requests r = some ⟨values, .calling flight⟩) :
    FlightSound m s.calls s.history flight := (h.requests r _ hrequest).phase

/-- While a row is in no in-flight status, nothing calls the provider for it. -/
theorem Sound.grounded (h : Sound cfg accounts m s) (status : m.status.inFlight = false)
    {v : CreateValues} {f : Flight} : s.requests r ≠ some ⟨v, .calling f⟩ := by
  intro hrequest
  have hstatus := (h.flying hrequest).status
  rw [status] at hstatus
  cases hstatus

/-- Once a request that called the provider is gone, nothing calls the provider. -/
theorem Sound.landed (h : Sound cfg accounts m s)
    (hrequest : s.requests r = some ⟨values, .calling flight⟩) {r' : RequestId}
    {v : CreateValues} {f : Flight} : (s.drop r).requests r' ≠ some ⟨v, .calling f⟩ := by
  intro hq
  obtain ⟨hne, hold⟩ := requests_drop_some hq
  exact hne (h.single _ _ _ _ _ _ hold hrequest)

/-- While one request holds the lock and none calls the provider, the others wait. -/
theorem Sound.others_registered (h : Sound cfg accounts m s) (locked : s.lock = some r)
    (grounded : m.status.inFlight = false) {r' : RequestId} {q : Request} (hne : r' ≠ r)
    (hq : s.requests r' = some q) : q.phase = .registered := by
  have unlocked : q.phase.locks = false := by
    by_contra hc
    have hl := (h.requests r' q hq).locks (by simpa using hc)
    rw [locked] at hl
    exact hne (Option.some.inj hl).symm
  obtain ⟨v, phase⟩ := q
  rcases phase_of_unlocked unlocked with hp | ⟨f, hp⟩
  · exact hp
  · simp only at hp
    subst hp
    exact absurd hq (h.grounded grounded)

/-- A row with a pending reservation is a draft or waits for its retry. -/
theorem Pending.status {reserved : Meeting} {retrying : Bool}
    (h : Pending cfg m values reserved retrying) :
    m.status = .draft ∨ m.status = .retryableFailed := by
  rcases h with ⟨hdraft, _⟩ | ⟨hretry, _⟩
  · exact Or.inl hdraft
  · exact Or.inr hretry

theorem Pending.grounded {reserved : Meeting} {retrying : Bool}
    (h : Pending cfg m values reserved retrying) : m.status.inFlight = false := by
  rcases h.status with hs | hs
  · rw [hs]
    rfl
  · rw [hs]
    rfl

theorem Pending.uncalled {reserved : Meeting} {retrying : Bool}
    (h : Pending cfg m values reserved retrying) : m.status.uncalled = true := by
  rcases h.status with hs | hs
  · rw [hs]
    rfl
  · rw [hs]
    rfl

/-- The reservation of a draft is active, and a retry's still is. -/
theorem Pending.active {reserved : Meeting} {retrying : Bool} {history : History}
    (h : Pending cfg m values reserved retrying) (row : RowSound cfg accounts m history) :
    reserved.reservationActive = true := by
  rcases h with ⟨_, _, room, slot, now, _, _, rfl⟩ | ⟨hstatus, _, rfl⟩
  · rfl
  · rw [row.active, hstatus]
    rfl

/-- The lock is taken by a request that has none. -/
theorem Sound.take (h : Sound cfg accounts m s) (free : s.lock = none) {phase : Phase}
    (hrequest : s.requests r = some ⟨values, .registered⟩) (locks : phase.locks = true)
    (phaseSound : PhaseSound cfg m s.calls s.history values phase) :
    Sound cfg accounts m (s.take r ⟨values, phase⟩) := by
  refine h.put (some r) ⟨(h.requests r _ hrequest).same, fun _ => rfl, phaseSound⟩
    (fun _ => locks) ?_ ?_
  · intro r' hne
    rw [free]
    constructor
    · intro hl
      cases hl
      exact absurd rfl hne
    · intro hl
      cases hl
  · intro f hf
    simp only at hf
    rw [hf] at locks
    cases locks

/-- The holder of the lock goes on to another phase under the lock. -/
theorem Sound.hold (h : Sound cfg accounts m s) {phase phase' : Phase}
    (hrequest : s.requests r = some ⟨values, phase⟩) (locks : phase.locks = true)
    (locks' : phase'.locks = true)
    (phaseSound : PhaseSound cfg m s.calls s.history values phase') :
    Sound cfg accounts m (s.put r ⟨values, phase'⟩) := by
  have hs := h.requests r _ hrequest
  refine h.put s.lock ⟨hs.same, fun _ => hs.locks locks, phaseSound⟩
    (fun _ => locks') (fun _ _ => Iff.rfl) ?_
  intro f hf
  simp only at hf
  rw [hf] at locks'
  cases locks'

/-- Other calls matter to a request only while it is calling. -/
theorem PhaseSound.withCalls {calls calls' : CallId → Option Call} {history : History}
    {phase : Phase} (h : PhaseSound cfg m calls history values phase)
    (flying : ∀ f, phase = .calling f → FlightSound m calls history f →
      FlightSound m calls' history f) : PhaseSound cfg m calls' history values phase := by
  cases phase with
  | registered => trivial
  | allocating retrying untried => exact h
  | reserving reserved retrying => exact h
  | calling f => exact flying f rfl h

/-- The calls of a flight change and it goes on to a stage that fits them. -/
theorem Sound.call (h : Sound cfg accounts m s)
    (hrequest : s.requests r = some ⟨values, .calling flight⟩)
    {calls : CallId → Option Call} {stage : Stage} (callsSound : CallsSound m s.history calls)
    (stageSound : StageSound calls stage) :
    Sound cfg accounts m
      ({ s with calls := calls }.put r ⟨values, .calling { flight with stage := stage }⟩) where
  origin := h.origin
  requests := by
    intro r' q hq
    rw [requests_put] at hq
    by_cases he : r' = r
    · subst he
      rw [if_pos rfl] at hq
      cases hq
      have hf := h.flying hrequest
      refine ⟨(h.requests r' _ hrequest).same, ?_, ⟨hf.status, hf.provisioned, stageSound⟩⟩
      intro hl
      cases hl
    · rw [if_neg he] at hq
      have hs := h.requests r' q hq
      refine ⟨hs.same, hs.locks, hs.phase.withCalls ?_⟩
      obtain ⟨v, phase⟩ := q
      rintro f rfl _
      exact absurd (h.single _ _ _ _ _ _ hq hrequest) he
  locked := by
    intro r' hl
    have hne : r' ≠ r := by
      rintro rfl
      exact h.not_holder hrequest rfl hl
    obtain ⟨q, hq, hlocks⟩ := h.locked r' hl
    refine ⟨q, ?_, hlocks⟩
    rw [requests_put, if_neg hne]
    exact hq
  single := by
    refine single_put ?_
    intro r' v f hne hq
    exact hne (h.single _ _ _ _ _ _ hq hrequest)
  calls := callsSound
  row := h.row

theorem Sound.advance (h : Sound cfg accounts m s)
    (hrequest : s.requests r = some ⟨values, .calling flight⟩) {stage : Stage}
    (stageSound : StageSound s.calls stage) :
    Sound cfg accounts m (s.put r ⟨values, .calling { flight with stage := stage }⟩) :=
  h.call hrequest h.calls stageSound

theorem drop_put (s : Session) (r : RequestId) (q : Request) : (s.put r q).drop r = s.drop r := by
  simp only [Session.drop, Session.put, Function.update_idem]
  rfl

end Steps

section CallSteps
variable {m : Meeting} {history : History} {calls : CallId → Option Call} {id : CallId}
variable {call : Call}

theorem CallsSound.send (h : CallsSound m history calls) (flying : m.status.inFlight = true)
    (none_open : NoOpenCall calls)
    (key : call.client = m.integrationClient ∧ call.classId = m.externalClassId)
    (provisioned : history.provisioned = some ⟨call.room, call.account, call.payload⟩)
    (pending : call.rejected = false) :
    CallsSound m history (Function.update calls id (some call)) where
  single := by
    have only : ∀ i c, Function.update calls id (some call) i = some c → c.rejected = false →
        i = id := by
      intro i c hc hopen
      rcases update_call hc with ⟨he, _⟩ | ⟨_, hold⟩
      · exact he
      · have hrejected := none_open i c hold
        rw [hopen] at hrejected
        cases hrejected
    intro i j c d hi hj hci hdj
    rw [only i c hi hci, only j d hj hdj]
  created := by
    intro i c hc hcreated
    rcases update_call hc with ⟨_, rfl⟩ | ⟨_, hold⟩
    · exact pending
    · exact h.created i c hold hcreated
  key := by
    intro i c hc
    rcases update_call hc with ⟨_, rfl⟩ | ⟨_, hold⟩
    · exact key
    · exact h.key i c hold
  provisioned := by
    intro i c hc
    rcases update_call hc with ⟨_, rfl⟩ | ⟨_, hold⟩
    · exact provisioned
    · exact h.provisioned i c hold
  uncalled := by
    intro hu
    rw [Status.inFlight_not_uncalled flying] at hu
    cases hu

/-- A call's entry changes in its flags only, and is not opened again. -/
theorem CallsSound.update (h : CallsSound m history calls) (stored : calls id = some call)
    (rejected created : Bool) (closes : rejected = false → call.rejected = false)
    (possible : created = true → rejected = false) :
    CallsSound m history (Function.update calls id
      (some { call with rejected := rejected, created := created })) where
  single := by
    have before : ∀ i c, Function.update calls id
        (some { call with rejected := rejected, created := created }) i = some c →
        c.rejected = false → ∃ d, calls i = some d ∧ d.rejected = false := by
      intro i c hc hopen
      rcases update_call hc with ⟨rfl, rfl⟩ | ⟨_, hold⟩
      · exact ⟨call, stored, closes hopen⟩
      · exact ⟨c, hold, hopen⟩
    intro i j c d hi hj hci hdj
    obtain ⟨c', hc', hopen⟩ := before i c hi hci
    obtain ⟨d', hd', hopen'⟩ := before j d hj hdj
    exact h.single i j c' d' hc' hd' hopen hopen'
  created := by
    intro i c hc hcreated
    rcases update_call hc with ⟨_, rfl⟩ | ⟨_, hold⟩
    · exact possible hcreated
    · exact h.created i c hold hcreated
  key := by
    intro i c hc
    rcases update_call hc with ⟨_, rfl⟩ | ⟨_, hold⟩
    · exact h.key id call stored
    · exact h.key i c hold
  provisioned := by
    intro i c hc
    rcases update_call hc with ⟨_, rfl⟩ | ⟨_, hold⟩
    · exact h.provisioned id call stored
    · exact h.provisioned i c hold
  uncalled := by
    intro hu i c hc
    have none_open := h.uncalled hu
    rcases update_call hc with ⟨_, rfl⟩ | ⟨_, hold⟩
    · by_contra hopen
      have hbefore := closes (by simpa using hopen)
      have hrejected := none_open id call stored
      rw [hbefore] at hrejected
      cases hrejected
    · exact none_open i c hold

end CallSteps

section Moves
variable {cfg : Settings} {accounts : RoomId → Option String} {sc : Scene}
variable {r : RequestId} {values : CreateValues} {flight : Flight}

theorem Sound.resume (h : Sound cfg accounts sc.row sc.session) (free : sc.session.lock = none)
    (hrequest : sc.session.requests r = some ⟨values, .registered⟩)
    (gate : provisionGate sc.row values = .ok .resume) :
    Sound cfg accounts sc.row (sc.session.take r ⟨values, .reserving sc.row true⟩) := by
  obtain ⟨hstatus, _⟩ := provisionGate_resume gate
  exact h.take free hrequest rfl (Or.inr ⟨hstatus, rfl, rfl⟩)

/-- A retry keeps its reservation, so only a draft is ever allocated. -/
theorem Sound.allocate (h : Sound cfg accounts sc.row sc.session) (free : sc.session.lock = none)
    {retrying : Bool} {untried : List String}
    (hrequest : sc.session.requests r = some ⟨values, .registered⟩)
    (gate : provisionGate sc.row values = .ok (.allocate retrying)) :
    Sound cfg accounts sc.row (sc.session.take r ⟨values, .allocating retrying untried⟩) := by
  rcases provisionGate_allocate gate with ⟨hstatus, rfl⟩ | ⟨hstatus, _, hreleased⟩
  · exact h.take free hrequest rfl ⟨hstatus, rfl⟩
  · have hactive : sc.row.reservationActive = true := by
      rw [h.row.active, hstatus]
      rfl
    have hbegun := h.row.begun (by rw [hstatus]; decide) (by rw [hstatus]; decide)
    obtain ⟨p, hp⟩ := Option.isSome_iff_exists.mp hbegun
    rw [hactive, (h.row.booked p hp).room] at hreleased
    cases hreleased

theorem reserve_identity {m : Meeting} {room : RoomId} {slot : BoundedRange Int} {now : Int}
    (same : m.identity = values.identity m.integrationClient) :
    (m.reserve room values.startAt values.endAt slot now).identity = m.identity := by
  have hstart : m.startAt = some values.startAt.instant := congrArg Identity.startAt same
  have hend : m.endAt = some values.endAt.instant := congrArg Identity.endAt same
  simp only [Meeting.identity, Meeting.reserve, hstart, hend]

/-- The uncommitted row is the same meeting, asked for by the same request. -/
theorem Sound.reserved_same (h : Sound cfg accounts sc.row sc.session) {reserved : Meeting}
    {retrying : Bool}
    (hrequest : sc.session.requests r = some ⟨values, .reserving reserved retrying⟩) :
    reserved.id = sc.row.id ∧ reserved.identity = sc.row.identity := by
  have hs := h.requests r _ hrequest
  have hphase : Pending cfg sc.row values reserved retrying := hs.phase
  rcases hphase with ⟨_, _, room', slot, now', _, _, rfl⟩ | ⟨_, _, rfl⟩
  · exact ⟨rfl, reserve_identity hs.same⟩
  · exact ⟨rfl, rfl⟩

/-- What the PROVISIONING commit stores, for a first attempt and for a retry alike. -/
theorem Sound.booked_provision (h : Sound cfg accounts sc.row sc.session)
    (rooms : ∀ room : Room, sc.store.room? room.id = some room →
      accounts room.id = some room.username)
    {reserved : Meeting} {retrying : Bool} {config : JsonObject} {room : Room}
    (hrequest : sc.session.requests r = some ⟨values, .reserving reserved retrying⟩)
    (hconfig : creationConfig cfg sc.store reserved retrying = .ok config)
    (hroom : reserved.room = some room.id) (stored : sc.store.room? room.id = some room)
    (type : String) (now : Int) :
    sc.session.history.provisioned.or
        (some ⟨room.id, room.username, withTitle config reserved.meetingTitle⟩) =
      some ⟨room.id, room.username, withTitle config reserved.meetingTitle⟩ ∧
    Booked cfg accounts
      (reserved.toProvisioning cfg (withTitle config reserved.meetingTitle) type now)
      ⟨room.id, room.username, withTitle config reserved.meetingTitle⟩ := by
  have hs := h.requests r _ hrequest
  have hphase : Pending cfg sc.row values reserved retrying := hs.phase
  rcases hphase with ⟨hdraft, rfl, room', slot, now', hslot, hreservable, rfl⟩ | ⟨hretry, rfl, rfl⟩
  · rw [h.row.fresh hdraft]
    obtain ⟨lower, upper, rfl, hlower, ordered, hupper⟩ := reservable_ok hslot hreservable
    refine ⟨rfl, hroom, rooms room stored, ?_, rfl, withTitle_twice _ _⟩
    exact ⟨values.startAt.instant, values.endAt.instant, lower, upper, rfl, rfl, hlower, ordered,
      hupper, rfl⟩
  · have hbegun := h.row.begun (by rw [hretry]; decide) (by rw [hretry]; decide)
    obtain ⟨p, hp⟩ := Option.isSome_iff_exists.mp hbegun
    have hbooked := h.row.booked p hp
    have hsnapshot := creationConfig_snapshot sc.store hbooked.snapshot
    rw [hsnapshot] at hconfig
    cases hconfig
    have hsame : p.room = room.id := by
      rw [hbooked.room] at hroom
      exact Option.some.inj hroom
    have haccount : p.account = room.username := by
      have hstored := rooms room stored
      rw [← hsame, hbooked.account] at hstored
      exact Option.some.inj hstored
    have heq : p = ⟨room.id, room.username, withTitle p.payload sc.row.meetingTitle⟩ := by
      rw [hbooked.titled, ← hsame, ← haccount]
    refine ⟨?_, ?_⟩
    · rw [hp, Option.some_or]
      exact congrArg some heq
    · rw [← heq, hbooked.titled]
      exact ⟨hbooked.room, hbooked.account, hbooked.slot, rfl, hbooked.titled⟩

/-- The committed PROVISIONING row. -/
theorem RowSound.provisioning {reserved : Meeting} {history : History} {payload : JsonObject}
    {type : String} {now : Int} {p : Provisioned} (active : reserved.reservationActive = true)
    (recorded : history.provisioned = some p)
    (booked : Booked cfg accounts (reserved.toProvisioning cfg payload type now) p) :
    RowSound cfg accounts (reserved.toProvisioning cfg payload type now) history where
  written := rfl
  active := active
  fresh := by
    intro hd
    cases hd
  begun := by
    intro _ _
    exact Option.isSome_iff_exists.mpr ⟨p, recorded⟩
  booked := by
    intro p' hp
    rw [recorded] at hp
    cases hp
    exact booked
  ready := by
    intro hr
    cases hr
  ended := by
    intro he
    cases he

theorem Sound.provision (h : Sound cfg accounts sc.row sc.session)
    (rooms : ∀ room : Room, sc.store.room? room.id = some room →
      accounts room.id = some room.username)
    {reserved : Meeting} {retrying : Bool} {config : JsonObject} {room : Room} {type : String}
    {now : Int}
    (hrequest : sc.session.requests r = some ⟨values, .reserving reserved retrying⟩)
    (hconfig : creationConfig cfg sc.store reserved retrying = .ok config)
    (hroom : reserved.room = some room.id) (stored : sc.store.room? room.id = some room)
    (hflight : flight = ⟨room.id, room.username, withTitle config reserved.meetingTitle, retrying,
      .token false⟩) :
    Sound cfg accounts (reserved.toProvisioning cfg flight.payload type now)
      ((sc.session.release r ⟨values, .calling flight⟩).recordProvisioned
        ⟨flight.room, flight.account, flight.payload⟩) := by
  obtain ⟨hrecorded, hbooked⟩ := h.booked_provision rooms hrequest hconfig hroom stored
    type now
  have hs := h.requests r _ hrequest
  have hphase : Pending cfg sc.row values reserved retrying := hs.phase
  have hidentity := (h.reserved_same hrequest).2
  have none_open := h.calls.uncalled hphase.uncalled
  have others : ∀ r' q, r' ≠ r → sc.session.requests r' = some q → q.phase = .registered :=
    fun _ _ hne hq => h.others_registered (hs.locks rfl) hphase.grounded hne hq
  subst hflight
  refine ⟨?_, ?_, ?_, ?_, ?_, RowSound.provisioning (hphase.active h.row) hrecorded hbooked⟩
  · obtain ⟨client, v, horigin, hid⟩ := h.origin
    exact ⟨client, v, horigin, hidentity.trans hid⟩
  · intro r' q hq
    have hq' : (sc.session.put r ⟨values, .calling ⟨room.id, room.username,
        withTitle config reserved.meetingTitle, retrying, .token false⟩⟩).requests r' = some q := hq
    rw [requests_put] at hq'
    by_cases he : r' = r
    · subst he
      rw [if_pos rfl] at hq'
      cases hq'
      refine ⟨same_of_identity hidentity hs.same, ?_, rfl, hrecorded, none_open⟩
      intro hl
      cases hl
    · rw [if_neg he] at hq'
      have hother := h.requests r' q hq'
      have hregistered := others r' q he hq'
      obtain ⟨v, phase⟩ := q
      simp only at hregistered
      subst hregistered
      refine ⟨same_of_identity hidentity hother.same, ?_, trivial⟩
      intro hl
      cases hl
  · intro r' hl
    cases hl
  · refine single_put ?_
    intro r' v f hne hq
    have hregistered := others r' _ hne hq
    cases hregistered
  · refine h.calls.rewrite hidentity ?_ (fun _ => none_open)
    intro p hp
    show sc.session.history.provisioned.or _ = _
    rw [hp, Option.some_or]

theorem Sound.send (h : Sound cfg accounts sc.row sc.session) {again : Bool}
    {token : ProviderAuthResult} {id : CallId}
    (hrequest : sc.session.requests r = some ⟨values, .calling flight⟩)
    (stage : flight.stage = .start again token) :
    Sound cfg accounts sc.row
      ((sc.session.setCall id (sc.newCall flight)).put r
        ⟨values, .calling { flight with stage := .waiting again token id }⟩) := by
  have hf := h.flying hrequest
  have none_open : NoOpenCall sc.session.calls := by
    have hstage := hf.stage
    rw [stage] at hstage
    exact hstage
  refine h.call hrequest (h.calls.send hf.status none_open ⟨rfl, rfl⟩ hf.provisioned rfl) ?_
  intro i c hc hopen
  rcases update_call hc with ⟨he, _⟩ | ⟨_, hold⟩
  · exact he
  · have hrejected := none_open i c hold
    rw [hopen] at hrejected
    cases hrejected

section Receive
variable {again : Bool} {token : ProviderAuthResult} {id : CallId} {call : Call}
variable {result : HttpResult}

theorem told_calls (sc : Scene) (id : CallId) (call : Call) (result : HttpResult) :
    sc.told id call result = { sc.session with calls := (sc.told id call result).calls } := by
  unfold Scene.told
  split
  · rfl
  · rfl

/-- The exchange of the only open call is over: the calls are sound, and none is open if
the exchange created nothing. -/
theorem Sound.told (h : Sound cfg accounts sc.row sc.session)
    (hrequest : sc.session.requests r = some ⟨values, .calling flight⟩)
    (stage : flight.stage = .waiting again token id) (stored : sc.session.calls id = some call)
    (possible : result.createsNothing = true → call.created = false) :
    CallsSound sc.row sc.session.history (sc.told id call result).calls ∧
      (result.createsNothing = true → NoOpenCall (sc.told id call result).calls) := by
  have only : ∀ i c, sc.session.calls i = some c → c.rejected = false → i = id := by
    have hstage := (h.flying hrequest).stage
    rw [stage] at hstage
    exact hstage
  unfold Scene.told
  by_cases hnothing : result.createsNothing = true
  · rw [if_pos hnothing]
    refine ⟨?_, fun _ => NoOpenCall.reject only rfl⟩
    refine h.calls.update stored true call.created (fun hr => by cases hr) ?_
    intro hcreated
    rw [possible hnothing] at hcreated
    cases hcreated
  · rw [if_neg hnothing]
    exact ⟨h.calls, fun hn => absurd hn hnothing⟩

theorem Sound.receive (h : Sound cfg accounts sc.row sc.session) {stage : Stage}
    (hrequest : sc.session.requests r = some ⟨values, .calling flight⟩)
    (waiting : flight.stage = .waiting again token id)
    (stored : sc.session.calls id = some call)
    (possible : result.createsNothing = true → call.created = false)
    (verdict : Verdict result stage) :
    Sound cfg accounts sc.row ((sc.told id call result).put r
      ⟨values, .calling { flight with stage := stage }⟩) := by
  obtain ⟨hcalls, hnone⟩ := h.told hrequest waiting stored possible
  rw [told_calls]
  refine h.call hrequest hcalls ?_
  cases verdict with
  | succeeded complete => exact complete
  | failed nothing => exact fun definite => hnone (nothing definite)
  | again nothing => exact hnone nothing

theorem Sound.escape (h : Sound cfg accounts sc.row sc.session)
    (hrequest : sc.session.requests r = some ⟨values, .calling flight⟩)
    (waiting : flight.stage = .waiting again token id)
    (stored : sc.session.calls id = some call)
    (possible : result.createsNothing = true → call.created = false) :
    Sound cfg accounts sc.row ((sc.told id call result).drop r) := by
  obtain ⟨hcalls, _⟩ := h.told hrequest waiting stored possible
  have unknown : StageSound (sc.told id call result).calls
      (.failed { code := .providerStateUnknown, ambiguous := true }) :=
    fun definite => by cases definite
  have hput := (h.call hrequest hcalls unknown).drop r
  rw [← told_calls, drop_put] at hput
  exact hput

end Receive

theorem Sound.remoteCreates (h : Sound cfg accounts sc.row sc.session) {id : CallId} {call : Call}
    (stored : sc.session.calls id = some call) (pending : call.rejected = false) :
    Sound cfg accounts sc.row (sc.session.setCall id { call with created := true }) where
  origin := h.origin
  requests := by
    intro r' q hq
    have hs := h.requests r' q hq
    refine ⟨hs.same, hs.locks, hs.phase.withCalls ?_⟩
    intro f _ hf
    exact ⟨hf.status, hf.provisioned, hf.stage.record stored rfl⟩
  locked := h.locked
  single := h.single
  calls := by
    exact h.calls.update stored call.rejected true (fun hr => hr) (fun _ => pending)
  row := h.row

/-- A booking is about some columns of its row only. -/
theorem Booked.kept {row : Meeting} {p : Provisioned} (h : Booked cfg accounts m p)
    (room : row.room = m.room) (startAt : row.startAt = m.startAt) (endAt : row.endAt = m.endAt)
    (reservation : row.reservation = m.reservation)
    (payload : row.encryptedProviderPayload = m.encryptedProviderPayload)
    (title : row.meetingTitle = m.meetingTitle) : Booked cfg accounts row p where
  room := room.trans h.room
  account := h.account
  slot := by
    rw [startAt, endAt, reservation]
    exact h.slot
  snapshot := payload.trans h.snapshot
  titled := by
    rw [title]
    exact h.titled

theorem lock_drop_free {s : Session} (free : s.lock = none) : (s.drop r).lock = none := by
  simp [Session.drop, free]

theorem failedStatus_cases (e : ProviderError) :
    (e.ambiguous = true ∧ failedStatus e = .providerStateUnknown) ∨
      (e.ambiguous = false ∧ failedStatus e = .retryableFailed) ∨
      (e.ambiguous = false ∧ failedStatus e = .nonRetryableFailed) := by
  unfold failedStatus
  cases he : e.ambiguous with
  | true => exact Or.inl ⟨rfl, rfl⟩
  | false =>
    cases hc : e.code.retryable with
    | true => exact Or.inr (Or.inl ⟨rfl, rfl⟩)
    | false => exact Or.inr (Or.inr ⟨rfl, rfl⟩)

/-- The status an error transaction writes, and the flag that goes with it. -/
theorem recordFailure_status (m : Meeting) (e : ProviderError) (now : Int) :
    ((m.recordFailure e now).status = .providerResponseInvalid ∧ e.definite = false ∧
        (m.recordFailure e now).reservationActive = true) ∨
      ((m.recordFailure e now).status = .providerStateUnknown ∧ e.definite = false ∧
        (m.recordFailure e now).reservationActive = true) ∨
      ((m.recordFailure e now).status = .retryableFailed ∧ e.definite = true ∧
        (m.recordFailure e now).reservationActive = true) ∨
      ((m.recordFailure e now).status = .nonRetryableFailed ∧ e.definite = true ∧
        (m.recordFailure e now).reservationActive = false) := by
  cases hp : e.providerResult with
  | some result =>
    left
    simp [Meeting.recordFailure, ProviderError.definite, ProviderError.knownCreated, hp]
  | none =>
    right
    rcases failedStatus_cases e with ⟨ha, hs⟩ | ⟨ha, hs⟩ | ⟨ha, hs⟩
    · left
      simp [Meeting.recordFailure, ProviderError.definite, hp, ha, hs]
    · right
      left
      simp [Meeting.recordFailure, ProviderError.definite, ProviderError.knownCreated, hp, ha, hs]
    · right
      right
      simp [Meeting.recordFailure, ProviderError.definite, ProviderError.knownCreated, hp, ha, hs]

/-- A failed row is coherent, and is neither a draft nor ready nor ended. -/
theorem recordFailure_coherent (m : Meeting) (e : ProviderError) (now : Int) :
    (m.recordFailure e now).status.written = true ∧
      (m.recordFailure e now).reservationActive = (m.recordFailure e now).status.retains ∧
      (m.recordFailure e now).status ≠ .draft ∧ (m.recordFailure e now).status ≠ .ready ∧
      (m.recordFailure e now).status ≠ .ended := by
  rcases recordFailure_status m e now with ⟨hs, _, ha⟩ | ⟨hs, _, ha⟩ | ⟨hs, _, ha⟩ | ⟨hs, _, ha⟩ <;>
    rw [hs, ha] <;> decide

theorem recordFailure_id (m : Meeting) (e : ProviderError) (now : Int) :
    (m.recordFailure e now).id = m.id := by
  unfold Meeting.recordFailure
  split
  · rfl
  · rfl

theorem recordFailure_room (m : Meeting) (e : ProviderError) (now : Int) :
    (m.recordFailure e now).room = m.room := by
  unfold Meeting.recordFailure
  split
  · rfl
  · rfl

theorem recordFailure_reservation (m : Meeting) (e : ProviderError) (now : Int) :
    (m.recordFailure e now).reservation = m.reservation := by
  unfold Meeting.recordFailure
  split
  · rfl
  · rfl

theorem recordFailure_identity (m : Meeting) (e : ProviderError) (now : Int) :
    (m.recordFailure e now).identity = m.identity := by
  unfold Meeting.recordFailure
  split
  · rfl
  · rfl

theorem Booked.recordFailure {m : Meeting} {p : Provisioned} (h : Booked cfg accounts m p)
    (e : ProviderError) (now : Int) : Booked cfg accounts (m.recordFailure e now) p := by
  unfold Meeting.recordFailure
  split
  · exact h.kept rfl rfl rfl rfl rfl rfl
  · exact h.kept rfl rfl rfl rfl rfl rfl

theorem Sound.failure (h : Sound cfg accounts sc.row sc.session) {e : ProviderError} {now : Int}
    (free : sc.session.lock = none)
    (hrequest : sc.session.requests r = some ⟨values, .calling flight⟩)
    (stage : flight.stage = .failed e) :
    Sound cfg accounts (sc.row.recordFailure e now) (sc.session.drop r) := by
  have hf := h.flying hrequest
  have hnone : e.definite = true → NoOpenCall sc.session.calls := by
    have hstage := hf.stage
    rw [stage] at hstage
    exact hstage
  have hstatus := recordFailure_status sc.row e now
  refine (h.drop r).save (lock_drop_free free) (recordFailure_identity _ _ _) rfl rfl ?_ ?_ ?_
  · intro r' v f hq
    exact absurd hq (h.landed hrequest)
  · intro hu
    rcases hstatus with ⟨hs, _⟩ | ⟨hs, _⟩ | ⟨_, hd, _⟩ | ⟨_, hd, _⟩
    · rw [hs] at hu
      cases hu
    · rw [hs] at hu
      cases hu
    · exact hnone hd
    · exact hnone hd
  · obtain ⟨hwritten, hactive, hdraft, hready, hended⟩ := recordFailure_coherent sc.row e now
    refine ⟨hwritten, hactive, fun hd => absurd hd hdraft, ?_, ?_, fun hr => absurd hr hready,
      fun he => absurd he hended⟩
    · intro _ _
      exact Option.isSome_iff_exists.mpr ⟨_, hf.provisioned⟩
    · intro p hp
      exact (h.row.booked p hp).recordFailure e now

theorem present_orElse {stored new : Option String} (h : present new = true) :
    present (orElse stored new) = true := by
  unfold orElse
  by_cases hs : present stored = true
  · rw [if_pos hs]
    exact hs
  · rw [if_neg hs]
    exact h

/-- A start URL that the success transaction can seal is one that a ready row needs. -/
theorem startUrl_isSome {m : Meeting} {data : ProviderMeetingResult}
    {startUrl : Option (Stored String)} (complete : data.Complete)
    (sealed : m.startUrl cfg data = .ok startUrl) : startUrl.isSome = true := by
  unfold Meeting.startUrl at sealed
  split at sealed
  · cases sealed
    rfl
  · rename_i url _ hurl
    have hne : url ≠ "" := by
      have hpresent := complete.startUrl
      rw [hurl] at hpresent
      simpa [present] using hpresent
    rw [if_neg hne] at sealed
    cases hencrypt : encrypt cfg url with
    | error e =>
      rw [hencrypt] at sealed
      cases sealed
    | ok stored =>
      rw [hencrypt] at sealed
      cases sealed
      rfl
  · rename_i hurl
    have hpresent := complete.startUrl
    rw [hurl] at hpresent
    cases hpresent

/-- A late success fills whatever is missing. -/
theorem toReady_filled (m : Meeting) {data : ProviderMeetingResult}
    {startUrl : Option (Stored String)} (complete : data.Complete)
    (sealed : m.startUrl cfg data = .ok startUrl) (now : Int) :
    Filled (m.toReady data startUrl now) :=
  ⟨present_orElse (by simpa [present] using complete.calendarId), present_orElse complete.panel,
    startUrl_isSome complete sealed⟩

theorem Sound.success (h : Sound cfg accounts sc.row sc.session) {data : ProviderMeetingResult}
    {token : ProviderAuthResult} {startUrl : Option (Stored String)} {now : Int}
    (free : sc.session.lock = none)
    (hrequest : sc.session.requests r = some ⟨values, .calling flight⟩)
    (stage : flight.stage = .succeeded data token)
    (awaits : sc.row.status.awaitsOutcome = true)
    (sealed : sc.row.startUrl cfg data = .ok startUrl) :
    Sound cfg accounts (sc.row.toReady data startUrl now) (sc.session.drop r) := by
  have hf := h.flying hrequest
  have hcomplete : data.Complete := by
    have hstage := hf.stage
    rw [stage] at hstage
    exact hstage
  have hactive : sc.row.reservationActive = true := by
    rw [h.row.active]
    exact Status.awaitsOutcome_retains awaits
  refine (h.drop r).save (lock_drop_free free) rfl rfl rfl ?_ (fun hu => by cases hu) ?_
  · intro r' v f hq
    exact absurd hq (h.landed hrequest)
  · refine ⟨rfl, hactive, (fun hc => by cases hc), ?_, ?_, ?_, (fun hc => by cases hc)⟩
    · intro _ _
      exact Option.isSome_iff_exists.mpr ⟨_, hf.provisioned⟩
    · exact fun p hp => (h.row.booked p hp).kept rfl rfl rfl rfl rfl rfl
    · intro _
      exact toReady_filled sc.row hcomplete sealed now

/-- A row that is neither a draft nor cancelled has been provisioned. -/
theorem Sound.begun (h : Sound cfg accounts sc.row sc.session) {status : Status}
    (hs : sc.row.status = status) (draft : status ≠ .draft) (cancelled : status ≠ .cancelled) :
    sc.session.history.provisioned.isSome = true :=
  h.row.begun (by rw [hs]; exact draft) (by rw [hs]; exact cancelled)

theorem Sound.upkeep (h : Sound cfg accounts sc.row sc.session) {row : Meeting} {done : Session}
    (free : sc.session.lock = none) {op : Operation}
    (upkeep : Upkeep cfg sc.row sc.session op row done) :
    Sound cfg accounts row done := by
  cases upkeep with
  | @sweep now hs =>
    refine h.save free rfl rfl rfl (fun _ _ _ _ => rfl) (fun hu => by cases hu) ?_
    have hactive : sc.row.reservationActive = true := by
      rw [h.row.active, hs]
      rfl
    refine ⟨rfl, hactive, (fun hc => by cases hc), ?_, ?_, (fun hc => by cases hc),
      (fun hc => by cases hc)⟩
    · intro _ _
      exact h.begun hs (by decide) (by decide)
    · exact fun p hp => (h.row.booked p hp).kept rfl rfl rfl rfl rfl rfl
  | cancelAgain _ => exact h
  | @cancel now hc =>
    have huncalled := Status.cancellable_uncalled hc h.row.written
    refine h.save free rfl rfl rfl ?_ (fun _ => h.calls.uncalled huncalled) ?_
    · intro r' v f hq
      exact absurd hq (h.grounded (Status.cancellable_not_inFlight hc))
    · refine ⟨rfl, rfl, (fun hd => by cases hd), ?_, ?_, (fun hr => by cases hr),
        (fun he => by cases he)⟩
      · intro _ hnot
        exact absurd rfl hnot
      · exact fun p hp => (h.row.booked p hp).kept rfl rfl rfl rfl rfl rfl
  | @touch _ now hs =>
    have hw := h.row
    refine h.save free rfl rfl rfl ?_ h.calls.uncalled ?_
    · intro r' v f hq
      exact (h.flying hq).status
    · refine ⟨hw.written, hw.active, hw.fresh, hw.begun, ?_, ?_, hw.ended⟩
      · exact fun p hp => (hw.booked p hp).kept rfl rfl rfl rfl rfl rfl
      · intro hr
        have hf := hw.ready hr
        exact ⟨hf.calendarId, hf.panel, hf.startUrl⟩
  | @recover v startUrl now hs hcalendar hpanel _ =>
    refine h.save free rfl rfl rfl (fun _ _ _ _ => rfl) (fun hu => by cases hu) ?_
    refine ⟨rfl, rfl, (fun hc => by cases hc), ?_, ?_, ?_, (fun hc => by cases hc)⟩
    · intro _ _
      exact h.begun hs (by decide) (by decide)
    · exact fun p hp => (h.row.booked p hp).kept rfl rfl rfl rfl rfl rfl
    · intro _
      exact ⟨hcalendar, hpanel, rfl⟩
  | @confirmEnded now hc =>
    refine h.save free rfl rfl rfl (fun _ _ _ _ => rfl) (fun hu => by cases hu) ?_
    refine ⟨rfl, rfl, (fun hd => by cases hd), ?_, ?_, (fun hr => by cases hr), fun _ => rfl⟩
    · intro _ _
      obtain ⟨hdraft, hcancelled⟩ := Status.confirmable_begun hc
      exact h.row.begun hdraft hcancelled
    · exact fun p hp => (h.row.booked p hp).kept rfl rfl rfl rfl rfl rfl

/-- What the row and its session are after an effect, saved or not. -/
def Effect.Sound (cfg : Settings) (accounts : RoomId → Option String) (m : Meeting) :
    Effect → Prop
  | .quiet session _ _ => MeetingGateway.Sound cfg accounts m session
  | .write row done failed => row.id = m.id ∧ row.identity = m.identity ∧
      MeetingGateway.Sound cfg accounts row done ∧ MeetingGateway.Sound cfg accounts m failed

theorem Sound.move (sc : Scene) (h : Sound cfg accounts sc.row sc.session) {effect : Effect}
    (rooms : ∀ room : Room, sc.store.room? room.id = some room →
      accounts room.id = some room.username)
    {op : Operation} (move : Move cfg sc op effect) : effect.Sound cfg accounts sc.row := by
  cases move with
  | leave _ => exact h.drop _
  | resume free hrequest gate => exact h.resume free hrequest gate
  | allocate free hrequest gate => exact h.allocate free hrequest gate
  | skip hrequest => exact h.hold hrequest rfl rfl (h.requests _ _ hrequest).phase
  | reserve hrequest hslot hreservable _ _ _ _ =>
    have hphase : sc.row.status = .draft ∧ _ = false := (h.requests _ _ hrequest).phase
    exact h.hold hrequest rfl rfl
      (Or.inl ⟨hphase.1, hphase.2, _, _, _, hslot, hreservable, rfl⟩)
  | provision hrequest hconfig hroom stored hflight =>
    obtain ⟨hid, hidentity⟩ := h.reserved_same hrequest
    exact ⟨hid, hidentity, h.provision rooms hrequest hconfig hroom stored hflight, h.drop _⟩
  | issued hrequest stage =>
    have hstage := (h.flying hrequest).stage
    rw [stage] at hstage
    exact h.advance hrequest hstage
  | refused hrequest stage _ =>
    have hstage := (h.flying hrequest).stage
    rw [stage] at hstage
    exact h.advance hrequest fun _ => hstage
  | send hrequest stage _ => exact h.send hrequest stage
  | receive hrequest waiting stored possible verdict =>
    exact h.receive hrequest waiting stored possible verdict
  | escape hrequest waiting stored possible => exact h.escape hrequest waiting stored possible
  | @failure r values flight e now free hrequest stage =>
    exact ⟨recordFailure_id _ _ _, recordFailure_identity _ _ _, h.failure free hrequest stage,
      h.drop _⟩
  | success free hrequest stage awaits sealed =>
    exact ⟨rfl, rfl, h.success free hrequest stage awaits sealed, h.drop _⟩
  | remoteCreates stored _ pending => exact h.remoteCreates stored pending
  | upkeep free hup =>
    refine ⟨?_, ?_, h.upkeep free hup, h⟩
    · cases hup <;> rfl
    · cases hup <;> rfl

end Moves
end MeetingGateway
