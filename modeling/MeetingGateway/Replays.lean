import MeetingGateway.Offers
import MeetingGateway.SerialHistories

/-!
# Repeating an answered request

A create request that was answered with its meeting can be sent again. The class's one row is
then READY or LIVE, and no other request, no sweep and no confirmation for other meetings
touches it. So the same request finds the same meeting, whatever the provider does
meanwhile, and changes nothing.
-/

namespace MeetingGateway

/-- The row is the only one of its client and class. -/
def Store.Only (s : Store) (row : Meeting) : Prop :=
  s.meetings.rows.filter (Meeting.keyed row.integrationClient row.externalClassId) = [row]

/-- The rows belong to one client and class. -/
structure Meeting.SameKey (m m' : Meeting) : Prop where
  client : m'.integrationClient = m.integrationClient
  classId : m'.externalClassId = m.externalClassId

/-- A filter that lets one element through, after a change it does not see. -/
theorem filter_map_singleton {α : Type} {p : α → Bool} {f : α → α} {l : List α} {a : α}
    (only : l.filter p = [a]) (same : ∀ b ∈ l, p (f b) = p b) : (l.map f).filter p = [f a] := by
  have unseen : l.filter (p ∘ f) = l.filter p := List.filter_congr same
  rw [List.filter_map, unseen, only]
  rfl

section Keys
variable {s : Store} {row m m' : Meeting}

theorem Meeting.SameKey.keyed (h : m.SameKey m') (client : ClientId) (classId : String) :
    m'.keyed client classId = m.keyed client classId := by
  simp only [Meeting.keyed, h.client, h.classId]

theorem Meeting.SameKey.trans {m'' : Meeting} (h : m.SameKey m') (h' : m'.SameKey m'') :
    m.SameKey m'' := ⟨h'.client.trans h.client, h'.classId.trans h.classId⟩

theorem Meeting.keyed_self (row : Meeting) :
    row.keyed row.integrationClient row.externalClassId = true := by
  simp [Meeting.keyed]

theorem Store.Only.mem (h : s.Only row) : row ∈ s.meetings.rows := by
  have hmem : row ∈ s.meetings.rows.filter
      (Meeting.keyed row.integrationClient row.externalClassId) := by
    rw [h]
    exact List.mem_singleton_self row
  exact (List.mem_filter.mp hmem).1

theorem Store.Only.stored (h : s.Only row) : s.meeting? row.id = some row :=
  KeyedTable.get?_eq_some.mpr ⟨h.mem, rfl⟩

/-- Rows that change keep their keys, and this row does not change. -/
theorem Store.Only.mapRows (h : s.Only row) {f : Meeting → Meeting}
    (keeps : ∀ m, (f m).id = m.id) (sameKey : ∀ m : Meeting, m.SameKey (f m)) (same : f row = row) :
    Store.Only { s with meetings := s.meetings.mapRows f keeps } row := by
  have kept := filter_map_singleton h fun m _ => (sameKey m).keyed _ _
  rw [same] at kept
  exact kept

/-- A row saved under its key looks the same to every filter by client and class. -/
theorem Store.keyed_saved (stored : s.meeting? m'.id = some m) (sameKey : m.SameKey m')
    (client : ClientId) (classId : String) :
    ∀ r ∈ s.meetings.rows,
      (if r.id = m'.id then m' else r).keyed client classId = r.keyed client classId := by
  intro r hr
  by_cases he : r.id = m'.id
  · have found := KeyedTable.get?_eq_some.mpr ⟨hr, he⟩
    obtain rfl : r = m := Option.some.inj (found.symm.trans stored)
    rw [if_pos he]
    exact sameKey.keyed _ _
  · rw [if_neg he]

/-- The row of another class is saved. -/
theorem Store.Only.put_other (h : s.Only row) (hne : m'.id ≠ row.id)
    (stored : s.meeting? m'.id = some m) (sameKey : m.SameKey m') :
    (s.putMeeting m').Only row := by
  have kept := filter_map_singleton h (Store.keyed_saved stored sameKey _ _)
  rw [if_neg hne.symm] at kept
  exact kept

/-- The class's row is saved. -/
theorem Store.Only.put_self (h : s.Only m) (hid : m'.id = m.id) (sameKey : m.SameKey m') :
    (s.putMeeting m').Only m' := by
  have stored : s.meeting? m'.id = some m := hid ▸ h.stored
  have kept := filter_map_singleton h (Store.keyed_saved stored sameKey _ _)
  rw [if_pos hid.symm] at kept
  rw [Store.Only, sameKey.client, sameKey.classId]
  exact kept

/-- A row of another class is inserted. -/
theorem Store.Only.insert_other (h : s.Only row) (fresh : s.meeting? m.id = none)
    (none : s.meetings.rows.filter (Meeting.keyed m.integrationClient m.externalClassId) = []) :
    (s.insertMeeting m fresh).Only row := by
  have unkeyed : m.keyed row.integrationClient row.externalClassId = false := by
    by_contra hkeyed
    obtain ⟨sameClient, sameClass⟩ := keyed_iff.mp (Bool.eq_true_of_not_eq_false hkeyed)
    have hrow := List.filter_eq_nil_iff.mp none row h.mem
    rw [sameClient, sameClass] at hrow
    exact hrow row.keyed_self
  show (s.meetings.rows ++ [m]).filter _ = [row]
  rw [List.filter_append, h, List.filter_singleton, unkeyed]
  rfl

/-- The first row of its class is inserted. -/
theorem Store.only_insert_self (fresh : s.meeting? m.id = none)
    (none : s.meetings.rows.filter (Meeting.keyed m.integrationClient m.externalClassId) = []) :
    (s.insertMeeting m fresh).Only m := by
  show (s.meetings.rows ++ [m]).filter _ = [m]
  rw [List.filter_append, none, List.nil_append, List.filter_singleton, m.keyed_self]
  rfl

end Keys

/-- The store after any number of saves of the meeting under its key. -/
inductive Rewritten (s : Store) (m : Meeting) : Store → Prop
  | start : Rewritten s m s
  | save {s' : Store} {m' : Meeting} : Rewritten s m s' → m'.id = m.id → m.SameKey m' →
      Rewritten s m (s'.putMeeting m')

section Saves
variable {cfg : Settings} {s s' : Store} {row m m' locked reserved current : Meeting}
variable {values : CreateValues} {out : Outside}

theorem Rewritten.other (h : Rewritten s m s') (only : s.Only row)
    (stored : s.meeting? m.id = some m) (hne : m.id ≠ row.id) : s'.Only row := by
  have general : s'.Only row ∧ ∃ m₁, s'.meeting? m.id = some m₁ ∧ m.SameKey m₁ := by
    induction h with
    | start => exact ⟨only, m, stored, rfl, rfl⟩
    | @save s' m' _ sameId sameKey ih =>
      obtain ⟨kept, m₁, stored₁, sameKey₁⟩ := ih
      rw [← sameId] at stored₁ hne
      have change : m₁.SameKey m' :=
        ⟨sameKey.client.trans sameKey₁.client.symm, sameKey.classId.trans sameKey₁.classId.symm⟩
      refine ⟨kept.put_other hne stored₁ change, m', ?_, sameKey⟩
      rw [← sameId]
      exact Store.meeting?_putMeeting_self stored₁
  exact general.1

theorem Rewritten.self (h : Rewritten s m s') (only : s.Only m) :
    ∃ m₁, s'.Only m₁ ∧ m₁.id = m.id ∧ m.SameKey m₁ := by
  induction h with
  | start => exact ⟨m, only, rfl, rfl, rfl⟩
  | @save s' m' _ sameId sameKey ih =>
    obtain ⟨m₁, kept, sameId₁, sameKey₁⟩ := ih
    have change : m₁.SameKey m' :=
      ⟨sameKey.client.trans sameKey₁.client.symm, sameKey.classId.trans sameKey₁.classId.symm⟩
    exact ⟨m', kept.put_self (sameId.trans sameId₁.symm) change, sameId, sameKey⟩

/-- The later version of a row that a request of its class leaves. -/
structure Meeting.Later (m m' : Meeting) (values : CreateValues) : Prop where
  sameId : m'.id = m.id
  sameKey : m.SameKey m'
  sameRequest : values.ambiguous = false → m.sameRequest values = true →
    m'.sameRequest values = true

theorem Meeting.Later.trans {m'' : Meeting} (h : m.Later m' values) (h' : m'.Later m'' values) :
    m.Later m'' values :=
  ⟨h'.sameId.trans h.sameId, h.sameKey.trans h'.sameKey, fun plain same =>
    h'.sameRequest plain (h.sameRequest plain same)⟩

theorem recordFailure_later (e : ProviderError) (now : Int) :
    m.Later (m.recordFailure e now) values := by
  unfold Meeting.recordFailure
  split
  · exact ⟨rfl, ⟨rfl, rfl⟩, fun _ => id⟩
  · exact ⟨rfl, ⟨rfl, rfl⟩, fun _ => id⟩

theorem sameTime_instant {time : Datetime} (plain : time.ambiguous = false) :
    sameTime (some time.instant) time = true := by
  rw [sameTime, Datetime.utc_eq]
  exact ⟨rfl, plain⟩

theorem CreateValues.plain (plain : values.ambiguous = false) :
    values.startAt.ambiguous = false ∧ values.endAt.ambiguous = false := by
  simpa [CreateValues.ambiguous] using plain

theorem reserve_sameRequest {room : RoomId} {slot : BoundedRange Int} {now : Int}
    (plain : values.ambiguous = false) (same : m.sameRequest values = true) :
    (m.reserve room values.startAt values.endAt slot now).sameRequest values = true := by
  obtain ⟨plainStart, plainEnd⟩ := CreateValues.plain plain
  unfold Meeting.sameRequest at same ⊢
  obtain ⟨same, _⟩ := Bool.and_eq_true_iff.mp same
  obtain ⟨same, _⟩ := Bool.and_eq_true_iff.mp same
  exact Bool.and_eq_true_iff.mpr ⟨Bool.and_eq_true_iff.mpr ⟨same, sameTime_instant plainStart⟩,
    sameTime_instant plainEnd⟩

theorem hasToken_iff {status : Status} :
    status.hasToken = true ↔ status = .ready ∨ status = .live := by
  cases status <;> simp [Status.hasToken]

theorem gate_replay_iff :
    provisionGate m values = .ok .replay ↔ m.status.hasToken = true :=
  provisionGate_replay.trans hasToken_iff.symm

theorem allocateAnyRoom_later {now now' : Int} (stored : s.meeting? locked.id = some locked)
    (h : allocateAnyRoom cfg (s.putMeeting (locked.toDraft now)) locked.id values.startAt
      values.endAt now' = .ok reserved) : locked.Later reserved values := by
  obtain ⟨_, publicId, _, _, hreserve, _⟩ := FirstFit.tryEach_ok h
  obtain ⟨hsaved, _, _⟩ := reserveSpecificRoom_ok hreserve
  obtain ⟨slot, found, room, _, hfound, _, _, _, _, rfl⟩ := reservedRow_ok hsaved
  have view : (s.putMeeting (locked.toDraft now)).meeting? (locked.toDraft now).id =
      some (locked.toDraft now) := Store.meeting?_putMeeting_self stored
  obtain rfl : found = locked.toDraft now := Option.some.inj (hfound.symm.trans view)
  exact ⟨rfl, ⟨rfl, rfl⟩, fun plain same => reserve_sameRequest plain same⟩

/-- How `provision` ends: it saves the row some times under its key, and if it succeeds,
the last row saved is the one that is returned, which is READY. -/
inductive Concluded (s : Store) (m : Meeting) (values : CreateValues) : Provision → Prop
  | failed {e : Raised} {s' : Store} : Rewritten s m s' → Concluded s m values (.error e, s')
  | replayed : m.status.hasToken = true → Concluded s m values (.ok (m, none), s)
  | created {current : Meeting} {token : Option ProviderAuthResult} {s' : Store} :
      Rewritten s m s' → m.Later current values → current.status = .ready →
      Concluded s m values (.ok (current, token), s'.putMeeting current)

theorem finishProvision_ends (h : Rewritten s m s') (later : m.Later current values) :
    Concluded s m values (finishProvision cfg s' current out) := by
  unfold finishProvision
  split
  · rename_i data token _
    split
    · exact .failed h
    · rename_i ready hready
      obtain ⟨_, startUrl, _, rfl⟩ := recordSuccess_ok hready
      split
      · exact .failed h
      · rename_i store' hcommit
        obtain ⟨_, _, _, rfl⟩ := commit_ok hcommit
        have next : current.Later (current.toReady data startUrl out.now) values :=
          ⟨rfl, ⟨rfl, rfl⟩, fun _ => id⟩
        exact .created h (later.trans next) rfl
  · rename_i e _
    split
    · exact .failed h
    · split
      · exact .failed h
      · rename_i store' hcommit
        obtain ⟨_, _, _, rfl⟩ := commit_ok hcommit
        have next := later.trans (recordFailure_later e out.now)
        exact .failed (h.save next.sameId next.sameKey)
  · exact .failed h

theorem commitProvision_ends {retrying : Bool} (later : m.Later reserved values) :
    Concluded s m values (commitProvision cfg s reserved retrying out) := by
  unfold commitProvision
  split
  · exact .failed .start
  · rename_i row payload hrow
    split
    · exact .failed .start
    · rename_i store' hcommit
      obtain ⟨_, _, _, rfl⟩ := commit_ok hcommit
      obtain ⟨config, type, _, _, rfl⟩ := provisioning_ok hrow
      have next : m.Later (reserved.toProvisioning cfg payload type out.now) values :=
        later.trans ⟨rfl, ⟨rfl, rfl⟩, fun _ => id⟩
      exact finishProvision_ends (.save .start next.sameId next.sameKey) next

theorem provision_ends (stored : s.meeting? locked.id = some locked) :
    Concluded s locked values (provision cfg s locked values out) := by
  unfold provision
  split
  · exact .failed .start
  · rename_i hgate
    exact .replayed (gate_replay_iff.mp hgate)
  · exact commitProvision_ends ⟨rfl, ⟨rfl, rfl⟩, fun _ => id⟩
  · split
    · exact .failed .start
    · rename_i hallocate
      exact commitProvision_ends (allocateAnyRoom_later stored hallocate)

theorem Concluded.rewritten {p : Provision} (h : Concluded s m values p) : Rewritten s m p.2 := by
  cases h with
  | failed rewritten => exact rewritten
  | replayed _ => exact .start
  | created rewritten later _ => exact rewritten.save later.sameId later.sameKey

end Saves

section Endpoint
variable {cfg : Settings} {drf : Drf} {s s' : Store} {row m : Meeting} {request : PostRequest}
variable {out : Outside} {values : CreateValues} {created : Bool}

/-- What `register` hands on: a new draft, or the one row of the class, which is as requested. A
draft with an ambiguous time is not, once it comes back from the database. -/
inductive Registered (s : Store) (client : ClientId) (values : CreateValues) :
    Meeting → Bool → Store → Prop
  | new {m : Meeting} (fresh : s.meeting? m.id = none) : m.integrationClient = client →
      m.externalClassId = values.classInfo.id →
      (values.ambiguous = false → m.sameRequest values = true) →
      s.meetings.rows.filter (Meeting.keyed client values.classInfo.id) = [] →
      Registered s client values m true (s.insertMeeting m fresh)
  | found {m : Meeting} : m.integrationClient = client → m.externalClassId = values.classInfo.id →
      s.Only m → m.sameRequest values = true → Registered s client values m false s

theorem draft_sameRequest (pk : MeetingId) (client : ClientId) (now : Int)
    (plain : values.ambiguous = false) :
    (values.draft pk client now).sameRequest values = true := by
  obtain ⟨plainStart, plainEnd⟩ := CreateValues.plain plain
  simp [Meeting.sameRequest, CreateValues.draft, sameTime_instant plainStart,
    sameTime_instant plainEnd]

theorem registered_ok (h : registered s request values out = .ok (m, created, s')) :
    Registered s request.client values m created s' := by
  unfold registered register at h
  cases hfilter : s.meetings.rows.filter (Meeting.keyed request.client values.classInfo.id) with
  | nil =>
    simp only [hfilter] at h
    by_cases checks : (values.draft out.pk request.client out.now).checks = true
    · simp only [checks, if_true] at h
      split at h
      · rename_i fresh
        cases h
        exact .new fresh rfl rfl (draft_sameRequest _ _ _) hfilter
      · cases h
    · simp only [checks] at h
      cases h
  | cons found rest =>
    cases rest with
    | cons _ _ =>
      simp only [hfilter] at h
      cases h
    | nil =>
      simp only [hfilter] at h
      by_cases same : found.sameRequest values = true
      · simp only [same, if_true] at h
        cases h
        have hmem : m ∈ s.meetings.rows.filter
            (Meeting.keyed request.client values.classInfo.id) := by
          rw [hfilter]
          exact List.mem_singleton_self m
        obtain ⟨hclient, hclass⟩ := keyed_iff.mp (List.mem_filter.mp hmem).2
        refine .found hclient hclass ?_ same
        rw [Store.Only, hclient, hclass]
        exact hfilter
      · simp only [same] at h
        cases h

theorem Registered.only (h : Registered s request.client values m created s') : s'.Only m := by
  cases h with
  | new fresh hclient hclass _ none =>
    rw [← hclient, ← hclass] at none
    exact Store.only_insert_self fresh none
  | found _ _ only _ => exact only

theorem Registered.key (h : Registered s request.client values m created s') :
    m.integrationClient = request.client ∧ m.externalClassId = values.classInfo.id ∧
      (values.ambiguous = false → m.sameRequest values = true) := by
  cases h with
  | new _ hclient hclass same _ => exact ⟨hclient, hclass, same⟩
  | found hclient hclass _ same => exact ⟨hclient, hclass, fun _ => same⟩

/-- Whatever a request does to its own class, this row stays. -/
theorem post_keeps (only : s.Only row) (ready : row.status.hasToken = true) :
    (MeetingListView.post cfg drf s request out).2.Only row := by
  rcases post_handled cfg drf s request out with
    ⟨e, hpost⟩ | ⟨values, m, created, s', accepted⟩
  · rw [hpost]
    exact only
  · rw [accepted_post accepted, respond_store]
    have registered := registered_ok accepted.registered
    have ends : Concluded s' m values (provision cfg s' m values out) :=
      provision_ends registered.only.stored
    cases registered with
    | new fresh hclient hclass _ none =>
      have hne : m.id ≠ row.id := by
        intro he
        have stored := only.stored
        rw [← he, fresh] at stored
        cases stored
      rw [← hclient, ← hclass] at none
      exact ends.rewritten.other (only.insert_other fresh none) (Store.meeting?_insert_self fresh)
        hne
    | found _ _ only' _ =>
      by_cases he : m.id = row.id
      · have stored := only.stored
        rw [← he, only'.stored] at stored
        cases stored
        have replays : provision cfg s row values out = (.ok (row, none), s) := by
          simp only [provision, gate_replay_iff.mpr ready]
        rw [replays]
        exact only
      · exact ends.rewritten.other only only'.stored he

/-- No confirmation of an end is for this meeting. -/
def Turn.leaves (pk : MeetingId) : Turn → Bool
  | .confirmEnded queryset _ => !queryset pk
  | _ => true

theorem turn_keeps {turn : Turn} (only : s.Only row) (ready : row.status.hasToken = true)
    (leaves : turn.leaves row.id = true) : (s.turn cfg drf turn).Only row := by
  cases turn with
  | post request out => exact post_keeps only ready
  | sweep sweep =>
    have unflagged : sweep.row row = row := by
      rcases sweep_row_cases sweep row with same | ⟨provisioning, _⟩
      · exact same
      · rw [provisioning] at ready
        cases ready
    refine only.mapRows _ ?_ unflagged
    intro m
    rcases sweep_row_cases sweep m with same | ⟨_, flagged⟩
    · rw [same]
      exact ⟨rfl, rfl⟩
    · rw [flagged]
      exact ⟨rfl, rfl⟩
  | confirmEnded queryset now =>
    have unchosen : queryset row.id = false := by simpa [Turn.leaves] using leaves
    refine only.mapRows _ ?_ (by simp [visitRow, unchosen])
    intro m
    simp only [visitRow, confirmProviderEnded]
    split
    · split
      · exact ⟨rfl, rfl⟩
      · exact ⟨rfl, rfl⟩
    · exact ⟨rfl, rfl⟩

theorem history_keeps {history : List Turn} (only : s.Only row)
    (ready : row.status.hasToken = true)
    (leaves : ∀ turn ∈ history, turn.leaves row.id = true) :
    (history.foldl (Store.turn cfg drf) s).Only row := by
  induction history generalizing s with
  | nil => exact only
  | cons turn rest ih =>
    refine ih (turn_keeps only ready (leaves turn List.mem_cons_self)) ?_
    intro later hlater
    exact leaves later (List.mem_cons_of_mem turn hlater)

/-- The answer once the meeting is there: the first one's data with the authorization of the
moment, if the client may have it. -/
def replayedAnswer (request : PostRequest) (data : MeetingData) (out : Outside) :
    Except ApiError (MeetingData × Nat) :=
  match responseToken request none out with
  | .ok told => .ok ({ data with authorization := told }, 200)
  | .error e => .error (.raised e)

/-- What a request that was answered with its meeting leaves. -/
structure AnsweredWith (cfg : Settings) (drf : Drf) (request : PostRequest) (data : MeetingData)
    (values : CreateValues) (s : Store) : Prop where
  scope : request.scopes.contains "meeting:write" = true
  accepted : ∃ body, request.body.data = .ok body ∧
    createMeetingSerializer cfg drf body = .ok values
  client : data.meeting.integrationClient = request.client
  classId : data.meeting.externalClassId = values.classInfo.id
  only : s.Only data.meeting
  ready : data.meeting.status.hasToken = true
  sameRequest : values.ambiguous = false → data.meeting.sameRequest values = true
  shown : ∀ told : Option ProviderAuthResult,
    told.isSome = request.scopes.contains "meeting:token" →
      representation cfg data.meeting told = .ok { data with authorization := told }

theorem responseToken_isSome {token told : Option ProviderAuthResult}
    (h : responseToken request token out = .ok told) :
    told.isSome = request.scopes.contains "meeting:token" := by
  unfold responseToken at h
  split at h
  · rename_i allowed
    rw [allowed]
    split at h
    · cases h
      rfl
    · cases hview : out.viewToken.result with
      | ok token =>
        rw [hview] at h
        cases h
        rfl
      | error e =>
        rw [hview] at h
        cases h
  · rename_i refused
    cases h
    simpa using refused

theorem respond_ok {p : Provision} {data : MeetingData} {status : Nat} {after : Store}
    (h : respond cfg request created out p = (.ok (data, status), after)) :
    ∃ current token told, p = (.ok (current, token), after) ∧
      responseToken request token out = .ok told ∧ representation cfg current told = .ok data := by
  obtain ⟨outcome, s'⟩ := p
  cases outcome with
  | error e => cases h
  | ok found =>
    obtain ⟨current, token⟩ := found
    simp only [respond] at h
    cases htold : responseToken request token out with
    | error e =>
      rw [htold] at h
      cases h
    | ok told =>
      rw [htold] at h
      dsimp only at h
      cases hdata : representation cfg current told with
      | error e =>
        rw [hdata] at h
        cases h
      | ok shown =>
        rw [hdata] at h
        cases h
        exact ⟨current, token, told, rfl, htold, hdata⟩

theorem provision_kept {current : Meeting} {token : Option ProviderAuthResult} {after : Store}
    (registered : Registered s request.client values m created s')
    (h : provision cfg s' m values out = (.ok (current, token), after)) :
    after.Only current ∧ current.status.hasToken = true ∧ m.Later current values := by
  have only := registered.only
  have ends : Concluded s' m values (provision cfg s' m values out) :=
    provision_ends only.stored
  rw [h] at ends
  cases ends with
  | replayed ready => exact ⟨only, ready, rfl, ⟨rfl, rfl⟩, fun _ => id⟩
  | created rewritten later ready =>
    obtain ⟨m₁, kept, sameId, sameKey⟩ := rewritten.self only
    have change : m₁.SameKey current :=
      ⟨later.sameKey.client.trans sameKey.client.symm,
        later.sameKey.classId.trans sameKey.classId.symm⟩
    refine ⟨kept.put_self (later.sameId.trans sameId.symm) change, ?_, later⟩
    rw [ready]
    rfl

theorem representation_meeting {current : Meeting} {told : Option ProviderAuthResult}
    {data : MeetingData} (h : representation cfg current told = .ok data) :
    data.meeting = current ∧ data.authorization = told := by
  unfold representation at h
  split at h
  · unfold Except.map at h
    split at h
    · cases h
    · cases h
      exact ⟨rfl, rfl⟩
  · cases h
    exact ⟨rfl, rfl⟩

/-- What is shown depends on the token only in the authorization itself. -/
theorem representation_again {current : Meeting} {told told' : Option ProviderAuthResult}
    {data : MeetingData} (h : representation cfg current told = .ok data)
    (same : told'.isSome = told.isSome) :
    representation cfg current told' = .ok { data with authorization := told' } := by
  cases told with
  | none =>
    obtain rfl : told' = none := by simpa using same
    cases h
    rfl
  | some token =>
    obtain ⟨token', rfl⟩ := Option.isSome_iff_exists.mp same
    cases hurl : current.encryptedProviderStartUrl with
    | none =>
      simp only [representation, hurl] at h ⊢
      cases h
      rfl
    | some url =>
      simp only [representation, hurl] at h ⊢
      cases htext : decrypt cfg.keyring url with
      | error e =>
        rw [htext] at h
        cases h
      | ok text =>
        rw [htext] at h
        cases h
        rfl

theorem post_answered {data : MeetingData} {status : Nat} {after : Store}
    (h : MeetingListView.post cfg drf s request out = (.ok (data, status), after)) :
    ∃ values, AnsweredWith cfg drf request data values after := by
  rcases post_handled cfg drf s request out with
    ⟨e, hpost⟩ | ⟨values, m, created, s', accepted⟩
  · rw [hpost] at h
    cases h
  · rw [accepted_post accepted] at h
    obtain ⟨current, token, told, hprovision, htold, hdata⟩ := respond_ok h
    have registered := registered_ok accepted.registered
    obtain ⟨only, ready, later⟩ := provision_kept registered hprovision
    obtain ⟨rfl, _⟩ := representation_meeting hdata
    obtain ⟨hclient, hclass, same⟩ := registered.key
    have hsome := responseToken_isSome htold
    exact ⟨values, accepted.scope, accepted.body, later.sameKey.client.trans hclient,
      later.sameKey.classId.trans hclass, only, ready,
      fun plain => later.sameRequest plain (same plain),
      fun told' told_same => representation_again hdata (told_same.trans hsome.symm)⟩

/-- The request finds its meeting and goes no further than the gate. -/
theorem AnsweredWith.post {data : MeetingData} (h : AnsweredWith cfg drf request data values s)
    (same : data.meeting.sameRequest values = true) :
    MeetingListView.post cfg drf s request out =
      respond cfg request false out (.ok (data.meeting, none), s) := by
  have only : s.meetings.rows.filter (Meeting.keyed request.client values.classInfo.id) =
      [data.meeting] := by
    rw [← h.client, ← h.classId]
    exact h.only
  have hregistered : registered s request values out = .ok (data.meeting, false, s) := by
    simp only [registered, register, only, same, if_true]
  have replays : provision cfg s data.meeting values out = (.ok (data.meeting, none), s) := by
    simp only [provision, gate_replay_iff.mpr h.ready]
  rw [accepted_post ⟨h.scope, h.accepted, hregistered⟩, replays]

/-- The request does not recognise its meeting. -/
theorem AnsweredWith.mismatched {data : MeetingData}
    (h : AnsweredWith cfg drf request data values s)
    (differs : data.meeting.sameRequest values = false) :
    MeetingListView.post cfg drf s request out =
      (.error (.raised (.gateway existingMeetingMismatch)), s) := by
  have only : s.meetings.rows.filter (Meeting.keyed request.client values.classInfo.id) =
      [data.meeting] := by
    rw [← h.client, ← h.classId]
    exact h.only
  have hregistered : registered s request values out =
      .error (.gateway existingMeetingMismatch) := by
    simp only [registered, register, only, differs]
    rfl
  obtain ⟨body, hbody, hvalues⟩ := h.accepted
  simp only [MeetingListView.post, h.scope, hbody, hvalues, hregistered]
  rfl

theorem AnsweredWith.replayed {data : MeetingData}
    (h : AnsweredWith cfg drf request data values s)
    (same : data.meeting.sameRequest values = true) :
    MeetingListView.post cfg drf s request out = (replayedAnswer request data out, s) := by
  rw [h.post same]
  cases htold : responseToken request none out with
  | error e => simp only [respond, replayedAnswer, htold]
  | ok told =>
    simp only [respond, replayedAnswer, htold, h.shown told (responseToken_isSome htold),
      Bool.false_eq_true, if_false]

/-- Once a create request is answered with its meeting, then after every history of other
requests, sweeps and confirmations that are not for this meeting, the same request stores nothing.
It is answered with the same meeting whatever the provider does, unless a time of the request is
ambiguous and it is refused as another one. -/
theorem answered_request_replayed {data : MeetingData} {status : Nat} {after : Store}
    (answered : MeetingListView.post cfg drf s request out = (.ok (data, status), after))
    (history : List Turn) (leaves : ∀ turn ∈ history, turn.leaves data.meeting.id = true)
    (again : Outside) :
    (history.foldl (Store.turn cfg drf) after).meeting? data.meeting.id = some data.meeting ∧
      ∃ body values, request.body.data = .ok body ∧
        createMeetingSerializer cfg drf body = .ok values ∧
        (MeetingListView.post cfg drf (history.foldl (Store.turn cfg drf) after) request again =
            (replayedAnswer request data again, history.foldl (Store.turn cfg drf) after) ∨
          values.ambiguous = true ∧
            MeetingListView.post cfg drf (history.foldl (Store.turn cfg drf) after) request again =
              (.error (.raised (.gateway existingMeetingMismatch)),
                history.foldl (Store.turn cfg drf) after)) := by
  obtain ⟨values, first⟩ := post_answered answered
  have kept : (history.foldl (Store.turn cfg drf) after).Only data.meeting :=
    history_keeps first.only first.ready leaves
  have later : AnsweredWith cfg drf request data values
      (history.foldl (Store.turn cfg drf) after) :=
    { first with only := kept }
  obtain ⟨body, hbody, hvalues⟩ := first.accepted
  refine ⟨kept.stored, body, values, hbody, hvalues, ?_⟩
  cases same : data.meeting.sameRequest values with
  | true => exact Or.inl (later.replayed same)
  | false =>
    refine Or.inr ⟨?_, later.mismatched same⟩
    by_contra plain
    rw [first.sameRequest (by simpa using plain)] at same
    cases same

end Endpoint

/-- The sweep runs, a changed request is refused, and operators confirm another end. -/
def exampleMeanwhile : List Turn :=
  [.sweep ⟨5, fun _ => false⟩, .post (exampleRequest "2026-09-24") (exampleOutside 2),
    .confirmEnded (fun pk => decide (pk = 2)) 6]

/-- The provider cannot be reached any more, and the client is still told its meeting. -/
theorem answered_request_replayed_meanwhile :
    ∃ data after, MeetingListView.post exampleSettings exampleDrf exampleStore
        (exampleRequest "2026-09-25") exampleDelivery = (.ok (data, 201), after) ∧
      MeetingListView.post exampleSettings exampleDrf
        (exampleMeanwhile.foldl (Store.turn exampleSettings exampleDrf) after)
        (exampleRequest "2026-09-25") (exampleOutside 3) =
          (replayedAnswer (exampleRequest "2026-09-25") data (exampleOutside 3),
            exampleMeanwhile.foldl (Store.turn exampleSettings exampleDrf) after) := by
  obtain ⟨data, after, answered, sameId⟩ : ∃ data after,
      MeetingListView.post exampleSettings exampleDrf exampleStore (exampleRequest "2026-09-25")
        exampleDelivery = (.ok (data, 201), after) ∧ data.meeting.id = 1 := ⟨_, _, rfl, rfl⟩
  have leaves : ∀ turn ∈ exampleMeanwhile, turn.leaves data.meeting.id = true := by
    rw [sameId]
    decide
  refine ⟨data, after, answered, ?_⟩
  obtain ⟨_, body, values, hbody, hvalues, replayed | ⟨ambiguous, _⟩⟩ :=
    answered_request_replayed answered exampleMeanwhile leaves (exampleOutside 3)
  · exact replayed
  · cases hbody
    obtain rfl : exampleMorning = values := Except.ok.inj hvalues
    cases ambiguous

end MeetingGateway
