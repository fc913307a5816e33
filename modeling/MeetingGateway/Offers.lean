import MeetingGateway.ProviderFailures
import MeetingGateway.Searches
import MeetingGateway.StatusFlow

/-!
# Offers

`GET /api/v1/rooms/availability/` answers from a snapshot whether a slot could be taken. The
create endpoint goes by the same rooms, so on the same store the offer decides whether
a first request for the slot is refused for lack of capacity. Later on only a PROVISIONING
commit, an administrator's edit or a late error can take an offer back.
-/

namespace MeetingGateway

open LabelledRuns

abbrev AvailabilityRequest := SearchRequest

structure AvailabilityValues where
  startAt : AwareDatetime
  endAt : AwareDatetime

/-- A query holds texts only. -/
def queryData (query : OrderedDict String String) : Json :=
  .obj (query.map fun entry => (entry.1, .str entry.2))

/-- `AvailabilitySerializer`. -/
def availabilitySerializer (cfg : Settings) (drf : Drf) : Json → Except Detail AvailabilityValues :=
  strictSerializer ["start_at", "end_at"] fun fields =>
    match fieldValue "start_at" fields (awareDateTimeField cfg drf),
        fieldValue "end_at" fields (awareDateTimeField cfg drf) with
    | .ok start, .ok end_ =>
      if start.1.lt end_.1 then .ok ⟨start, end_⟩
      else .error (nonFieldError "End must be after start.")
    | start, end_ => .error (.fields (fieldErrors "start_at" start ++ fieldErrors "end_at" end_))

def AvailabilityView.get (cfg : Settings) (drf : Drf) (store : Store)
    (request : AvailabilityRequest) : Except ApiError Availability :=
  if !request.scopes.contains "room:read" then .error (.raised (.gateway insufficientScope))
  else
    match availabilitySerializer cfg drf (queryData request.query) with
    | .error detail => .error (.validation detail)
    | .ok values =>
      (availability cfg store request.client values.startAt.1 values.endAt.1).mapError .raised

theorem AvailabilityView.get_ok {cfg : Settings} {drf : Drf} {store : Store}
    {request : AvailabilityRequest} {offer : Availability} :
    AvailabilityView.get cfg drf store request = .ok offer ↔
      request.scopes.contains "room:read" = true ∧ ∃ values,
        availabilitySerializer cfg drf (queryData request.query) = .ok values ∧
        availability cfg store request.client values.startAt.1 values.endAt.1 = .ok offer := by
  unfold AvailabilityView.get
  cases hscope : request.scopes.contains "room:read" with
  | false => simp
  | true =>
    cases hvalues : availabilitySerializer cfg drf (queryData request.query) with
    | error detail => simp
    | ok values =>
      cases hanswer : availability cfg store request.client values.startAt.1 values.endAt.1 with
      | error e => simp [hanswer, Except.mapError]
      | ok answer => simp [hanswer, Except.mapError]

section Fields
variable {cfg : Settings} {drf : Drf}

theorem strictSerializer_ok {α : Type} {names : List String} {parse : JsonObject → Except Detail α}
    {data : Json} {value : α} (h : strictSerializer names parse data = .ok value) :
    ∃ fields, parse fields = .ok value := by
  unfold strictSerializer at h
  split at h
  · rename_i fields
    split at h
    · cases h
    · exact ⟨fields, h⟩
  all_goals cases h

theorem fieldValue_ok {α : Type} {name : String} {fields : JsonObject}
    {parse : Json → Except Detail α} {value : α} (h : fieldValue name fields parse = .ok value) :
    ∃ data, parse data = .ok value := by
  unfold fieldValue at h
  split at h
  · cases h
  · cases h
  · exact ⟨_, h⟩

/-- `parse_datetime` gives a time with a fixed offset or with none. -/
def Drf.FixedOffsets (drf : Drf) : Prop :=
  ∀ text parsed zone, drf.parseDatetime text = .ok (some parsed) →
    parsed.tzinfo ≠ some (.zone zone)

/-- The field gives the service time zone's clock. -/
theorem awareDateTimeField_zone (fixed : drf.FixedOffsets) {data : Json} {time : AwareDatetime}
    (h : awareDateTimeField cfg drf data = .ok time) :
    time.1 = .inZone cfg.timeZone time.1.instant := by
  unfold awareDateTimeField at h
  split at h
  · split at h
    · rename_i parsed hparsed
      split at h
      · cases h
      · split at h
        · rename_i converted hconverted
          cases h
          exact Datetime.astimezone_other hconverted (fixed _ parsed _ hparsed)
        · cases h
    · cases h
  · cases h

/-- `CharField(max_length=limit)` lets through no longer text, no NUL character and no lone
surrogate. -/
def Drf.Bounded (cfg : Settings) (drf : Drf) : Prop :=
  ∀ limit value text, drf.charField limit value = .ok text → fitsColumn cfg limit (some text) = true

theorem charField_fits (bounded : drf.Bounded cfg) {limit : Nat} {value : Json} {text : String}
    (h : charField drf limit value = .ok text) : fitsColumn cfg limit (some text) = true := by
  unfold charField at h
  cases hfield : drf.charField limit value with
  | ok text' =>
    rw [hfield] at h
    cases h
    exact bounded limit value _ hfield
  | error messages =>
    rw [hfield] at h
    cases h

theorem referenceSerializer_fits (bounded : drf.Bounded cfg) {data : Json} {reference : Reference}
    (h : referenceSerializer drf data = .ok reference) :
    fitsColumn cfg 160 (some reference.id) = true ∧
      fitsColumn cfg 200 (some reference.name) = true := by
  obtain ⟨fields, hparse⟩ := strictSerializer_ok h
  split at hparse
  · rename_i id name hid hname
    cases hparse
    obtain ⟨_, hid⟩ := fieldValue_ok hid
    obtain ⟨_, hname⟩ := fieldValue_ok hname
    exact ⟨charField_fits bounded hid, charField_fits bounded hname⟩
  · cases hparse

theorem classSerializer_fits (bounded : drf.Bounded cfg) {data : Json} {classInfo : ClassInfo}
    (h : classSerializer drf data = .ok classInfo) :
    fitsColumn cfg 160 (some classInfo.id) = true := by
  obtain ⟨fields, hparse⟩ := strictSerializer_ok h
  split at hparse
  · rename_i id date hid hdate
    cases hparse
    obtain ⟨_, hid⟩ := fieldValue_ok hid
    exact charField_fits bounded hid
  · cases hparse

/-- What holds of a body the create serializer accepts. -/
structure CreateValues.Valid (cfg : Settings) (values : CreateValues) : Prop where
  start : values.startAt = .inZone cfg.timeZone values.startAt.instant
  end_ : values.endAt = .inZone cfg.timeZone values.endAt.instant
  title : fitsColumn cfg 250 (some values.meetingTitle) = true
  teacher : fitsColumn cfg 160 (some values.teacher.id) = true ∧
    fitsColumn cfg 200 (some values.teacher.name) = true
  batch : fitsColumn cfg 160 (some values.batch.id) = true ∧
    fitsColumn cfg 200 (some values.batch.name) = true
  classId : fitsColumn cfg 160 (some values.classInfo.id) = true

theorem createMeetingSerializer_valid (bounded : drf.Bounded cfg) (fixed : drf.FixedOffsets)
    {data : Json} {values : CreateValues}
    (h : createMeetingSerializer cfg drf data = .ok values) : values.Valid cfg := by
  obtain ⟨fields, hparse⟩ := strictSerializer_ok h
  split at hparse
  · rename_i htitle hteacher hbatch hstart hend hclass
    split at hparse
    · cases hparse
      obtain ⟨_, htitle⟩ := fieldValue_ok htitle
      obtain ⟨_, hteacher⟩ := fieldValue_ok hteacher
      obtain ⟨_, hbatch⟩ := fieldValue_ok hbatch
      obtain ⟨_, hstart⟩ := fieldValue_ok hstart
      obtain ⟨_, hend⟩ := fieldValue_ok hend
      obtain ⟨_, hclass⟩ := fieldValue_ok hclass
      exact ⟨awareDateTimeField_zone fixed hstart, awareDateTimeField_zone fixed hend,
        charField_fits bounded htitle, referenceSerializer_fits bounded hteacher,
        referenceSerializer_fits bounded hbatch, classSerializer_fits bounded hclass⟩
    · cases hparse
  · cases hparse

theorem availabilitySerializer_zone (fixed : drf.FixedOffsets) {data : Json}
    {values : AvailabilityValues} (h : availabilitySerializer cfg drf data = .ok values) :
    values.startAt.1 = .inZone cfg.timeZone values.startAt.1.instant ∧
      values.endAt.1 = .inZone cfg.timeZone values.endAt.1.instant := by
  obtain ⟨fields, hparse⟩ := strictSerializer_ok h
  split at hparse
  · rename_i hstart hend
    split at hparse
    · cases hparse
      obtain ⟨_, hstart⟩ := fieldValue_ok hstart
      obtain ⟨_, hend⟩ := fieldValue_ok hend
      exact ⟨awareDateTimeField_zone fixed hstart, awareDateTimeField_zone fixed hend⟩
    · cases hparse
  · cases hparse

end Fields

/-- Every room that can take a slot in `s` can take it in `s'`. -/
structure Store.Spares (s s' : Store) : Prop where
  rooms : s'.rooms = s.rooms
  systemPreset : s'.systemPreset = s.systemPreset
  clientPreset : s'.clientPreset = s.clientPreset
  free : ∀ room slot, s.FreeFor room slot → s'.FreeFor room slot
  counted : ∀ room, s'.meetings.rows.countP (Meeting.counted room) ≤
    s.meetings.rows.countP (Meeting.counted room)

/-- The new row takes no room that the old one did not take. -/
structure Meeting.Spares (old row : Meeting) : Prop where
  blocks : ∀ room slot, old.blocks room slot = false → row.blocks room slot = false
  counted : ∀ room, row.counted room = true → old.counted room = true

section Spared
variable {cfg : Settings} {s s' s'' : Store} {row old : Meeting}

theorem Store.Spares.trans (h : s.Spares s') (h' : s'.Spares s'') : s.Spares s'' where
  rooms := h'.rooms.trans h.rooms
  systemPreset := h'.systemPreset.trans h.systemPreset
  clientPreset := h'.clientPreset.trans h.clientPreset
  free := fun room slot free => h'.free room slot (h.free room slot free)
  counted := fun room => (h'.counted room).trans (h.counted room)

theorem Store.Spares.eligible (h : s.Spares s') {client : ClientId} {slot : BoundedRange Int}
    {room : Room} (eligible : s.Eligible cfg client slot room) :
    s'.Eligible cfg client slot room where
  stored := by
    rw [h.rooms]
    exact eligible.stored
  active := eligible.active
  proper := eligible.proper
  configured := by
    have same := eligible.configured
    unfold MeetingGateway.configured at same ⊢
    rw [h.systemPreset, h.clientPreset]
    exact same
  free := h.free room.id slot eligible.free
  below := fun limit hlimit => (h.counted room.id).trans_lt (eligible.below limit hlimit)

/-- Saving a row that takes no more than the one it replaces. -/
theorem spares_putMeeting (stored : s.meeting? row.id = some old) (h : old.Spares row) :
    s.Spares (s.putMeeting row) where
  rooms := rfl
  systemPreset := rfl
  clientPreset := rfl
  free := by
    intro room slot free m hm
    rcases KeyedTable.mem_put.mp hm with ⟨hmem, _⟩ | ⟨rfl, _⟩
    · exact free m hmem
    · exact h.blocks room slot (free old (KeyedTable.get?_eq_some.mp stored).1)
  counted := by
    intro room
    have count := KeyedTable.countP_put s.meetings (Meeting.counted room) stored
    have le := h.counted room
    show (s.meetings.put row).rows.countP _ ≤ _
    cases hrow : row.counted room with
    | true =>
      rw [hrow, le hrow] at count
      omega
    | false =>
      rw [hrow] at count
      simp only [Bool.false_eq_true, if_false] at count
      omega

theorem Store.mem_insertMeeting (fresh : s.meeting? row.id = none) {m : Meeting} :
    m ∈ (s.insertMeeting row fresh).meetings.rows ↔ m ∈ s.meetings.rows ∨ m = row := by
  show m ∈ (s.meetings.insert row fresh).rows ↔ _
  exact KeyedTable.mem_insert

theorem spares_insertMeeting (fresh : s.meeting? row.id = none) (roomless : row.room = none) :
    s.Spares (s.insertMeeting row fresh) where
  rooms := rfl
  systemPreset := rfl
  clientPreset := rfl
  free := by
    intro room slot free m hm
    rcases (Store.mem_insertMeeting fresh).mp hm with hmem | rfl
    · exact free m hmem
    · simp [Meeting.blocks, roomless]
  counted := by
    intro room
    have count := KeyedTable.countP_insert s.meetings (Meeting.counted room) fresh
    have none : row.counted room = false := by simp [Meeting.counted, roomless]
    rw [none] at count
    exact count.le

/-- And without the row the rooms are as free as with it. -/
theorem spares_without (fresh : s.meeting? row.id = none) :
    (s.insertMeeting row fresh).Spares s where
  rooms := rfl
  systemPreset := rfl
  clientPreset := rfl
  free := fun _ _ free m hm => free m ((Store.mem_insertMeeting fresh).mpr (Or.inl hm))
  counted := by
    intro room
    have count := KeyedTable.countP_insert s.meetings (Meeting.counted room) fresh
    show _ ≤ (s.meetings.insert row fresh).rows.countP _
    omega

end Spared

/-- The client may write, the body is accepted, and the class has no meeting yet. -/
structure FirstRequest (cfg : Settings) (drf : Drf) (store : Store) (request : PostRequest)
    (out : Outside) (values : CreateValues) : Prop where
  scope : request.scopes.contains "meeting:write" = true
  accepted : ∃ data, request.body.data = .ok data ∧
    createMeetingSerializer cfg drf data = .ok values
  first : ∀ m ∈ store.meetings.rows, m.keyed request.client values.classInfo.id = false
  fresh : store.meeting? out.pk = none

/-- The provider creates the meeting, and the texts of its answer can be stored. -/
def Delivers (cfg : Settings) (out : Outside) : Prop :=
  ∃ data token, providerCalls cfg out = .ok (data, token) ∧
    textsFit cfg (some data.calendarId) data.uniqueId data.meetingPanelAddress = true ∧
    data.startMeetingUrl.all cfg.encodable = true

section Creation
variable {cfg : Settings} {drf : Drf} {store : Store} {request : PostRequest} {out : Outside}
variable {values : CreateValues} {slot : BoundedRange Int} {room : Room}

theorem FirstRequest.post (h : FirstRequest cfg drf store request out values)
    (positive : values.startAt.instant < values.endAt.instant) :
    ∃ store', store'.meeting? out.pk = some (values.draft out.pk request.client out.now) ∧
      store.Spares store' ∧ store'.Spares store ∧
      MeetingListView.post cfg drf store request out = respond cfg request true out
        (provision cfg store' (values.draft out.pk request.client out.now) values out) := by
  have hregister := register_first h.first positive out.pk out.now
  refine ⟨store.insertMeeting (values.draft out.pk request.client out.now) h.fresh,
    Store.meeting?_insert_self h.fresh, spares_insertMeeting h.fresh rfl,
    spares_without h.fresh, ?_⟩
  refine accepted_post ⟨h.scope, h.accepted, ?_⟩
  simp only [registered, hregister]
  exact dif_pos h.fresh

/-- The insert of times that end before they start breaks a CHECK constraint. -/
theorem FirstRequest.post_unstored (h : FirstRequest cfg drf store request out values)
    (negative : ¬ values.startAt.instant < values.endAt.instant) :
    MeetingListView.post cfg drf store request out =
      (.error (.raised (.python .integrityError)), store) := by
  have checks : ¬ (values.draft out.pk request.client out.now).checks = true := by
    rw [draft_checks]
    exact negative
  have hregistered : registered store request values out = .error (.python .integrityError) := by
    have hregister : register store out.pk request.client values out.now =
        .error (.python .integrityError) := by
      simp only [register, keyed_none h.first]
      exact if_neg checks
    simp only [registered, hregister]
  obtain ⟨data, hdata, hvalues⟩ := h.accepted
  simp only [MeetingListView.post, h.scope, hdata, hvalues, hregistered]
  rfl

/-- Configuration of a room that is configured for a client. -/
theorem configured_config {client : ClientId} (h : configured cfg store room client = true) :
    ∃ config, resolveConfig cfg store.systemPreset (store.clientPreset client)
        room.defaultMeetingConfig = .ok config ∧
      config.get? "meetingType" = some (.str "instant") := by
  unfold configured at h
  split at h
  · cases h
  · split at h
    · split at h
      · cases h
      · split at h
        · rename_i config hconfig
          split at h
          · rename_i type htype
            have same : type = "instant" := by simpa using h
            exact ⟨config, hconfig, by rw [htype, same]⟩
          · cases h
        · cases h
    · cases h

theorem withTitle_meetingType (config : JsonObject) (title : String) :
    (withTitle config title).get? "meetingType" = config.get? "meetingType" := by
  simp [withTitle, OrderedDict.get?_set, OrderedDict.get?_erase]

/-- The row the PROVISIONING commit of a fresh draft leaves in the room. -/
def CreateValues.created (cfg : Settings) (values : CreateValues) (pk : MeetingId)
    (client : ClientId) (now : Int) (room : RoomId) (slot : BoundedRange Int)
    (config : JsonObject) : Meeting :=
  ((values.draft pk client now).reserve room values.startAt values.endAt slot now).toProvisioning
    cfg (withTitle config values.meetingTitle) "instant" now

theorem created_fits (valid : values.Valid cfg) (pk : MeetingId) (client : ClientId) (now : Int)
    (room : RoomId) (slot : BoundedRange Int) (config : JsonObject) :
    (values.created cfg pk client now room slot config).fitsColumns cfg = true := by
  have scheduled : fitsColumn cfg 16 (some "SCHEDULED") = true :=
    fitsColumn_ascii cfg (by decide) (by decide) (by decide)
  have instant : fitsColumn cfg 16 (some (upper "instant")) = true :=
    fitsColumn_ascii cfg (by decide) (by decide) (by decide)
  have absent : ∀ limit, fitsColumn cfg limit none = true := fun _ => rfl
  simp [Meeting.fitsColumns, CreateValues.created, Meeting.toProvisioning, Meeting.reserve,
    CreateValues.draft, valid.title, valid.teacher, valid.batch, valid.classId, scheduled, instant,
    absent]

theorem created_sameSlot (pk : MeetingId) (client : ClientId) (now : Int) (room : RoomId)
    (slot : BoundedRange Int) (config : JsonObject) :
    ((values.draft pk client now).reserve room values.startAt values.endAt slot now).SameSlot
      (values.created cfg pk client now room slot config) := ⟨rfl, rfl, rfl, rfl, rfl⟩

/-- The row holds nothing of the provider's yet. -/
structure Meeting.Unfilled (row : Meeting) : Prop where
  calendarId : row.providerCalendarId = none
  uniqueId : row.providerUniqueId = none
  panel : row.providerPanelAddress = none
  url : row.encryptedProviderStartUrl = none

/-- A draft that gets an eligible room is committed as PROVISIONING in it. -/
theorem commits_of_eligible (hslot : interval cfg values.startAt values.endAt = .ok slot)
    (valid : values.Valid cfg) {client : ClientId}
    (dated : values.startAt.date = values.classInfo.date)
    (eligible : store.Eligible cfg client slot room)
    (taken : reservable cfg values.startAt values.endAt = true)
    (allocated : allocateAnyRoom cfg (store.putMeeting (values.draft out.pk client out.now)) out.pk
      values.startAt values.endAt out.now = .ok ((values.draft out.pk client out.now).reserve
        room.id values.startAt values.endAt slot out.now)) :
    ∃ row after, Commits cfg store (values.draft out.pk client out.now) values out row after ∧
      row.Unfilled ∧ row.room = some room.id ∧ row.reservation = some slot := by
  obtain ⟨config, hconfig, htype⟩ := configured_config eligible.configured
  refine ⟨values.created cfg out.pk client out.now room.id slot config,
    store.putMeeting (values.created cfg out.pk client out.now room.id slot config), ?_,
    ⟨rfl, rfl, rfl, rfl⟩, rfl, rfl⟩
  have hgate : provisionGate (values.draft out.pk client out.now) values =
      .ok (.allocate false) := by
    simp [provisionGate, CreateValues.draft, dated]
  have hroom : store.room? room.id = some room :=
    KeyedTable.get?_eq_some.mpr ⟨eligible.stored, rfl⟩
  have hcreation : creationConfig cfg store ((values.draft out.pk client out.now).reserve
      room.id values.startAt values.endAt slot out.now) false = .ok config := by
    simp only [creationConfig, Meeting.reserve, Bool.false_eq_true, if_false, Option.bind_some,
      hroom]
    exact hconfig
  have hprovisioning : provisioning cfg store ((values.draft out.pk client out.now).reserve
      room.id values.startAt values.endAt slot out.now) false out.now =
        .ok (values.created cfg out.pk client out.now room.id slot config,
          withTitle config values.meetingTitle) := by
    have type : (withTitle config values.meetingTitle).get? "meetingType" =
        some (.str "instant") := (withTitle_meetingType ..).trans htype
    have titled : ((values.draft out.pk client out.now).reserve room.id values.startAt
        values.endAt slot out.now).meetingTitle = values.meetingTitle := rfl
    simp only [provisioning, hcreation, titled, type]
    rfl
  have checks : ((values.draft out.pk client out.now).reserve room.id values.startAt values.endAt
      slot out.now).checks = true := (reserve_checks hslot).trans taken
  have free : store.excluded ((values.draft out.pk client out.now).reserve room.id values.startAt
      values.endAt slot out.now) = false := not_excluded_of_free eligible.free
  have same : ((values.draft out.pk client out.now).reserve room.id values.startAt values.endAt
      slot out.now).SameSlot (values.created cfg out.pk client out.now room.id slot config) :=
    created_sameSlot ..
  exact .allocated hgate allocated hprovisioning (commit_of_fits (created_fits valid ..)
    (checks_of_sameSlot same rfl checks) (excluded_of_sameSlot same rfl free))

/-- The allocator's answer for a fresh draft, by the rooms that are eligible. -/
inductive DraftAnswer (cfg : Settings) (store : Store) (client : ClientId) (out : Outside)
    (values : CreateValues) (slot : BoundedRange Int) : Except Raised Meeting → Prop
  | reserved {room : Room} : store.Eligible cfg client slot room →
      reservable cfg values.startAt values.endAt = true →
      DraftAnswer cfg store client out values slot (.ok ((values.draft out.pk client
        out.now).reserve room.id values.startAt values.endAt slot out.now))
  | refused : (∃ room, store.Eligible cfg client slot room) →
      reservable cfg values.startAt values.endAt = false →
      DraftAnswer cfg store client out values slot (.error (.python .integrityError))
  | crowded : (¬ ∃ room, store.Eligible cfg client slot room) →
      DraftAnswer cfg store client out values slot (.error (.gateway noCapacity))

theorem draft_allocates (hslot : interval cfg values.startAt values.endAt = .ok slot)
    {client : ClientId}
    (askable : slot.reversed = false ∨ ∀ room ∈ store.activeRooms,
      configured cfg store room client = false)
    (stored : store.meeting? out.pk = some (values.draft out.pk client out.now)) :
    DraftAnswer cfg store client out values slot (allocateAnyRoom cfg
      (store.putMeeting (values.draft out.pk client out.now)) out.pk values.startAt values.endAt
      out.now) := by
  have same : (values.draft out.pk client out.now).Spares (values.draft out.pk client out.now) :=
    ⟨fun _ _ free => free, fun _ counted => counted⟩
  have view : (store.putMeeting (values.draft out.pk client out.now)).meeting?
      (values.draft out.pk client out.now).id = some (values.draft out.pk client out.now) :=
    Store.meeting?_putMeeting_self stored
  have back : (store.putMeeting (values.draft out.pk client out.now)).Spares store := by
    refine ⟨rfl, rfl, rfl, ?_, ?_⟩
    · intro room slot free m hm
      by_cases he : m.id = out.pk
      · have hsame := KeyedTable.get?_eq_some.mpr ⟨hm, he⟩
        have hdraft : m = values.draft out.pk client out.now :=
          Option.some.inj (hsame.symm.trans stored)
        rw [hdraft]
        rfl
      · exact free m (KeyedTable.mem_put.mpr (Or.inl ⟨hm, he⟩))
    · intro room
      have stored' : store.meetings.get? (values.draft out.pk client out.now).id =
          some (values.draft out.pk client out.now) := stored
      have count := KeyedTable.countP_put store.meetings (Meeting.counted room) stored'
      show _ ≤ (store.meetings.put (values.draft out.pk client out.now)).rows.countP _
      omega
  have forth := spares_putMeeting stored same
  rcases allocateAnyRoom_cases out.now hslot askable view rfl with
    ⟨room, eligible, taken, allocated⟩ | ⟨⟨room, eligible⟩, untaken, allocated⟩ |
    ⟨none, allocated⟩
  · exact allocated ▸ .reserved (back.eligible eligible) taken
  · exact allocated ▸ .refused ⟨room, back.eligible eligible⟩ untaken
  · refine allocated ▸ .crowded ?_
    rintro ⟨room, eligible⟩
    exact none ⟨room, forth.eligible eligible⟩

section Finish
variable {row : Meeting}

theorem finish_stores (committed : Committed cfg store row) {data : ProviderMeetingResult}
    {token : ProviderAuthResult} {startUrl : Option (Stored String)}
    (hcalls : providerCalls cfg out = .ok (data, token)) (takes : row.takes cfg (.ok data) = true)
    (sealed : row.startUrl cfg data = .ok startUrl) :
    finishProvision cfg store row out = (.ok (row.toReady data startUrl out.now, some token),
      store.putMeeting (row.toReady data startUrl out.now)) := by
  have hcommit := committed.commit (toReady_sameSlot data startUrl out.now)
  rw [toReady_fits committed.fits sealed, takes, if_pos rfl] at hcommit
  simp only [finishProvision, hcalls, committed.success sealed, hcommit]

theorem Meeting.Unfilled.takes (h : row.Unfilled) (data : ProviderMeetingResult) :
    row.takes cfg (.ok data) = true ↔
      textsFit cfg (some data.calendarId) data.uniqueId data.meetingPanelAddress = true ∧
        data.startMeetingUrl.all cfg.encodable = true := by
  simp [Meeting.takes, Meeting.sealsUrl, h.calendarId, h.uniqueId, h.panel, h.url, orElse, present]

/-- A start URL that was encrypted here can be read back. -/
theorem Meeting.Unfilled.reads (h : row.Unfilled) {data : ProviderMeetingResult}
    {stored : Stored String} (sealed : row.startUrl cfg data = .ok (some stored)) :
    ∃ url, decrypt cfg.keyring stored = .ok url := by
  unfold Meeting.startUrl at sealed
  rw [h.url] at sealed
  cases hnew : data.startMeetingUrl with
  | none =>
    rw [hnew] at sealed
    cases sealed
  | some new =>
    rw [hnew] at sealed
    dsimp only at sealed
    split at sealed
    · cases sealed
    · cases hencrypt : encrypt cfg new with
      | error e =>
        rw [hencrypt] at sealed
        cases sealed
      | ok stored' =>
        rw [hencrypt] at sealed
        cases sealed
        exact ⟨new, decrypt_encrypt hencrypt⟩

/-- What the client is told when the provider does not deliver is no lack of capacity. -/
theorem finish_undelivered (committed : Committed cfg store row) (unfilled : row.Unfilled)
    (undelivered : ¬ Delivers cfg out) :
    ∃ e, (finishProvision cfg store row out).1 = .error e ∧ (e.status = 422 ∨ 500 ≤ e.status) := by
  by_cases settles : SettlesAs cfg out row (providerCalls cfg out)
  · cases hcalls : providerCalls cfg out with
    | ok found =>
      obtain ⟨data, token⟩ := found
      rw [hcalls] at settles
      have takes : row.takes cfg (.ok data) = true := settles
      exact absurd ⟨data, token, hcalls, unfilled.takes data |>.mp takes⟩ undelivered
    | error e =>
      cases e with
      | provider p =>
        refine ⟨_, finish_failed committed hcalls settles, ?_⟩
        unfold Raised.status providerFailure
        cases p.code <;> simp
      | gateway e =>
        rw [hcalls] at settles
        exact settles.elim
      | python e =>
        rw [hcalls] at settles
        exact settles.elim
  · obtain ⟨e, he, internal⟩ := finish_unsettled committed settles
    exact ⟨e, he, Or.inr internal.ge⟩

/-- The answer for a new meeting that is ready. -/
theorem respond_ready (unfilled : row.Unfilled) {data : ProviderMeetingResult}
    {startUrl : Option (Stored String)} (sealed : row.startUrl cfg data = .ok startUrl)
    (token : ProviderAuthResult) (after : Store) : responseStatus (respond cfg request true out
      (.ok (row.toReady data startUrl out.now, some token), after)).1 = 201 := by
  have shown : ∀ token, ∃ answer,
      representation cfg (row.toReady data startUrl out.now) token = .ok answer := by
    intro token
    unfold representation
    split
    · rename_i stored hstored
      have same : startUrl = some stored := hstored
      subst same
      obtain ⟨url, hurl⟩ := unfilled.reads sealed
      exact ⟨_, by rw [hurl]; rfl⟩
    · exact ⟨_, rfl⟩
  have told : ∃ told, responseToken request (some token) out = .ok told := by
    unfold responseToken
    split
    · exact ⟨_, rfl⟩
    · exact ⟨_, rfl⟩
  obtain ⟨told, htold⟩ := told
  obtain ⟨answer, hanswer⟩ := shown told
  simp only [respond, htold, hanswer, if_true]
  rfl

end Finish

theorem availability_ok {client : ClientId} {start end_ : Datetime} {offer : Availability}
    (h : availability cfg store client start end_ = .ok offer) :
    ∃ slot, interval cfg start end_ = .ok slot ∧ offer.startAt = start.instant ∧
      offer.endAt = end_.instant ∧
      (slot.reversed = false ∨ ∀ room ∈ store.activeRooms,
        configured cfg store room client = false) := by
  unfold availability at h
  split at h
  · cases h
  · rename_i slot hslot
    split at h
    · cases h
    · rename_i available hany
      cases h
      refine ⟨slot, hslot, rfl, rfl, ?_⟩
      cases reversed : slot.reversed with
      | false => exact Or.inl rfl
      | true =>
        rw [anyAvailable_reversed reversed] at hany
        split at hany
        · cases hany
        · rename_i unconfigured
          right
          simpa using unconfigured

/-- What an offer says about the rooms, for a request with the same times. -/
theorem offer_means (bounded : drf.Bounded cfg) (fixed : drf.FixedOffsets)
    {asked : AvailabilityRequest} {offer : Availability}
    (offered : AvailabilityView.get cfg drf store asked = .ok offer)
    (accepted : ∃ data, request.body.data = .ok data ∧
      createMeetingSerializer cfg drf data = .ok values)
    (times : values.startAt.instant = offer.startAt ∧ values.endAt.instant = offer.endAt) :
    ∃ slot, interval cfg values.startAt values.endAt = .ok slot ∧
      (slot.reversed = false ∨ ∀ room ∈ store.activeRooms,
        configured cfg store room asked.client = false) ∧
      (offer.available = true ↔ ∃ room, store.Eligible cfg asked.client slot room) := by
  obtain ⟨_, _, hvalues⟩ := accepted
  have valid := createMeetingSerializer_valid bounded fixed hvalues
  obtain ⟨_, asks, hasks, hanswer⟩ := AvailabilityView.get_ok.mp offered
  obtain ⟨hstart, hend⟩ := availabilitySerializer_zone fixed hasks
  obtain ⟨slot, hslot, atStart, atEnd, askable⟩ := availability_ok hanswer
  have sameStart : values.startAt = asks.startAt.1 := by
    rw [valid.start, times.1, atStart, ← hstart]
  have sameEnd : values.endAt = asks.endAt.1 := by
    rw [valid.end_, times.2, atEnd, ← hend]
  have means : (∃ a, availability cfg store asked.client asks.startAt.1 asks.endAt.1 = .ok a ∧
      a.available = true) ↔ ∃ room, store.Eligible cfg asked.client slot room :=
    availability_iff_eligible hslot
  rw [sameStart, sameEnd]
  refine ⟨slot, hslot, askable, ?_⟩
  rw [← means, hanswer]
  simp

/-- How the first request for a class is answered. -/
inductive FirstAnswer (cfg : Settings) (store : Store) (request : PostRequest) (out : Outside)
    (values : CreateValues) (slot : BoundedRange Int) :
    Except ApiError (MeetingData × Nat) × Store → Prop
  | unstored {after : Store} : ¬ values.startAt.instant < values.endAt.instant →
      FirstAnswer cfg store request out values slot
        (.error (.raised (.python .integrityError)), after)
  | misdated {after : Store} : values.startAt.date ≠ values.classInfo.date →
      FirstAnswer cfg store request out values slot
        (.error (.raised (.gateway classDateMismatch)), after)
  | crowded {after : Store} : values.startAt.instant < values.endAt.instant →
      values.startAt.date = values.classInfo.date →
      (¬ ∃ room, store.Eligible cfg request.client slot room) →
      FirstAnswer cfg store request out values slot
        (.error (.raised (.gateway noCapacity)), after)
  | refused {after : Store} : values.startAt.date = values.classInfo.date →
      (∃ room, store.Eligible cfg request.client slot room) →
      reservable cfg values.startAt values.endAt = false →
      FirstAnswer cfg store request out values slot
        (.error (.raised (.python .integrityError)), after)
  | undelivered {e : Raised} {after : Store} : values.startAt.date = values.classInfo.date →
      (∃ room, store.Eligible cfg request.client slot room) →
      reservable cfg values.startAt values.endAt = true → ¬ Delivers cfg out →
      e.status = 422 ∨ 500 ≤ e.status →
      FirstAnswer cfg store request out values slot (.error (.raised e), after)
  | served {answer : Except ApiError (MeetingData × Nat) × Store} {row : Meeting} {room : Room} :
      values.startAt.date = values.classInfo.date →
      store.Eligible cfg request.client slot room →
      reservable cfg values.startAt values.endAt = true → Delivers cfg out →
      responseStatus answer.1 = 201 → answer.2.meeting? out.pk = some row → row.status = .ready →
      row.reservationActive = true → row.room = some room.id → row.reservation = some slot →
      FirstAnswer cfg store request out values slot answer

theorem respond_eq_error {p : Provision} {e : Raised} (h : p.1 = .error e) :
    respond cfg request true out p = (.error (.raised e), p.2) := by
  obtain ⟨outcome, after⟩ := p
  have same : outcome = .error e := h
  subst same
  rfl

theorem provision_misdated {client : ClientId}
    (misdated : values.startAt.date ≠ values.classInfo.date) :
    (provision cfg store (values.draft out.pk client out.now) values out).1 =
      .error (.gateway classDateMismatch) := by
  have hgate : provisionGate (values.draft out.pk client out.now) values =
      .error classDateMismatch := by
    simp [provisionGate, CreateValues.draft, misdated]
  simp only [provision, hgate]

theorem provision_unallocated {client : ClientId} {e : Raised}
    (dated : values.startAt.date = values.classInfo.date)
    (allocated : allocateAnyRoom cfg (store.putMeeting (values.draft out.pk client out.now)) out.pk
      values.startAt values.endAt out.now = .error e) :
    (provision cfg store (values.draft out.pk client out.now) values out).1 = .error e := by
  have hgate : provisionGate (values.draft out.pk client out.now) values =
      .ok (.allocate false) := by
    simp [provisionGate, CreateValues.draft, dated]
  have view : allocateAnyRoom cfg (store.putMeeting
      ((values.draft out.pk client out.now).toDraft out.now))
      (values.draft out.pk client out.now).id values.startAt values.endAt out.now =
        .error e := allocated
  simp only [provision, hgate, view]

theorem first_answer (bounded : drf.Bounded cfg) (fixed : drf.FixedOffsets)
    (first : FirstRequest cfg drf store request out values)
    (hslot : interval cfg values.startAt values.endAt = .ok slot)
    (askable : slot.reversed = false ∨ ∀ room ∈ store.activeRooms,
      configured cfg store room request.client = false) :
    FirstAnswer cfg store request out values slot
      (MeetingListView.post cfg drf store request out) := by
  by_cases positive : values.startAt.instant < values.endAt.instant
  swap
  · rw [first.post_unstored positive]
    exact .unstored positive
  obtain ⟨_, _, hvalues⟩ := first.accepted
  have valid := createMeetingSerializer_valid bounded fixed hvalues
  obtain ⟨store', stored, spares, back, hpost⟩ := first.post positive
  rw [hpost]
  by_cases dated : values.startAt.date = values.classInfo.date
  swap
  · rw [respond_eq_error (provision_misdated dated)]
    exact .misdated dated
  have askable' : slot.reversed = false ∨ ∀ room ∈ store'.activeRooms,
      configured cfg store' room request.client = false := by
    unfold Store.activeRooms configured at askable ⊢
    rw [spares.rooms, spares.systemPreset, spares.clientPreset]
    exact askable
  have answers := draft_allocates hslot askable' stored
  generalize allocated : allocateAnyRoom cfg
    (store'.putMeeting (values.draft out.pk request.client out.now)) out.pk values.startAt
    values.endAt out.now = answer at answers
  cases answers with
  | crowded none =>
    rw [respond_eq_error (provision_unallocated dated allocated)]
    refine .crowded positive dated ?_
    rintro ⟨room, eligible⟩
    exact none ⟨room, spares.eligible eligible⟩
  | refused some untaken =>
    obtain ⟨room, eligible⟩ := some
    rw [respond_eq_error (provision_unallocated dated allocated)]
    exact .refused dated ⟨room, back.eligible eligible⟩ untaken
  | @reserved room eligible taken =>
    obtain ⟨row, after, commits, unfilled, hroom, hreservation⟩ :=
      commits_of_eligible hslot valid dated eligible taken allocated
    obtain ⟨committed, hid⟩ := commits_committed stored commits
    rw [commits_provision commits]
    by_cases delivers : Delivers cfg out
    · have delivered := delivers
      obtain ⟨data, token, hcalls, fits⟩ := delivered
      have takes : row.takes cfg (.ok data) = true := (unfilled.takes data).mpr fits
      obtain ⟨startUrl, sealed⟩ := startUrl_iff.mpr (Bool.and_eq_true_iff.mp takes).2
      have saved : (after.putMeeting (row.toReady data startUrl out.now)).meeting? row.id =
          some (row.toReady data startUrl out.now) :=
        Store.meeting?_putMeeting_self committed.stored
      rw [hid] at saved
      have ready : (row.toReady data startUrl out.now).status = .ready := rfl
      rw [finish_stores committed hcalls takes sealed]
      refine .served dated (back.eligible eligible) taken delivers
        (respond_ready unfilled sealed token _) ?_ ready committed.active hroom hreservation
      rw [respond_store]
      exact saved
    · obtain ⟨e, he, status⟩ := finish_undelivered committed unfilled delivers
      rw [respond_eq_error he]
      exact .undelivered dated ⟨room, back.eligible eligible⟩ taken delivers status

theorem error_not_created {e : Raised} (h : e.status ≠ 201) :
    responseStatus (.error (.raised e)) ≠ 201 := by
  rw [responseStatus_raised]
  exact h

section Answered
variable {answer : Except ApiError (MeetingData × Nat) × Store}

theorem FirstAnswer.created_iff (answered : FirstAnswer cfg store request out values slot answer)
    (hslot : interval cfg values.startAt values.endAt = .ok slot) :
    responseStatus answer.1 = 201 ↔ values.startAt.date = values.classInfo.date ∧
      (∃ room, store.Eligible cfg request.client slot room) ∧
        reservable cfg values.startAt values.endAt = true ∧ Delivers cfg out := by
  cases answered with
  | unstored negative =>
    refine iff_of_false (error_not_created (by decide)) ?_
    rintro ⟨_, _, taken, _⟩
    obtain ⟨_, _, _, _, positive, _⟩ := reservable_ok hslot taken
    exact negative positive
  | misdated misdated =>
    exact iff_of_false (error_not_created (by decide)) fun h => misdated h.1
  | crowded _ _ none =>
    exact iff_of_false (error_not_created (by decide)) fun h => none h.2.1
  | refused _ _ untaken =>
    refine iff_of_false (error_not_created (by decide)) ?_
    rintro ⟨_, _, taken, _⟩
    rw [untaken] at taken
    cases taken
  | undelivered _ _ _ delivers status =>
    exact iff_of_false (error_not_created (by omega)) fun h => delivers h.2.2.2
  | served dated eligible taken delivers created =>
    exact iff_of_true created ⟨dated, ⟨_, eligible⟩, taken, delivers⟩

theorem FirstAnswer.refused_iff (answered : FirstAnswer cfg store request out values slot answer) :
    answer.1 = .error (.raised (.gateway noCapacity)) ↔
      values.startAt.instant < values.endAt.instant ∧
        values.startAt.date = values.classInfo.date ∧
        ¬ ∃ room, store.Eligible cfg request.client slot room := by
  cases answered with
  | unstored negative => exact iff_of_false (by rintro ⟨⟩) fun h => negative h.1
  | misdated misdated => exact iff_of_false (by rintro ⟨⟩) fun h => misdated h.2.1
  | crowded positive dated none => exact iff_of_true rfl ⟨positive, dated, none⟩
  | refused _ some _ => exact iff_of_false (by rintro ⟨⟩) fun h => h.2.2 some
  | undelivered _ some _ _ status =>
    refine iff_of_false ?_ fun h => h.2.2 some
    intro refused
    cases refused
    revert status
    decide
  | served _ eligible _ _ created =>
    refine iff_of_false ?_ fun h => h.2.2 ⟨_, eligible⟩
    intro refused
    rw [refused] at created
    cases created

theorem FirstAnswer.not_taken (answered : FirstAnswer cfg store request out values slot answer)
    (dated : values.startAt.date = values.classInfo.date)
    (some : ∃ room, store.Eligible cfg request.client slot room)
    (untaken : reservable cfg values.startAt values.endAt = false) :
    answer.1 = .error (.raised (.python .integrityError)) := by
  cases answered with
  | unstored _ => rfl
  | misdated misdated => exact absurd dated misdated
  | crowded _ _ none => exact absurd some none
  | refused _ _ _ => rfl
  | undelivered _ _ taken _ _ =>
    rw [taken] at untaken
    cases untaken
  | served _ _ taken _ _ _ _ _ _ _ =>
    rw [taken] at untaken
    cases untaken

theorem FirstAnswer.row (answered : FirstAnswer cfg store request out values slot answer)
    (created : responseStatus answer.1 = 201) :
    ∃ row room, answer.2.meeting? out.pk = some row ∧ row.status = .ready ∧
      row.reservationActive = true ∧ row.room = some room.id ∧ row.reservation = some slot ∧
      store.Eligible cfg request.client slot room := by
  cases answered with
  | unstored _ => exact absurd created (error_not_created (by decide))
  | misdated _ => exact absurd created (error_not_created (by decide))
  | crowded _ _ _ => exact absurd created (error_not_created (by decide))
  | refused _ _ _ => exact absurd created (error_not_created (by decide))
  | undelivered _ _ _ _ status => exact absurd created (error_not_created (by omega))
  | served _ eligible _ _ _ stored ready active hroom hreservation =>
    exact ⟨_, _, stored, ready, active, hroom, hreservation, eligible⟩

end Answered

end Creation

/-- The framework's text field with its checks for NUL characters and surrogates. -/
def exampleBoundedDrf : Drf where
  charField := fun limit value =>
    match exampleDrf.charField limit value with
    | .ok text =>
      if fitsColumn exampleSettings limit (some text) then .ok text
      else .error ["Null characters are not allowed."]
    | .error messages => .error messages
  dateField := exampleDrf.dateField
  parseDatetime := exampleDrf.parseDatetime

theorem exampleBoundedDrf_bounded : exampleBoundedDrf.Bounded exampleSettings := by
  intro limit value text h
  simp only [exampleBoundedDrf] at h
  split at h
  · split at h
    · rename_i fits
      cases h
      exact fits
    · cases h
  · cases h

theorem exampleBoundedDrf_fixed : exampleBoundedDrf.FixedOffsets := by
  intro text parsed zone h
  simp only [exampleBoundedDrf, exampleDrf] at h
  split at h
  · cases h
    simp [Datetime.utc]
  · split at h
    · cases h
      simp [Datetime.utc]
    · cases h

/-- The third hour of the 25th in the service time zone. -/
def exampleAsked : AvailabilityRequest :=
  ⟨7, ["room:read"], [("start_at", "2026-09-24T20:00:00+00:00"),
    ("end_at", "2026-09-24T21:00:00+00:00")]⟩

def exampleOffer : Availability where
  startAt := 739882 * dayMicroseconds + 20 * 60 * minuteMicroseconds
  endAt := 739882 * dayMicroseconds + 21 * 60 * minuteMicroseconds
  available := true

def exampleDelivery : Outside :=
  { exampleOutside 1 with
    token := .issued exampleToken
    start := exampleCreated }

/-- The request's values, in the service time zone. -/
def exampleMorning : CreateValues where
  meetingTitle := "Physics"
  teacher := ⟨"T-001", "Teacher"⟩
  batch := ⟨"B-001", "Batch"⟩
  classInfo := ⟨"CLS-001", 739883⟩
  startAt := .inZone asiaDhaka (739882 * dayMicroseconds + 20 * 60 * minuteMicroseconds)
  endAt := .inZone asiaDhaka (739882 * dayMicroseconds + 21 * 60 * minuteMicroseconds)
  aware := ⟨rfl, rfl⟩
  ordered := by decide

theorem exampleMorning_first : FirstRequest exampleSettings exampleBoundedDrf exampleStore
    (exampleRequest "2026-09-25") exampleDelivery exampleMorning where
  scope := by decide
  accepted := ⟨_, rfl, rfl⟩
  first := by
    intro m hm
    cases hm
  fresh := rfl

theorem exampleDelivery_delivers : Delivers exampleSettings exampleDelivery :=
  ⟨⟨"cal-1", some "https://meet.convay.com/panel", some "https://meet.convay.com/start", none⟩,
    exampleToken, rfl, by decide, by decide⟩

/-- The step commits no reservation, edits no room or preset and is no late error. -/
def World.spares (w : World) : Label → Bool
  | .on pk op =>
    match op with
    | .commit _ _ => false
    | op => errorAwaited w (.on pk op)
  | .register _ _ _ _ _ => true
  | _ => false

section Standing
variable {cfg : Settings} {accounts : RoomId → Option String} {w w' : World}

/-- A row that keeps its room and slot and goes to no status that holds more. -/
theorem spares_of_same {old row : Meeting} (room : row.room = old.room)
    (reservation : row.reservation = old.reservation)
    (active : row.reservationActive = true → old.reservationActive = true)
    (counts : row.status.countsTowardLimit = true → old.status.countsTowardLimit = true) :
    old.Spares row where
  blocks := by
    intro id slot free
    cases hrow : row.reservationActive with
    | false => simp [Meeting.blocks, hrow]
    | true =>
      simp only [Meeting.blocks, active hrow, Bool.and_true] at free
      simp only [Meeting.blocks, hrow, room, reservation, Bool.and_true]
      exact free
  counted := by
    intro id h
    simp only [Meeting.counted, Bool.and_eq_true, decide_eq_true_eq] at h ⊢
    exact ⟨room ▸ h.1, counts h.2⟩

theorem Upkeep.spares {m row : Meeting} {s done : Session} {op : Operation}
    (sound : MeetingGateway.Sound cfg accounts m s) (upkeep : Upkeep cfg m s op row done) :
    m.Spares row := by
  have held := sound.row.active
  cases upkeep with
  | sweep hs => exact spares_of_same rfl rfl id fun _ => by rw [hs]; rfl
  | cancelAgain _ => exact spares_of_same rfl rfl id id
  | cancel _ => exact spares_of_same rfl rfl (fun h => by cases h) fun h => by cases h
  | touch _ => exact spares_of_same rfl rfl id id
  | recover hs _ _ _ =>
    rw [hs] at held
    exact spares_of_same rfl rfl (fun _ => held) fun _ => by rw [hs]; rfl
  | confirmEnded _ => exact spares_of_same rfl rfl (fun h => by cases h) fun h => by cases h

theorem Status.awaitsOutcome_holds (s : Status) :
    s.awaitsOutcome = true → s.retains = true ∧ s.countsTowardLimit = true := by
  cases s <;> decide

theorem recordFailure_spares {m : Meeting} {s : Session}
    (sound : MeetingGateway.Sound cfg accounts m s) (awaits : m.status.awaitsOutcome = true)
    (e : ProviderError) (now : Int) : m.Spares (m.recordFailure e now) := by
  obtain ⟨retains, counts⟩ := m.status.awaitsOutcome_holds awaits
  have same : m.SameSlot (m.recordFailure e now) := recordFailure_sameSlot e now
  have held : m.reservationActive = true := sound.row.active.trans retains
  exact spares_of_same same.room same.reservation (fun _ => held) fun _ => counts

theorem Move.spares {sc : Scene} {op : Operation} {row : Meeting} {done failed : Session}
    (sound : MeetingGateway.Sound cfg accounts sc.row sc.session)
    (move : Move cfg sc op (.write row done failed)) (commits : ∀ r now, op ≠ .commit r now)
    (awaited : ∀ r now values flight e, op = .finish r now →
      sc.session.requests r = some ⟨values, .calling flight⟩ → flight.stage = .failed e →
      sc.row.status.awaitsOutcome = true) : sc.row.Spares row := by
  cases move with
  | provision _ _ _ _ _ => exact absurd rfl (commits _ _)
  | failure _ hrequest stage =>
    exact recordFailure_spares sound (awaited _ _ _ _ _ rfl hrequest stage) _ _
  | success _ _ _ awaits _ =>
    exact spares_of_same rfl rfl id fun _ => (sc.row.status.awaitsOutcome_holds awaits).2
  | upkeep _ hup => exact hup.spares sound

theorem spares_refl (s : Store) : s.Spares s :=
  ⟨rfl, rfl, rfl, fun _ _ free => free, fun _ => le_rfl⟩

theorem step_spares {store : Store} (reached : Reached cfg store w) {l : Label}
    (spares : w.spares l = true) (h : World.step cfg w l = some w') : w.store.Spares w'.store := by
  have sound := reached_sound reached
  cases step_change h with
  | refused _ => exact spares_refl _
  | created fresh _ => exact spares_insertMeeting fresh rfl
  | joined _ _ _ _ => exact spares_refl _
  | @operated op row effect stored move =>
    have hrow := sound.rows row stored
    have settled := settle_settled w row.id effect
    have hid := Sound.move (w.scene row) hrow sound.rooms move
    generalize w.settle row.id effect = w' at settled
    cases settled with
    | quiet => exact spares_refl _
    | unsaved _ => exact spares_refl _
    | @saved row' done failed _ _ =>
      have same : row'.id = row.id := hid.1
      have stored' : w.store.meeting? row'.id = some row := by
        rw [same]
        exact stored
      refine spares_putMeeting stored' (move.spares hrow ?_ ?_)
      · rintro r now rfl
        cases spares
      · rintro r now values flight e rfl hrequest stage
        have awaited : errorAwaited w (.on row.id (.finish r now)) = true := spares
        rw [errorAwaited_failed stored hrequest stage] at awaited
        exact awaited
  | roomEdited _ => cases spares
  | systemPresetEdited => cases spares
  | clientPresetEdited => cases spares

/-- A slot that is offered on a store is offered on every store that spares its rooms. -/
theorem availability_spared {s s' : Store} (spared : s.Spares s') {client : ClientId}
    {start end_ : Datetime} {offer : Availability}
    (offered : availability cfg s client start end_ = .ok offer)
    (available : offer.available = true) : availability cfg s' client start end_ = .ok offer := by
  obtain ⟨slot, hslot, atStart, atEnd, _⟩ := availability_ok offered
  obtain ⟨room, eligible⟩ := (availability_iff_eligible hslot).mp ⟨_, offered, available⟩
  obtain ⟨offer', offered', available'⟩ :=
    (availability_iff_eligible hslot).mpr ⟨room, spared.eligible eligible⟩
  obtain ⟨_, _, atStart', atEnd', _⟩ := availability_ok offered'
  have same : offer' = offer := by
    cases offer
    cases offer'
    simp_all
  rw [offered', same]

/-- An offer made in a reachable world stands through every run without a PROVISIONING commit,
an edit of rooms or presets or a late error: the same question gets the same answer. -/
theorem offers_stand {store : Store} (reached : Reached cfg store w)
    (later : Reachable (restrict (fun w l => w.spares l = true) (World.step cfg)) w w')
    {drf : Drf} {asked : AvailabilityRequest} {offer : Availability}
    (offered : AvailabilityView.get cfg drf w.store asked = .ok offer)
    (available : offer.available = true) :
    AvailabilityView.get cfg drf w'.store asked = .ok offer := by
  have spared : w.store.Spares w'.store := by
    let Spared : World → Prop := fun v => w.store.Spares v.store
    have preserved : ∀ a l b,
        Reachable (restrict (fun w l => w.spares l = true) (World.step cfg)) w a → Spared a →
        restrict (fun w l => w.spares l = true) (World.step cfg) a l = some b → Spared b := by
      intro a l b between before hs
      obtain ⟨spares, step⟩ := restrict_eq_some.mp hs
      exact before.trans (step_spares (reached.trans between.of_restrict) spares step)
    exact later.invariant (spares_refl w.store) preserved
  obtain ⟨allowed, asks, hasks, hanswer⟩ := AvailabilityView.get_ok.mp offered
  exact AvailabilityView.get_ok.mpr
    ⟨allowed, asks, hasks, availability_spared spared hanswer available⟩

end Standing

/-- A class that is registered has no room yet. -/
def exampleRegistered : World :=
  exampleWorld [.register 0 1 7 (exampleValues "CLS-001" 10) 0] (by decide)

/-- Its request tries the room and is lost before it commits. -/
def exampleLost : List Label := [.on 1 (.begin 0), .on 1 (.attempt 0 0), .on 1 (.die 0)]

theorem exampleLost_runs : (run (restrict (fun w l => World.spares w l = true)
    (World.step exampleSettings)) exampleRegistered exampleLost).isSome = true := by decide

def exampleAfterLoss : World :=
  (run (restrict (fun w l => World.spares w l = true) (World.step exampleSettings))
    exampleRegistered exampleLost).get exampleLost_runs

/-- The offer survives a request that held the room's lock and died. -/
theorem offers_stand_after_loss :
    AvailabilityView.get exampleSettings exampleBoundedDrf exampleAfterLoss.store exampleAsked =
      .ok exampleOffer := by
  have offered : AvailabilityView.get exampleSettings exampleBoundedDrf exampleRegistered.store
      exampleAsked = .ok exampleOffer := rfl
  have later : Reachable (restrict (fun w l => World.spares w l = true)
      (World.step exampleSettings)) exampleRegistered exampleAfterLoss :=
    reachable_of_run (Option.some_get exampleLost_runs).symm
  exact offers_stand (exampleWorld_reached _) later offered rfl

end MeetingGateway
