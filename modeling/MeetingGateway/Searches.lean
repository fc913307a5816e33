import MeetingGateway.Diagnostics
import MeetingGateway.Views
import MeetingGateway.Library.Paging
import Mathlib.Data.Prod.Lex

/-!
# Searching meetings

`GET /api/v1/meetings/` and `GET /api/v1/meetings/{id}/`: the strict search serializer,
the filtered query in the order of `-created_at`, `-id`, its count and its slice, and what
`representation` shows of a row when there is no token. The count and the slice are two
queries, so each reads a snapshot of its own.
-/

namespace MeetingGateway

open Paging

/-- The framework's fields for a query text, and PostgreSQL's `UPPER`. -/
structure SearchLibrary extends Drf where
  textField : String → Except (List String) String
  uuidField : String → Except (List String) MeetingId
  integerField : String → Except (List String) Int
  databaseUpper : String → String

structure SearchFilter where
  id : Option MeetingId
  externalClassId : Option String
  teacherId : Option String
  teacherName : Option String
  batchId : Option String
  providerCalendarId : Option String
  status : Option Status
  classDate : Option Int
  startFrom : Option AwareDatetime
  startTo : Option AwareDatetime
  createdFrom : Option AwareDatetime
  createdTo : Option AwareDatetime

structure SearchValues where
  filter : SearchFilter
  page : { n : Nat // 1 ≤ n }
  pageSize : { n : Nat // 1 ≤ n ∧ n ≤ 100 }

/-- The choices of the `status` field. -/
def searchStatuses : List (String × Status) :=
  [("DRAFT", .draft), ("RESERVED", .reserved), ("PROVISIONING", .provisioning),
    ("READY", .ready), ("LIVE", .live), ("ENDED", .ended), ("CANCELLED", .cancelled),
    ("FAILED", .failed), ("PROVIDER_RESPONSE_INVALID", .providerResponseInvalid),
    ("PROVIDER_STATE_UNKNOWN", .providerStateUnknown)]

def statusField (value : String) : Except Detail Status :=
  match searchStatuses.lookup value with
  | some status => .ok status
  | none => .error (.texts ["\"" ++ value ++ "\" is not a valid choice."])

def positiveField (lib : SearchLibrary) (value : String) : Except Detail { n : Nat // 1 ≤ n } :=
  match lib.integerField value with
  | .error messages => .error (.texts messages)
  | .ok n =>
    if positive : 1 ≤ n then .ok ⟨n.toNat, by omega⟩
    else .error (.texts ["Ensure this value is greater than or equal to 1."])

def pageSizeField (lib : SearchLibrary) (value : String) :
    Except Detail { n : Nat // 1 ≤ n ∧ n ≤ 100 } :=
  match positiveField lib value with
  | .error detail => .error detail
  | .ok n =>
    if small : n.1 ≤ 100 then .ok ⟨n.1, n.2, small⟩
    else .error (.texts ["Ensure this value is less than or equal to 100."])

/-- A field that is not required: in a query an empty text counts as none. -/
def queryField {α : Type} (name : String) (query : OrderedDict String String)
    (parse : String → Except Detail α) : Except Detail (Option α) :=
  match query.get? name with
  | none => .ok none
  | some value => if value = "" then .ok none else (parse value).map some

/-- The errors of all fields are reported together. -/
def withField {α β : Type} (name : String)
    (done : Except (List (String × Detail)) (α → β)) (field : Except Detail α) :
    Except (List (String × Detail)) β :=
  match done, field with
  | .ok build, .ok value => .ok (build value)
  | .ok _, .error detail => .error [(name, detail)]
  | .error entries, field => .error (entries ++ fieldErrors name field)

def searchFields : List String :=
  ["id", "external_class_id", "teacher_id", "teacher_name", "batch_id", "provider_calendar_id",
    "status", "class_date", "start_from", "start_to", "created_from", "created_to", "page",
    "page_size"]

section Serializer
variable (cfg : Settings) (lib : SearchLibrary) (query : OrderedDict String String)

def textQuery (name : String) : Except Detail (Option String) :=
  queryField name query fun value => (lib.textField value).mapError Detail.texts

def timeQuery (name : String) : Except Detail (Option AwareDatetime) :=
  queryField name query fun value => awareDateTimeField cfg lib.toDrf (.str value)

def searchFilter : Except (List (String × Detail)) SearchFilter :=
  let id := queryField "id" query fun value => (lib.uuidField value).mapError Detail.texts
  let classDate := queryField "class_date" query fun value =>
    (lib.dateField (.str value)).mapError Detail.texts
  let filter := withField "id" (.ok SearchFilter.mk) id
  let filter := withField "external_class_id" filter (textQuery lib query "external_class_id")
  let filter := withField "teacher_id" filter (textQuery lib query "teacher_id")
  let filter := withField "teacher_name" filter (textQuery lib query "teacher_name")
  let filter := withField "batch_id" filter (textQuery lib query "batch_id")
  let filter :=
    withField "provider_calendar_id" filter (textQuery lib query "provider_calendar_id")
  let filter := withField "status" filter (queryField "status" query statusField)
  let filter := withField "class_date" filter classDate
  let filter := withField "start_from" filter (timeQuery cfg lib query "start_from")
  let filter := withField "start_to" filter (timeQuery cfg lib query "start_to")
  let filter := withField "created_from" filter (timeQuery cfg lib query "created_from")
  withField "created_to" filter (timeQuery cfg lib query "created_to")

/-- `SearchSerializer`, with its defaults for the page and its size. -/
def searchSerializer : Except Detail SearchValues :=
  if query.any fun entry => !searchFields.contains entry.1 then
    .error (nonFieldError "Unknown fields are not permitted.")
  else
    let page := (queryField "page" query (positiveField lib)).map fun n => n.getD ⟨1, by omega⟩
    let pageSize := (queryField "page_size" query (pageSizeField lib)).map fun n =>
      n.getD ⟨25, by omega⟩
    let values := (searchFilter cfg lib query).map SearchValues.mk
    (withField "page_size" (withField "page" values page) pageSize).mapError Detail.fields

end Serializer

/-- The committed rows at one moment, with the column `created_at`. -/
structure Snapshot where
  store : Store
  createdAt : MeetingId → Int

structure Record where
  meeting : Meeting
  createdAt : Int

/-- What `representation` shows of a row when there is no token. -/
structure Representation where
  id : MeetingId
  classId : String
  teacher : Reference
  batch : Reference
  meetingTitle : String
  classDate : Int
  scheduleType : String
  startAt : Option Int
  endAt : Option Int
  status : Status
  meetingType : String
  calendarId : Option String
  meetingPanelAddress : Option String
  createdAt : Int
  deriving DecidableEq

def Record.representation (r : Record) : Representation where
  id := r.meeting.id
  classId := r.meeting.externalClassId
  teacher := ⟨r.meeting.teacherId, r.meeting.teacherName⟩
  batch := ⟨r.meeting.batchId, r.meeting.batchName⟩
  meetingTitle := r.meeting.meetingTitle
  classDate := r.meeting.classDate
  scheduleType := lower r.meeting.scheduleType
  startAt := r.meeting.startAt
  endAt := r.meeting.endAt
  status := r.meeting.status
  meetingType := lower r.meeting.providerMeetingType
  calendarId := r.meeting.providerCalendarId
  meetingPanelAddress := r.meeting.providerPanelAddress
  createdAt := r.createdAt

/-- `order_by("-created_at", "-id")` is descending in this key. -/
def Record.key (r : Record) : Int ×ₗ MeetingId := toLex (r.createdAt, r.meeting.id)

/-- The keyword arguments of `filter`; a comparison with NULL does not hold. -/
def Record.selected (lib : SearchLibrary) (client : ClientId) (f : SearchFilter) (r : Record) :
    Bool :=
  decide (r.meeting.integrationClient = client) &&
    f.id.all (fun id => decide (r.meeting.id = id)) &&
    f.externalClassId.all (fun id => decide (r.meeting.externalClassId = id)) &&
    f.teacherId.all (fun id => decide (r.meeting.teacherId = id)) &&
    f.teacherName.all (fun name =>
      containsText (lib.databaseUpper r.meeting.teacherName) (lib.databaseUpper name)) &&
    f.batchId.all (fun id => decide (r.meeting.batchId = id)) &&
    f.providerCalendarId.all (fun id => decide (r.meeting.providerCalendarId = some id)) &&
    f.status.all (fun status => decide (r.meeting.status = status)) &&
    f.classDate.all (fun date => decide (r.meeting.classDate = date)) &&
    f.startFrom.all (fun time => r.meeting.startAt.any fun s => decide (time.1.instant ≤ s)) &&
    f.startTo.all (fun time => r.meeting.startAt.any fun s => decide (s ≤ time.1.instant)) &&
    f.createdFrom.all (fun time => decide (time.1.instant ≤ r.createdAt)) &&
    f.createdTo.all (fun time => decide (r.createdAt ≤ time.1.instant))

namespace Snapshot

def records (s : Snapshot) : List Record :=
  s.store.meetings.rows.map fun m => ⟨m, s.createdAt m.id⟩

def query (lib : SearchLibrary) (client : ClientId) (f : SearchFilter) (s : Snapshot) :
    List Record :=
  GreatestFirst.sort Record.key (s.records.filter (Record.selected lib client f))

end Snapshot

structure SearchRequest where
  client : ClientId
  scopes : List String
  query : OrderedDict String String

structure SearchData where
  count : Nat
  page : Nat
  pageSize : Nat
  results : List Representation
  deriving DecidableEq

/-- `query[low:high]`. -/
def slice {α : Type} (low high : Nat) (rows : List α) : List α := (rows.drop low).take (high - low)

/-- PostgreSQL takes an `OFFSET` of 64 bits. -/
def maxOffset : Nat := 2 ^ 63 - 1

/-- The count is taken in one snapshot and the page in the other. -/
def MeetingListView.get (cfg : Settings) (lib : SearchLibrary) (counted listed : Snapshot)
    (request : SearchRequest) : Except ApiError SearchData :=
  if !request.scopes.contains "meeting:read" then .error (.raised (.gateway insufficientScope))
  else
    match searchSerializer cfg lib request.query with
    | .error detail => .error (.validation detail)
    | .ok values =>
      let page := values.page.1
      let size := values.pageSize.1
      if maxOffset < (page - 1) * size then .error (.raised (.python .dataError))
      else
        let rows := listed.query lib request.client values.filter
        .ok {
          count := (counted.query lib request.client values.filter).length
          page := page
          pageSize := size
          results := (slice ((page - 1) * size) (page * size) rows).map Record.representation }

def MeetingDetailView.get (s : Snapshot) (request : TokenRequest) :
    Except ApiError Representation :=
  if !request.scopes.contains "meeting:read" then .error (.raised (.gateway insufficientScope))
  else (owned s.store request).map fun m => Record.representation ⟨m, s.createdAt m.id⟩

/-- The answer to a client's request for this page of this search, whatever its text. -/
def Answers (cfg : Settings) (lib : SearchLibrary) (client : ClientId) (f : SearchFilter)
    (size index : Nat) (counted listed : Snapshot) (answer : SearchData) : Prop :=
  ∃ request values, request.client = client ∧
    searchSerializer cfg lib request.query = .ok values ∧ values.filter = f ∧
    values.page.1 = index + 1 ∧ values.pageSize.1 = size ∧
    MeetingListView.get cfg lib counted listed request = .ok answer

section Answer
variable {cfg : Settings} {lib : SearchLibrary} {client : ClientId} {f : SearchFilter}
variable {s s' counted listed : Snapshot}

theorem slice_eq_page {α : Type} (size index : Nat) (rows : List α) :
    slice (index * size) ((index + 1) * size) rows = page size index rows := by
  have width : (index + 1) * size - index * size = size := by
    rw [Nat.succ_mul, Nat.add_sub_cancel_left]
  rw [slice, page, width]

theorem Answers.shows {size index : Nat} {answer : SearchData}
    (h : Answers cfg lib client f size index counted listed answer) :
    answer.count = (counted.query lib client f).length ∧
      answer.results = (page size index (listed.query lib client f)).map Record.representation := by
  obtain ⟨request, values, rfl, parsed, rfl, hpage, rfl, got⟩ := h
  simp only [MeetingListView.get, parsed, hpage, Nat.add_sub_cancel] at got
  split at got
  · cases got
  · split at got
    · cases got
    · cases got
      exact ⟨rfl, by rw [slice_eq_page]⟩

theorem Snapshot.keys_nodup (s : Snapshot) : (s.records.map Record.key).Nodup := by
  have ids : ((s.records.map Record.key).map fun k => (ofLex k).2) =
      s.store.meetings.rows.map Meeting.id := by
    simp [Snapshot.records, Record.key, Function.comp_def]
  refine List.Nodup.of_map (fun k => (ofLex k).2) ?_
  rw [ids]
  exact s.store.meetings.nodup

theorem Snapshot.selected_keys_nodup (s : Snapshot) (p : Record → Bool) :
    ((s.records.filter p).map Record.key).Nodup :=
  List.Sublist.nodup (List.filter_sublist.map Record.key) s.keys_nodup

theorem Snapshot.query_descending (s : Snapshot) : Descending Record.key (s.query lib client f) :=
  sort_descending (s.selected_keys_nodup _)

theorem Snapshot.mem_query {r : Record} :
    r ∈ s.query lib client f ↔ r ∈ s.records ∧ r.selected lib client f = true := by
  rw [Snapshot.query, mem_sort, List.mem_filter]

theorem Snapshot.mem_records {r : Record} :
    r ∈ s.records ↔
      s.store.meeting? r.meeting.id = some r.meeting ∧ r.createdAt = s.createdAt r.meeting.id := by
  rw [Snapshot.records, List.mem_map]
  constructor
  · rintro ⟨m, hm, rfl⟩
    exact ⟨KeyedTable.get?_eq_some.mpr ⟨hm, rfl⟩, rfl⟩
  · rintro ⟨stored, hcreated⟩
    exact ⟨r.meeting, (KeyedTable.get?_eq_some.mp stored).1, by rw [← hcreated]⟩

/-- The pages of one snapshot, put together, are the client's matching rows: each of them
once, the newest first, and no other row. -/
theorem search_pages_complete {size : Nat} {answers : List SearchData}
    (asked : ∀ index answer, answers[index]? = some answer →
      Answers cfg lib client f size index s s answer)
    (enough : ∀ answer ∈ answers, answer.count ≤ answers.length * size)
    (some_page : answers ≠ []) :
    ∃ rows : List Record, rows.Perm (s.records.filter (Record.selected lib client f)) ∧
      Descending Record.key rows ∧
      answers.flatMap SearchData.results = rows.map Record.representation ∧
      ∀ answer ∈ answers, answer.count = rows.length := by
  refine ⟨s.query lib client f, GreatestFirst.sort_perm, s.query_descending, ?_, ?_⟩
  · have cut : answers.flatMap SearchData.results =
        (pages size answers.length (s.query lib client f)).map Record.representation := by
      have each : answers.map SearchData.results = (List.range answers.length).map fun index =>
          (page size index (s.query lib client f)).map Record.representation := by
        refine List.ext_getElem (by simp) ?_
        intro index h _
        have inside : index < answers.length := by simpa using h
        simpa using (asked index _ (List.getElem?_eq_getElem inside)).shows.2
      rw [List.flatMap_def, each, pages, List.flatMap_def, List.map_flatten, List.map_map]
      rfl
    obtain ⟨first, hfirst⟩ := List.exists_mem_of_ne_nil answers some_page
    obtain ⟨index, hindex⟩ := List.mem_iff_getElem?.mp hfirst
    have total := enough first hfirst
    rw [(asked index first hindex).shows.1] at total
    rw [cut, pages_complete total]
  · intro answer hanswer
    obtain ⟨index, hindex⟩ := List.mem_iff_getElem?.mp hanswer
    exact (asked index answer hindex).shows.1

end Answer

/-- The framework's fields on the texts of these queries. -/
def exampleSearchLibrary : SearchLibrary where
  toDrf := exampleDrf
  textField := fun text => .ok (strip text)
  uuidField := fun _ => .error ["Must be a valid UUID."]
  integerField := fun text =>
    match text with
    | "1" => .ok 1
    | "2" => .ok 2
    | "3" => .ok 3
    | _ => .error ["A valid integer is required."]
  databaseUpper := upper

def exampleFilter : SearchFilter :=
  ⟨none, none, none, none, none, none, none, none, none, none, none, none⟩

def exampleSearch (page : String) : SearchRequest :=
  ⟨7, ["meeting:read"], [("page", page), ("page_size", "1")]⟩

def examplePage (index : Nat) (counted listed : Snapshot) : SearchData where
  count := (counted.query exampleSearchLibrary 7 exampleFilter).length
  page := index + 1
  pageSize := 1
  results := (slice (index * 1) ((index + 1) * 1)
    (listed.query exampleSearchLibrary 7 exampleFilter)).map Record.representation

theorem examplePage_asked {index : Nat} (early : index < 3) (counted listed : Snapshot) :
    Answers exampleSettings exampleSearchLibrary 7 exampleFilter 1 index counted listed
      (examplePage index counted listed) := by
  match index, early with
  | 0, _ => exact ⟨exampleSearch "1", ⟨exampleFilter, ⟨1, by omega⟩, ⟨1, by omega⟩⟩,
      rfl, rfl, rfl, rfl, rfl, rfl⟩
  | 1, _ => exact ⟨exampleSearch "2", ⟨exampleFilter, ⟨2, by omega⟩, ⟨1, by omega⟩⟩,
      rfl, rfl, rfl, rfl, rfl, rfl⟩
  | 2, _ => exact ⟨exampleSearch "3", ⟨exampleFilter, ⟨3, by omega⟩, ⟨1, by omega⟩⟩,
      rfl, rfl, rfl, rfl, rfl, rfl⟩

theorem length_query (s : Snapshot) (lib : SearchLibrary) (client : ClientId) (f : SearchFilter) :
    (s.query lib client f).length = (s.records.filter (Record.selected lib client f)).length :=
  GreatestFirst.sort_perm.length_eq

/-- Two drafts of the client, one of another client and a meeting that is cancelled. -/
def exampleListed : Snapshot where
  store := { exampleStore with
    meetings := ⟨[exampleDraft, (exampleValues "CLS-001" 10).draft 2 8 0,
      (exampleValues "CLS-002" 10).draft 3 7 0,
      { (exampleValues "CLS-003" 10).draft 4 7 0 with status := .cancelled }], by decide⟩ }
  createdAt := fun pk => pk

def exampleDraftFilter : SearchFilter := { exampleFilter with status := some .draft }

def exampleDraftSearch (page : String) : SearchRequest :=
  ⟨7, ["meeting:read"], [("status", "DRAFT"), ("page", page), ("page_size", "1")]⟩

/-- Two pages of one row each, the newer draft first. -/
theorem search_pages_complete_drafts :
    ∃ first second : SearchData,
      MeetingListView.get exampleSettings exampleSearchLibrary exampleListed exampleListed
        (exampleDraftSearch "1") = .ok first ∧
      MeetingListView.get exampleSettings exampleSearchLibrary exampleListed exampleListed
        (exampleDraftSearch "2") = .ok second ∧
      (first.results ++ second.results).map Representation.id = [3, 1] ∧
      first.count = 2 ∧ second.count = 2 := by
  obtain ⟨first, hfirst⟩ : ∃ answer, MeetingListView.get exampleSettings exampleSearchLibrary
      exampleListed exampleListed (exampleDraftSearch "1") = .ok answer := ⟨_, rfl⟩
  obtain ⟨second, hsecond⟩ : ∃ answer, MeetingListView.get exampleSettings exampleSearchLibrary
      exampleListed exampleListed (exampleDraftSearch "2") = .ok answer := ⟨_, rfl⟩
  have asked : ∀ index answer, [first, second][index]? = some answer →
      Answers exampleSettings exampleSearchLibrary 7 exampleDraftFilter 1 index exampleListed
        exampleListed answer := by
    intro index answer h
    match index with
    | 0 =>
      cases h
      exact ⟨_, ⟨exampleDraftFilter, ⟨1, by omega⟩, ⟨1, by omega⟩⟩, rfl, rfl, rfl, rfl, rfl, hfirst⟩
    | 1 =>
      cases h
      exact ⟨_, ⟨exampleDraftFilter, ⟨2, by omega⟩, ⟨1, by omega⟩⟩, rfl, rfl, rfl, rfl, rfl,
        hsecond⟩
    | index + 2 => cases h
  have total : (exampleListed.query exampleSearchLibrary 7 exampleDraftFilter).length = 2 := by
    rw [length_query]
    rfl
  have enough : ∀ answer ∈ [first, second], answer.count ≤ [first, second].length * 1 := by
    intro answer h
    obtain ⟨index, hindex⟩ := List.mem_iff_getElem?.mp h
    rw [(asked index answer hindex).shows.1]
    exact total.le
  obtain ⟨rows, hperm, hdesc, shown, counts⟩ :=
    search_pages_complete asked enough (List.cons_ne_nil _ _)
  obtain ⟨older, newer, hmatching, hids⟩ : ∃ older newer : Record,
      exampleListed.records.filter (Record.selected exampleSearchLibrary 7 exampleDraftFilter) =
        [older, newer] ∧ (older.meeting.id = 1 ∧ newer.meeting.id = 3 ∧
          Record.key older < Record.key newer) := ⟨_, _, rfl, rfl, rfl, by decide⟩
  rw [hmatching] at hperm
  have ordered : Descending Record.key [newer, older] := by
    simpa [Descending] using hids.2.2
  have hrows : rows = [newer, older] := by
    refine List.Perm.eq_of_pairwise ?_ hdesc ordered (hperm.trans (List.Perm.swap newer older []))
    intro a b _ _ hab hba
    exact absurd hab (lt_asymm hba)
  rw [hrows] at shown counts
  refine ⟨first, second, hfirst, hsecond, ?_, counts first (by simp), counts second (by simp)⟩
  have both : first.results ++ second.results = [newer, older].map Record.representation := by
    simpa using shown
  rw [both]
  simp [Record.representation, hids.1, hids.2.1]

end MeetingGateway
