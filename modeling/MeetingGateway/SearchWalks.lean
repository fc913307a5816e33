import MeetingGateway.Listings

/-!
# Searching while the gateway is at work

The column `created_at` beside the committed store: an insert sets it and no update
touches it. A client reads page after page while requests, sweeps, operators and the
provider go on; nothing is locked between two of its requests, nor between the count and
the slice of one.
-/

namespace MeetingGateway

open LabelledRuns Paging

structure Dated where
  world : World
  createdAt : MeetingId → Int

namespace Dated

def initial (store : Store) (createdAt : MeetingId → Int) : Dated :=
  ⟨World.initial store, createdAt⟩

def snapshot (d : Dated) : Snapshot := ⟨d.world.store, d.createdAt⟩

/-- A step of the gateway with the time an inserted row gets. -/
def step (cfg : Settings) (d : Dated) (work : Label × Int) : Option Dated :=
  (World.step cfg d.world work.1).map fun w => ⟨w, fun pk =>
    if (d.world.store.meeting? pk).isNone && (w.store.meeting? pk).isSome then work.2
    else d.createdAt pk⟩

end Dated

/-- The steps that are no work on this client's meetings. -/
def Label.foreign (client : ClientId) (w : World) : Label → Bool
  | .register _ _ other _ _ => decide (other ≠ client)
  | .on pk _ => (w.store.meeting? pk).all fun m => decide (m.integrationClient ≠ client)
  | _ => true

/-- The answers to a client that asks for one page after the other. -/
inductive Walk (cfg : Settings) (lib : SearchLibrary) (client : ClientId) (f : SearchFilter)
    (size : Nat) : Nat → Dated → List SearchData → Prop
  | done {index : Nat} {d : Dated} : Walk cfg lib client f size index d []
  | page {index : Nat} {d counted listed : Dated} {answer : SearchData} {rest : List SearchData} :
      Reachable (Dated.step cfg) d counted → Reachable (Dated.step cfg) counted listed →
      Answers cfg lib client f size index counted.snapshot listed.snapshot answer →
      Walk cfg lib client f size (index + 1) listed rest →
      Walk cfg lib client f size index d (answer :: rest)

/-- The filter asks nothing of what provisioning changes. -/
structure SearchFilter.Stable (f : SearchFilter) : Prop where
  status : f.status = none
  providerCalendarId : f.providerCalendarId = none

section Growth
variable {cfg : Settings} {store : Store} {createdAt : MeetingId → Int} {d d' : Dated}

theorem Dated.reachable_world (h : Reachable (Dated.step cfg) d d') :
    Reachable (World.step cfg) d.world d'.world := by
  induction h with
  | start => exact .start
  | step _ hs ih =>
    obtain ⟨w, hw, rfl⟩ := Option.map_eq_some_iff.mp hs
    exact ih.step hw

theorem Dated.reached (h : Reachable (Dated.step cfg) (Dated.initial store createdAt) d) :
    Reached cfg store d.world := Dated.reachable_world h

/-- A row that is there keeps its identity and its date. -/
theorem Dated.keeps (reached : Reached cfg store d.world)
    (later : Reachable (Dated.step cfg) d d') {m : Meeting}
    (stored : d.world.store.meeting? m.id = some m) :
    ∃ m', d'.world.store.meeting? m.id = some m' ∧ m'.identity = m.identity ∧
      d'.createdAt m.id = d.createdAt m.id := by
  induction later with
  | start => exact ⟨m, stored, rfl, rfl⟩
  | @step a b work before hs ih =>
    obtain ⟨m₁, hm₁, hid₁, hdate⟩ := ih
    obtain ⟨w, hw, rfl⟩ := Option.map_eq_some_iff.mp hs
    have grows := reached_extends (reached.trans (Dated.reachable_world before))
      (Reachable.start.step hw)
    have heq : m₁.id = m.id := Store.meeting?_id hm₁
    rw [← heq] at hm₁
    obtain ⟨m₂, hm₂, hid₂, _⟩ := grows m₁ hm₁
    rw [heq] at hm₁ hm₂
    refine ⟨m₂, hm₂, hid₂.trans hid₁, ?_⟩
    simp only [hm₁, Option.isNone_some, Bool.false_and, Bool.false_eq_true, if_false]
    exact hdate

end Growth

section Walks
variable {cfg : Settings} {lib : SearchLibrary} {client : ClientId} {f : SearchFilter}
variable {size : Nat} {d d' : Dated}

/-- A stable filter asks of a row no more than its identity and its date. -/
theorem SearchFilter.Stable.selects (stable : f.Stable) {r r' : Record}
    (sameId : r'.meeting.id = r.meeting.id)
    (same : r'.meeting.identity = r.meeting.identity) (sameDate : r'.createdAt = r.createdAt)
    (selected : r.selected lib client f = true) : r'.selected lib client f = true := by
  simp only [Meeting.identity, Identity.mk.injEq] at same
  obtain ⟨hclient, hclass, _, hteacher, hname, hbatch, _, hdate, hstart, _⟩ := same
  simp only [Record.selected, stable.status, stable.providerCalendarId] at selected ⊢
  rw [sameId, hclient, hclass, hteacher, hname, hbatch, hdate, hstart, sameDate]
  exact selected

theorem query_grows {store : Store} (reached : Reached cfg store d.world)
    (later : Reachable (Dated.step cfg) d d') (stable : f.Stable) :
    Grows Record.key (d.snapshot.query lib client f) (d'.snapshot.query lib client f) := by
  intro r hr
  obtain ⟨hmem, selected⟩ := Snapshot.mem_query.mp hr
  obtain ⟨stored, hcreated⟩ := Snapshot.mem_records.mp hmem
  obtain ⟨m', stored', same, sameDate⟩ := Dated.keeps reached later stored
  have hid : m'.id = r.meeting.id := Store.meeting?_id stored'
  have hdate : d'.createdAt m'.id = r.createdAt := by
    rw [hid, sameDate, hcreated]
    rfl
  refine ⟨⟨m', d'.createdAt m'.id⟩, Snapshot.mem_query.mpr ⟨?_, ?_⟩, ?_⟩
  · exact Snapshot.mem_records.mpr ⟨by rw [hid]; exact stored', rfl⟩
  · exact stable.selects hid same hdate selected
  · simp only [Record.key, hid, sameDate, hcreated]
    rfl

/-- By induction on the walk: a row the walk has not shown is at or behind its next page. -/
theorem Walk.shows {store : Store} (stable : f.Stable) {index : Nat} {answers : List SearchData}
    (walk : Walk cfg lib client f size index d answers) (reached : Reached cfg store d.world)
    {r : Record} (hr : r ∈ d.snapshot.query lib client f)
    (unseen : index * size ≤ rank Record.key r.key (d.snapshot.query lib client f))
    {last : SearchData} (hlast : answers.getLast? = some last)
    (short : last.results.length < size) :
    ∃ answer ∈ answers, ∃ shown ∈ answer.results, shown.id = r.meeting.id := by
  induction walk generalizing r with
  | done => cases hlast
  | @page index d counted listed answer rest before between answers walk ih =>
    have later := before.trans between
    have grows : Grows Record.key (d.snapshot.query lib client f)
        (listed.snapshot.query lib client f) := query_grows reached later stable
    obtain ⟨r', hr', hkey⟩ := grows r hr
    have hid : r'.meeting.id = r.meeting.id := congrArg (fun k => (ofLex k).2) hkey
    have behind := d.snapshot.query_descending.rank_le grows r.key
    rw [← hkey] at unseen behind
    have results := answers.shows.2
    rcases listed.snapshot.query_descending.seen_or_later hr' (unseen.trans behind) with
      here | ⟨further, full⟩
    · refine ⟨answer, List.mem_cons_self, r'.representation, ?_, hid⟩
      rw [results]
      exact List.mem_map_of_mem here
    · cases rest with
      | nil =>
        cases hlast
        rw [List.getLast_singleton, results, List.length_map] at short
        omega
      | cons next rest =>
        rw [List.getLast?_cons_cons] at hlast
        obtain ⟨a, ha, shown, hshown, hsame⟩ := ih
          (reached.trans (Dated.reachable_world later)) hr' further hlast
        exact ⟨a, List.mem_cons_of_mem _ ha, shown, hshown, hsame.trans hid⟩

/-- A client that reads from the first page to one that is not full, while the gateway goes
on in whatever way, has been shown every meeting of its search that was there when it began. -/
theorem walk_misses_nothing {store : Store} {createdAt : MeetingId → Int} {start : Dated}
    (reached : Reachable (Dated.step cfg) (Dated.initial store createdAt) start)
    (stable : f.Stable) {answers : List SearchData}
    (walk : Walk cfg lib client f size 0 start answers) {last : SearchData}
    (hlast : answers.getLast? = some last) (short : last.results.length < size) {r : Record}
    (present : r ∈ start.snapshot.records) (selected : r.selected lib client f = true) :
    ∃ answer ∈ answers, ∃ shown ∈ answer.results, shown.id = r.meeting.id := by
  have hr := Snapshot.mem_query.mpr ⟨present, selected⟩
  exact walk.shows stable (Dated.reached reached) hr (by omega) hlast short

end Walks

def exampleArrival (pk : MeetingId) (client : ClientId) (classId : String) : Label × Int :=
  (.register 0 pk client (exampleValues classId 10) pk, pk)

/-- The dated world with one more meeting. -/
def Dated.arrive (d : Dated) (work : Label × Int)
    (arrives : (Dated.step exampleSettings d work).isSome = true) : Dated :=
  (Dated.step exampleSettings d work).get arrives

theorem Dated.arrive_step (d : Dated) {work : Label × Int}
    (arrives : (Dated.step exampleSettings d work).isSome = true) :
    Dated.step exampleSettings d work = some (d.arrive work arrives) := (Option.some_get _).symm

def exampleDated : Dated := Dated.initial exampleStore fun _ => 0

def exampleFirst : Dated := exampleDated.arrive (exampleArrival 1 7 "CLS-001") (by decide)

def exampleSecond : Dated := exampleFirst.arrive (exampleArrival 2 7 "CLS-002") (by decide)

/-- The second meeting comes after the first page: the second page shows the first meeting
again, and the third page ends the walk. -/
theorem walk_misses_nothing_arrival :
    ∃ answers, Walk exampleSettings exampleSearchLibrary 7 exampleFilter 1 0 exampleFirst answers ∧
      answers.length = 3 ∧ ∃ answer ∈ answers, ∃ shown ∈ answer.results, shown.id = 1 := by
  have reached : Reachable (Dated.step exampleSettings) exampleDated exampleFirst :=
    Reachable.start.step (exampleDated.arrive_step _)
  have arrival : Reachable (Dated.step exampleSettings) exampleFirst exampleSecond :=
    Reachable.start.step (exampleFirst.arrive_step _)
  have first := examplePage_asked (show 0 < 3 by omega) exampleFirst.snapshot exampleFirst.snapshot
  have second := examplePage_asked (show 1 < 3 by omega) exampleSecond.snapshot
    exampleSecond.snapshot
  have third := examplePage_asked (show 2 < 3 by omega) exampleSecond.snapshot
    exampleSecond.snapshot
  have walk := Walk.page .start .start first
    (.page arrival .start second (.page .start .start third .done))
  have total : (exampleSecond.snapshot.query exampleSearchLibrary 7 exampleFilter).length = 2 := by
    rw [length_query]
    rfl
  have short :
      (examplePage 2 exampleSecond.snapshot exampleSecond.snapshot).results.length < 1 := by
    simp [examplePage, slice, total]
  obtain ⟨r, hr⟩ : ∃ r, exampleFirst.snapshot.records = [r] := ⟨_, rfl⟩
  have present : r ∈ exampleFirst.snapshot.records := hr ▸ List.mem_singleton_self r
  cases hr
  exact ⟨_, walk, rfl, walk_misses_nothing reached ⟨rfl, rfl⟩ walk rfl short present
    (show Record.selected exampleSearchLibrary 7 exampleFilter _ = true from rfl)⟩

section Foreign
variable {cfg : Settings} {store : Store} {client : ClientId} {d d' : Dated} {w w' : World}

def Meeting.ownedBy (client : ClientId) (m : Meeting) : Bool :=
  decide (m.integrationClient = client)

theorem Snapshot.own_eq (s : Snapshot) : s.own client =
    (s.store.meetings.rows.filter (Meeting.ownedBy client)).map fun m =>
      Record.representation ⟨m, s.createdAt m.id⟩ := by
  rw [Snapshot.own, Snapshot.records, List.filter_map, List.map_map]
  rfl

/-- Saving a foreign row under its own key leaves the client's rows as they are. -/
theorem put_foreign {row old : Meeting} (stored : w.store.meeting? row.id = some old)
    (same : row.integrationClient = old.integrationClient)
    (foreign : old.integrationClient ≠ client) :
    (w.store.putMeeting row).meetings.rows.filter (Meeting.ownedBy client) =
      w.store.meetings.rows.filter (Meeting.ownedBy client) := by
  have others : ∀ m ∈ w.store.meetings.rows, m.id = row.id → m = old := by
    intro m hm hid
    have found : w.store.meeting? row.id = some m := by
      rw [← hid]
      exact KeyedTable.get?_eq_some.mpr ⟨hm, rfl⟩
    exact Option.some.inj (found.symm.trans stored)
  show List.filter _ (List.map _ w.store.meetings.rows) = _
  rw [List.filter_map]
  have kept : w.store.meetings.rows.filter (Meeting.ownedBy client ∘ fun m =>
      if m.id = row.id then row else m) =
        w.store.meetings.rows.filter (Meeting.ownedBy client) := by
    refine List.filter_congr fun m hm => ?_
    by_cases hid : m.id = row.id
    · have hold : old.id = row.id := Store.meeting?_id stored
      simp [Meeting.ownedBy, others m hm hid, hold, same, foreign]
    · simp [hid]
  rw [kept]
  conv_rhs => rw [← List.map_id (w.store.meetings.rows.filter _)]
  refine List.map_congr_left fun m hm => ?_
  obtain ⟨hmem, own⟩ := List.mem_filter.mp hm
  by_cases hid : m.id = row.id
  · rw [others m hmem hid] at own
    simp [Meeting.ownedBy, foreign] at own
  · simp [hid]

theorem rows_of_foreign {accounts : RoomId → Option String} (sound : w.Sound cfg accounts)
    {l : Label} (change : Change cfg w l w') (foreign : l.foreign client w = true) :
    w'.store.meetings.rows.filter (Meeting.ownedBy client) =
      w.store.meetings.rows.filter (Meeting.ownedBy client) := by
  cases change with
  | refused _ => rfl
  | @created r pk other values now fresh _ =>
    have hne : other ≠ client := by simpa [Label.foreign] using foreign
    show List.filter _ (w.store.meetings.rows ++ [values.draft pk other now]) = _
    rw [List.filter_append]
    simp [Meeting.ownedBy, CreateValues.draft, hne]
  | joined _ _ _ _ => rfl
  | @operated op row effect stored move =>
    have hne : row.integrationClient ≠ client := by simpa [Label.foreign, stored] using foreign
    have heffect := Sound.move (w.scene row) (sound.rows row stored) sound.rooms move
    have settled := settle_settled w row.id effect
    generalize w.settle row.id effect = w' at settled
    cases settled with
    | quiet => rfl
    | @saved row' done failed _ _ =>
      obtain ⟨hid, same, _, _⟩ := heffect
      have hid' : row'.id = row.id := hid
      have stored' : w.store.meeting? row'.id = some row := by
        rw [hid']
        exact stored
      exact put_foreign stored' (congrArg Identity.client same) hne
    | unsaved _ => rfl
  | roomEdited _ => rfl
  | systemPresetEdited => rfl
  | clientPresetEdited => rfl

/-- By induction on the run: a foreign step keeps the client's rows and their dates. -/
theorem own_of_foreign_run (reached : Reached cfg store d.world)
    (later : Reachable (restrict (fun d work => work.1.foreign client d.world = true)
      (Dated.step cfg)) d d') : d'.snapshot.own client = d.snapshot.own client := by
  induction later with
  | start => rfl
  | @step a b work before hs ih =>
    obtain ⟨foreign, hstep⟩ := restrict_eq_some.mp hs
    have sound := reached_sound (reached.trans (Dated.reachable_world before.of_restrict))
    obtain ⟨w, hw, rfl⟩ := Option.map_eq_some_iff.mp hstep
    have rows := rows_of_foreign sound (step_change hw) foreign
    rw [← ih, Snapshot.own_eq, Snapshot.own_eq]
    simp only [Dated.snapshot, rows]
    refine List.map_congr_left fun m hm => ?_
    have stored : a.world.store.meeting? m.id = some m :=
      KeyedTable.get?_eq_some.mpr ⟨(List.mem_filter.mp hm).1, rfl⟩
    simp [stored]

/-- Whatever the gateway does for other clients, and whatever is edited of rooms and presets,
the client's searches and its meetings' pages read the same. -/
theorem foreign_work_unseen (lib : SearchLibrary) {createdAt : MeetingId → Int}
    {start counted listed : Dated}
    (reached : Reachable (Dated.step cfg) (Dated.initial store createdAt) start)
    (before : Reachable (restrict (fun d work => work.1.foreign client d.world = true)
      (Dated.step cfg)) start counted)
    (between : Reachable (restrict (fun d work => work.1.foreign client d.world = true)
      (Dated.step cfg)) counted listed) :
    (∀ request : SearchRequest, request.client = client →
      MeetingListView.get cfg lib counted.snapshot listed.snapshot request =
        MeetingListView.get cfg lib start.snapshot start.snapshot request) ∧
    ∀ request : TokenRequest, request.client = client →
      MeetingDetailView.get listed.snapshot request =
        MeetingDetailView.get start.snapshot request := by
  have hcounted := own_of_foreign_run (Dated.reached reached) before
  have hlisted := own_of_foreign_run (Dated.reached reached) (before.trans between)
  constructor
  · rintro request rfl
    exact search_confined request (.of_eq hcounted) (.of_eq hlisted)
  · rintro request rfl
    exact detail_confined request (.of_eq hlisted)

end Foreign

def exampleOther : Dated := exampleFirst.arrive (exampleArrival 2 8 "CLS-001") (by decide)

/-- Another client's meeting comes between the count and the page. -/
theorem foreign_work_unseen_arrival :
    MeetingListView.get exampleSettings exampleSearchLibrary exampleFirst.snapshot
        exampleOther.snapshot (exampleSearch "1") =
      MeetingListView.get exampleSettings exampleSearchLibrary exampleFirst.snapshot
        exampleFirst.snapshot (exampleSearch "1") := by
  have reached : Reachable (Dated.step exampleSettings) exampleDated exampleFirst :=
    Reachable.start.step (exampleDated.arrive_step _)
  have between : Reachable (restrict (fun d work => work.1.foreign 7 d.world = true)
      (Dated.step exampleSettings)) exampleFirst exampleOther :=
    Reachable.start.step (restrict_eq_some.mpr ⟨rfl, exampleFirst.arrive_step _⟩)
  exact (foreign_work_unseen exampleSearchLibrary reached .start between).1 _ rfl

end MeetingGateway
