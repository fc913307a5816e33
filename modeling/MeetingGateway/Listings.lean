import MeetingGateway.Coherence
import MeetingGateway.Searches

/-!
# What a client reads

A search and a meeting's page show the client's own rows and of these the public fields
only, so work for other clients does not show. A client that reads one page after the
other while the gateway is at work misses no meeting that was there when it began, as long
as it does not filter by what provisioning changes.
-/

namespace MeetingGateway

open LabelledRuns Paging

def Representation.key (r : Representation) : Int ×ₗ MeetingId := toLex (r.createdAt, r.id)

/-- What the filter asks of a row, read from what the row shows. -/
def SearchFilter.admits (lib : SearchLibrary) (f : SearchFilter) (r : Representation) : Bool :=
  f.id.all (fun id => decide (r.id = id)) &&
    f.externalClassId.all (fun id => decide (r.classId = id)) &&
    f.teacherId.all (fun id => decide (r.teacher.id = id)) &&
    f.teacherName.all (fun name =>
      containsText (lib.databaseUpper r.teacher.name) (lib.databaseUpper name)) &&
    f.batchId.all (fun id => decide (r.batch.id = id)) &&
    f.providerCalendarId.all (fun id => decide (r.calendarId = some id)) &&
    f.status.all (fun status => decide (r.status = status)) &&
    f.classDate.all (fun date => decide (r.classDate = date)) &&
    f.startFrom.all (fun time => r.startAt.any fun s => decide (time.1.instant ≤ s)) &&
    f.startTo.all (fun time => r.startAt.any fun s => decide (s ≤ time.1.instant)) &&
    f.createdFrom.all (fun time => decide (time.1.instant ≤ r.createdAt)) &&
    f.createdTo.all (fun time => decide (r.createdAt ≤ time.1.instant))

def Record.owned (client : ClientId) (r : Record) : Bool :=
  decide (r.meeting.integrationClient = client)

/-- What the client's own rows show. -/
def Snapshot.own (client : ClientId) (s : Snapshot) : List Representation :=
  (s.records.filter (Record.owned client)).map Record.representation

section Confinement
variable {cfg : Settings} {lib : SearchLibrary} {client : ClientId} {f : SearchFilter}
variable {s s' : Snapshot}

theorem Record.selected_eq (r : Record) :
    r.selected lib client f = (f.admits lib r.representation && r.owned client) := by
  simp only [Record.selected, SearchFilter.admits, Record.owned, Record.representation]
  ac_rfl

theorem Snapshot.query_shows (s : Snapshot) :
    (s.query lib client f).map Record.representation =
      GreatestFirst.sort Representation.key ((s.own client).filter (f.admits lib)) := by
  have chosen : (s.records.filter (Record.selected lib client f)).map Record.representation =
      (s.own client).filter (f.admits lib) := by
    rw [Snapshot.own, List.filter_map, List.filter_filter]
    congr 2
    funext r
    exact r.selected_eq
  rw [← chosen, Snapshot.query, GreatestFirst.sort, GreatestFirst.sort]
  exact List.map_mergeSort fun _ _ _ _ => rfl

theorem Snapshot.own_keys_nodup (s : Snapshot) (p : Representation → Bool) :
    (((s.own client).filter p).map Representation.key).Nodup := by
  have keys : (s.own client).map Representation.key =
      (s.records.filter (Record.owned client)).map Record.key := by
    rw [Snapshot.own, List.map_map]
    rfl
  refine List.Sublist.nodup (List.filter_sublist.map Representation.key) ?_
  rw [keys]
  exact s.selected_keys_nodup _

theorem Snapshot.query_confined (same : (s.own client).Perm (s'.own client)) :
    (s.query lib client f).map Record.representation =
      (s'.query lib client f).map Record.representation := by
  rw [s.query_shows, s'.query_shows]
  exact sort_eq_of_perm (s.own_keys_nodup _) (same.filter _)

theorem detail_shows {s : Snapshot} {request : TokenRequest} {r : Representation} :
    MeetingDetailView.get s request = .ok r ↔
      request.scopes.contains "meeting:read" = true ∧ r ∈ s.own request.client ∧
        r.id = request.pk := by
  simp only [MeetingDetailView.get, owned, Snapshot.own, List.mem_map, List.mem_filter]
  constructor
  · intro h
    split at h
    · cases h
    · rename_i granted
      cases stored : s.store.meeting? request.pk with
      | none =>
        rw [stored] at h
        cases h
      | some m =>
        simp only [stored] at h
        split at h
        · rename_i own
          cases h
          have hid := Store.meeting?_id stored
          refine ⟨by simpa using granted, ⟨⟨m, s.createdAt m.id⟩, ⟨?_, ?_⟩, rfl⟩, hid⟩
          · exact Snapshot.mem_records.mpr ⟨by rw [hid]; exact stored, rfl⟩
          · simpa [Record.owned] using own
        · cases h
  · rintro ⟨granted, ⟨r, ⟨hmem, own⟩, rfl⟩, hid⟩
    obtain ⟨stored, hcreated⟩ := Snapshot.mem_records.mp hmem
    have hpk : r.meeting.id = request.pk := hid
    have hown : r.meeting.integrationClient = request.client := by simpa [Record.owned] using own
    rw [hpk] at stored
    simp only [granted, Bool.not_true, Bool.false_eq_true, if_false, stored, hown, if_true]
    show Except.ok (Record.representation ⟨r.meeting, s.createdAt r.meeting.id⟩) = _
    rw [← hcreated]

theorem detail_refused {s : Snapshot} {request : TokenRequest}
    (granted : request.scopes.contains "meeting:read" = true)
    (absent : ∀ r ∈ s.own request.client, r.id ≠ request.pk) :
    MeetingDetailView.get s request = .error .notFound := by
  cases h : MeetingDetailView.get s request with
  | ok r =>
    obtain ⟨_, hmem, hid⟩ := detail_shows.mp h
    exact absurd hid (absent r hmem)
  | error e =>
    simp only [MeetingDetailView.get, granted, Bool.not_true, Bool.false_eq_true, if_false,
      owned] at h
    split at h
    · split at h
      · cases h
      · cases h
        rfl
    · cases h
      rfl

theorem search_confined {counted counted' listed listed' : Snapshot} (request : SearchRequest)
    (sameCount : (counted.own request.client).Perm (counted'.own request.client))
    (sameList : (listed.own request.client).Perm (listed'.own request.client)) :
    MeetingListView.get cfg lib counted listed request =
      MeetingListView.get cfg lib counted' listed' request := by
  have count : ∀ f : SearchFilter, (counted.query lib request.client f).length =
      (counted'.query lib request.client f).length := fun f => by
    have rows : (counted.query lib request.client f).map Record.representation =
        (counted'.query lib request.client f).map Record.representation :=
      Snapshot.query_confined sameCount
    simpa using congrArg List.length rows
  have part : ∀ (f : SearchFilter) (low high : Nat),
      (slice low high (listed.query lib request.client f)).map Record.representation =
        (slice low high (listed'.query lib request.client f)).map Record.representation := by
    intro f low high
    simp only [slice, List.map_take, List.map_drop, Snapshot.query_confined sameList]
  simp only [MeetingListView.get, count, part]

theorem detail_confined (request : TokenRequest)
    (same : (s.own request.client).Perm (s'.own request.client)) :
    MeetingDetailView.get s request = MeetingDetailView.get s' request := by
  by_cases granted : request.scopes.contains "meeting:read" = true
  · cases h : MeetingDetailView.get s request with
    | ok r =>
      obtain ⟨_, hmem, hid⟩ := detail_shows.mp h
      exact (detail_shows.mpr ⟨granted, same.mem_iff.mp hmem, hid⟩).symm
    | error e =>
      have absent : ∀ r ∈ s.own request.client, r.id ≠ request.pk := by
        intro r hmem hid
        rw [detail_shows.mpr ⟨granted, hmem, hid⟩] at h
        cases h
      rw [← h, detail_refused granted absent]
      exact (detail_refused granted fun r hmem => absent r (same.mem_iff.mpr hmem)).symm
  · have refused := Bool.eq_false_iff.mpr granted
    simp only [MeetingDetailView.get, refused, Bool.not_false, if_true]

end Confinement

end MeetingGateway
