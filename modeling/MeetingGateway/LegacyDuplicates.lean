import MeetingGateway.Models
import MeetingGateway.Tokens
import MeetingGateway.Library.GreatestFirst
import MeetingGateway.Library.Uuid
import Mathlib.Data.List.Dedup
import Mathlib.Data.Prod.Lex

/-!
# Duplicate classes of the past

Migration 0004 prepares the table of meetings for the unique constraint on a client and an
external class id. It reads the duplicate groups once. Of each group it keeps one row and
gives the others an id made of the old one, cut to 144 characters, and 8 digits of the
primary key. The database may deliver groups and rows in any order.
-/

namespace MeetingGateway

/-- `integration_client` and `external_class_id`. -/
structure ClassKey where
  client : ClientId
  externalClassId : String
  deriving DecidableEq

/-- A row as the migration reads it; what it does not read is in `columns`. -/
structure LegacyMeeting (Columns : Type) where
  id : Uuid
  integrationClient : ClientId
  externalClassId : String
  providerCalendarId : Option String
  status : String
  reservationActive : Bool
  createdAt : Int
  columns : Columns

variable {Columns : Type}

def LegacyMeeting.classKey (m : LegacyMeeting Columns) : ClassKey :=
  ⟨m.integrationClient, m.externalClassId⟩

structure LegacyTable (Columns : Type) where
  rows : List (LegacyMeeting Columns)
  keys : (rows.map LegacyMeeting.id).Nodup
  fits : ∀ m ∈ rows, m.externalClassId.length ≤ 160

/-- The orders in which the database delivers groups and rows. -/
structure DbOrder (Columns : Type) where
  groups : List ClassKey → List ClassKey
  rows : List (LegacyMeeting Columns) → List (LegacyMeeting Columns)
  groups_perm : ∀ l, (groups l).Perm l
  rows_perm : ∀ l, (rows l).Perm l

def statusRanks : List (String × Int) :=
  [("LIVE", 9), ("READY", 8), ("PROVIDER_RESPONSE_INVALID", 7), ("PROVIDER_STATE_UNKNOWN", 6),
    ("PROVISIONING", 5), ("RESERVED", 4), ("DRAFT", 3), ("FAILED", 2), ("ENDED", 1),
    ("CANCELLED", 0)]

/-- `status_rank.get(status, -1)`. -/
def statusRank (status : String) : Int := (statusRanks.lookup status).getD (-1)

abbrev LegacyKey := Bool ×ₗ Int ×ₗ Bool ×ₗ Rat

section Migration
variable (clock : TotalSeconds) (db : DbOrder Columns)

/-- The sort key; `clock` is the rounding of `timestamp()`. -/
def sortKey (m : LegacyMeeting Columns) : LegacyKey :=
  toLex (present m.providerCalendarId,
    toLex (statusRank m.status, toLex (m.reservationActive, -clock.seconds m.createdAt)))

def duplicateGroups (rows : List (LegacyMeeting Columns)) : List ClassKey :=
  (rows.map LegacyMeeting.classKey).dedup.filter fun group =>
    decide (1 < rows.countP fun m => decide (m.classKey = group))

/-- `external_class_id[: 160 - len(suffix)] + suffix`. -/
def preservedId (group : ClassKey) (pk : Uuid) : String :=
  let suffix := "~legacy-" ++ String.ofList (Uuid.hex (pk.digits.take 8))
  String.ofList (group.externalClassId.toList.take (160 - suffix.length)) ++ suffix

def updateClassId (pk : Uuid) (classId : String) (rows : List (LegacyMeeting Columns)) :
    List (LegacyMeeting Columns) :=
  rows.map fun m => if m.id = pk then { m with externalClassId := classId } else m

/-- The rows of a group now, the one to keep first. -/
def groupMeetings (group : ClassKey) (rows : List (LegacyMeeting Columns)) :
    List (LegacyMeeting Columns) :=
  GreatestFirst.sort (sortKey clock)
    (db.rows (rows.filter fun m => decide (m.classKey = group)))

def preserveGroup (rows : List (LegacyMeeting Columns)) (group : ClassKey) :
    List (LegacyMeeting Columns) :=
  (groupMeetings clock db group rows).tail.foldl
    (fun rows duplicate => updateClassId duplicate.id (preservedId group duplicate.id) rows) rows

def preserveHistoricalDuplicates (rows : List (LegacyMeeting Columns)) :
    List (LegacyMeeting Columns) :=
  (db.groups (duplicateGroups rows)).foldl (preserveGroup clock db) rows

end Migration

/-- A row under the class id that its primary key has now. -/
def LegacyMeeting.under (classId : Uuid → String) (m : LegacyMeeting Columns) :
    LegacyMeeting Columns :=
  { m with externalClassId := classId m.id }

section Specification
variable (clock : TotalSeconds) (table : LegacyTable Columns)

/-- The row is in the group, and none in it has a greater key. -/
structure KeptRow (group : ClassKey) (m : LegacyMeeting Columns) : Prop where
  mem : m ∈ table.rows
  inGroup : m.classKey = group
  greatest : ∀ other ∈ table.rows, other.classKey = group → sortKey clock other ≤ sortKey clock m

/-- The constraint holds, ids fit, and one maximal row of each duplicate group keeps its id. -/
structure Preserves (classId : Uuid → String) : Prop where
  unique : ∀ a ∈ table.rows, ∀ b ∈ table.rows, a.integrationClient = b.integrationClient →
    classId a.id = classId b.id → a = b
  short : ∀ m ∈ table.rows, (classId m.id).length ≤ 160
  outside : ∀ m ∈ table.rows, m.classKey ∉ duplicateGroups table.rows →
    classId m.id = m.externalClassId
  kept : ∀ group ∈ duplicateGroups table.rows, ∃ m, KeptRow clock table group m ∧
    ∀ other ∈ table.rows, other.classKey = group →
      (classId other.id = other.externalClassId ↔ other = m)

/-- The migration changes nothing but class ids, and those as it must. -/
def LosesNothing (db : DbOrder Columns) : Prop :=
  ∃ classId, preserveHistoricalDuplicates clock db table.rows =
    table.rows.map (LegacyMeeting.under classId) ∧ Preserves clock table classId

/-- A choice of the primary keys to keep, one maximal row for each duplicate group. -/
def ChoosesKept (kept : ClassKey → Uuid) : Prop :=
  ∀ group ∈ duplicateGroups table.rows, ∃ m, KeptRow clock table group m ∧ m.id = kept group

/-- The row is in a duplicate group and is not the one to keep. -/
def IsRenamed (kept : ClassKey → Uuid) (m : LegacyMeeting Columns) : Prop :=
  m ∈ table.rows ∧ m.classKey ∈ duplicateGroups table.rows ∧ m.id ≠ kept m.classKey

/-- The new ids of a client differ from all its old ids and from each other. -/
structure NewIdsApart (kept : ClassKey → Uuid) : Prop where
  fresh : ∀ a, IsRenamed table kept a → ∀ b ∈ table.rows,
    a.integrationClient = b.integrationClient →
      preservedId a.classKey a.id ≠ b.externalClassId
  distinct : ∀ a b, IsRenamed table kept a → IsRenamed table kept b →
    a.integrationClient = b.integrationClient →
      preservedId a.classKey a.id = preservedId b.classKey b.id → a = b

end Specification

section Ids
variable {clock : TotalSeconds} {db : DbOrder Columns} {table : LegacyTable Columns}
  {classId : Uuid → String} {group : ClassKey}

theorem LegacyTable.eq_of_id {a b : LegacyMeeting Columns} (ha : a ∈ table.rows)
    (hb : b ∈ table.rows) (h : a.id = b.id) : a = b :=
  List.inj_on_of_nodup_map table.keys ha hb h

theorem preservedId_length (group : ClassKey) (pk : Uuid) :
    (preservedId group pk).length ≤ 160 := by
  have hhex : (Uuid.hex (pk.digits.take 8)).length = 8 := by
    simp [Uuid.hex, pk.size]
  have hsuffix : ("~legacy-" ++ String.ofList (Uuid.hex (pk.digits.take 8))).length = 16 := by
    simp only [String.length_append, String.length_ofList, hhex]
    rfl
  simp only [preservedId, hsuffix, String.length_append, String.length_ofList, List.length_take]
  have : ("~legacy-" : String).length = 8 := rfl
  omega

theorem exists_classIds (table : LegacyTable Columns) :
    ∃ classId : Uuid → String, ∀ m ∈ table.rows, classId m.id = m.externalClassId := by
  refine ⟨fun pk => match table.rows.find? (fun m => decide (m.id = pk)) with
    | some m => m.externalClassId
    | none => "", ?_⟩
  intro m hm
  cases hfind : table.rows.find? (fun other => decide (other.id = m.id)) with
  | none =>
    have := List.find?_eq_none.mp hfind m hm
    simp at this
  | some other =>
    have hid := List.find?_some hfind
    have hsame : other = m :=
      table.eq_of_id (List.mem_of_find?_eq_some hfind) hm (by simpa using hid)
    simp [hfind, hsame]

theorem map_under_self {rows : List (LegacyMeeting Columns)}
    (h : ∀ m ∈ rows, classId m.id = m.externalClassId) :
    rows.map (LegacyMeeting.under classId) = rows := by
  refine (List.map_congr_left ?_).trans (List.map_id rows)
  intro m hm
  rw [LegacyMeeting.under, h m hm]
  rfl

/-- The class ids after one group. -/
def stepIds (clock : TotalSeconds) (db : DbOrder Columns) (rows : List (LegacyMeeting Columns))
    (classId : Uuid → String) (group : ClassKey) (pk : Uuid) : String :=
  let meetings := groupMeetings clock db group (rows.map (LegacyMeeting.under classId))
  if pk ∈ meetings.tail.map LegacyMeeting.id then preservedId group pk else classId pk

theorem update_under (rows : List (LegacyMeeting Columns)) (pk : Uuid) (value : String) :
    updateClassId pk value (rows.map (LegacyMeeting.under classId)) =
      rows.map (LegacyMeeting.under (Function.update classId pk value)) := by
  rw [updateClassId, List.map_map]
  apply List.map_congr_left
  intro m _
  by_cases hid : m.id = pk
  · subst hid
    simp [LegacyMeeting.under]
  · simp [LegacyMeeting.under, hid]

theorem updates_under (rows duplicates : List (LegacyMeeting Columns)) :
    duplicates.foldl (fun rows d => updateClassId d.id (preservedId group d.id) rows)
        (rows.map (LegacyMeeting.under classId)) =
      rows.map (LegacyMeeting.under fun pk =>
        if pk ∈ duplicates.map LegacyMeeting.id then preservedId group pk else classId pk) := by
  induction duplicates generalizing classId with
  | nil => rfl
  | cons d duplicates ih =>
    rw [List.foldl_cons, update_under, ih]
    congr 2
    funext pk
    by_cases hd : pk = d.id
    · subst hd
      simp
    · simp [hd]

theorem preserveGroup_under (rows : List (LegacyMeeting Columns)) :
    preserveGroup clock db (rows.map (LegacyMeeting.under classId)) group =
      rows.map (LegacyMeeting.under (stepIds clock db rows classId group)) :=
  updates_under rows _

theorem preserveGroups_under (rows : List (LegacyMeeting Columns)) (groups : List ClassKey) :
    groups.foldl (preserveGroup clock db) (rows.map (LegacyMeeting.under classId)) =
      rows.map (LegacyMeeting.under (groups.foldl (stepIds clock db rows) classId)) := by
  induction groups generalizing classId with
  | nil => rfl
  | cons group groups ih => rw [List.foldl_cons, preserveGroup_under, ih, List.foldl_cons]

theorem mem_groupMeetings {rows : List (LegacyMeeting Columns)} {m : LegacyMeeting Columns} :
    m ∈ groupMeetings clock db group rows ↔ m ∈ rows ∧ m.classKey = group := by
  rw [groupMeetings, GreatestFirst.sort_perm.mem_iff, (db.rows_perm _).mem_iff, List.mem_filter,
    decide_eq_true_eq]

/-- The ids of a group are read from the rows under it. -/
theorem mem_groupMeetings_under {m : LegacyMeeting Columns} :
    m ∈ groupMeetings clock db group (table.rows.map (LegacyMeeting.under classId)) ↔
      ∃ row ∈ table.rows, row.under classId = m ∧
        (⟨row.integrationClient, classId row.id⟩ : ClassKey) = group := by
  rw [mem_groupMeetings, List.mem_map]
  constructor
  · rintro ⟨⟨row, hrow, rfl⟩, hgroup⟩
    exact ⟨row, hrow, rfl, hgroup⟩
  · rintro ⟨row, hrow, rfl, hgroup⟩
    exact ⟨⟨row, hrow, rfl⟩, hgroup⟩

/-- A row of another group keeps its id. -/
theorem stepIds_other {m : LegacyMeeting Columns} (hm : m ∈ table.rows)
    (h : (⟨m.integrationClient, classId m.id⟩ : ClassKey) ≠ group) :
    stepIds clock db table.rows classId group m.id = classId m.id := by
  refine if_neg ?_
  intro hmem
  obtain ⟨row, hrow, hid⟩ := List.mem_map.mp hmem
  obtain ⟨old, hold, rfl, hgroup⟩ := mem_groupMeetings_under.mp (List.mem_of_mem_tail hrow)
  obtain rfl : old = m := table.eq_of_id hold hm hid
  exact h hgroup

theorem runIds_other {m : LegacyMeeting Columns} (hm : m ∈ table.rows) {groups : List ClassKey}
    (h : (⟨m.integrationClient, classId m.id⟩ : ClassKey) ∉ groups) :
    groups.foldl (stepIds clock db table.rows) classId m.id = classId m.id := by
  induction groups generalizing classId with
  | nil => rfl
  | cons group groups ih =>
    simp only [List.mem_cons, not_or] at h
    have hstep : stepIds clock db table.rows classId group m.id = classId m.id :=
      stepIds_other hm h.1
    rw [List.foldl_cons, ih (by rw [hstep]; exact h.2), hstep]

theorem duplicateGroups_nodup (rows : List (LegacyMeeting Columns)) :
    (duplicateGroups rows).Nodup := (List.nodup_dedup _).filter _

/-- A class outside the duplicate groups has one row at most. -/
theorem eq_of_not_duplicate {a b : LegacyMeeting Columns} (ha : a ∈ table.rows)
    (hb : b ∈ table.rows) (hkey : a.classKey = b.classKey)
    (h : a.classKey ∉ duplicateGroups table.rows) : a = b := by
  have hcount : table.rows.countP (fun m => decide (m.classKey = a.classKey)) ≤ 1 := by
    by_contra hmore
    refine h (List.mem_filter.mpr ⟨?_, by simpa using hmore⟩)
    exact List.mem_dedup.mpr (List.mem_map_of_mem ha)
  rw [List.countP_eq_length_filter] at hcount
  have hina : a ∈ table.rows.filter fun m => decide (m.classKey = a.classKey) := by simp [ha]
  have hinb : b ∈ table.rows.filter fun m => decide (m.classKey = a.classKey) := by simp [hb, hkey]
  generalize table.rows.filter (fun m => decide (m.classKey = a.classKey)) = rows
    at hcount hina hinb
  match rows, hcount, hina, hinb with
  | [m], _, hina, hinb =>
    rw [List.mem_singleton] at hina hinb
    rw [hina, hinb]

theorem exists_of_duplicate (h : group ∈ duplicateGroups table.rows) :
    ∃ m ∈ table.rows, m.classKey = group := by
  obtain ⟨m, hm, rfl⟩ := List.mem_map.mp (List.mem_dedup.mp (List.mem_filter.mp h).1)
  exact ⟨m, hm, rfl⟩

end Ids

section Runs
variable {clock : TotalSeconds} {db : DbOrder Columns} {table : LegacyTable Columns}
  {classId : Uuid → String} {kept : ClassKey → Uuid} {finished : List ClassKey} {group : ClassKey}

/-- Read from the old rows, each duplicate group has its chosen row first. -/
def KeepsFirst (clock : TotalSeconds) (db : DbOrder Columns) (table : LegacyTable Columns)
    (kept : ClassKey → Uuid) : Prop :=
  ∀ group ∈ duplicateGroups table.rows, ∃ m tail,
    groupMeetings clock db group table.rows = m :: tail ∧ m.id = kept group

/-- The finished groups have their new ids, all other rows the old ones. -/
def Renamed (table : LegacyTable Columns) (kept : ClassKey → Uuid) (finished : List ClassKey)
    (classId : Uuid → String) : Prop :=
  ∀ m ∈ table.rows, classId m.id =
    if m.classKey ∈ finished ∧ m.id ≠ kept m.classKey then preservedId m.classKey m.id
    else m.externalClassId

/-- No row of a finished group has got the id of this group. -/
def Apart (table : LegacyTable Columns) (kept : ClassKey → Uuid) (finished : List ClassKey)
    (group : ClassKey) : Prop :=
  ∀ m ∈ table.rows, m.classKey ∈ finished → m.id ≠ kept m.classKey →
    m.integrationClient = group.client → preservedId m.classKey m.id ≠ group.externalClassId

theorem key_of_id {m b : LegacyMeeting Columns} {id : String}
    (hclient : m.integrationClient = b.integrationClient) (hid : id = b.externalClassId) :
    (⟨m.integrationClient, id⟩ : ClassKey) = b.classKey := by
  rw [hclient, hid, LegacyMeeting.classKey]

/-- A group that no renamed row has joined is read as it was. -/
theorem groupMeetings_renamed (renamed : Renamed table kept finished classId)
    (apart : Apart table kept finished group) (hnew : group ∉ finished) :
    groupMeetings clock db group (table.rows.map (LegacyMeeting.under classId)) =
      groupMeetings clock db group table.rows := by
  have old : ∀ m ∈ table.rows, m.classKey = group → classId m.id = m.externalClassId := by
    intro m hm hgroup
    rw [renamed m hm, if_neg]
    rintro ⟨hdone, _⟩
    exact hnew (hgroup ▸ hdone)
  have hfilter : (table.rows.map (LegacyMeeting.under classId)).filter
      (fun m => decide (m.classKey = group)) =
        table.rows.filter fun m => decide (m.classKey = group) := by
    rw [List.filter_map]
    have hsame : table.rows.filter ((fun m => decide (m.classKey = group)) ∘
        LegacyMeeting.under classId) = table.rows.filter fun m => decide (m.classKey = group) := by
      apply List.filter_congr
      intro m hm
      rw [Function.comp_apply, decide_eq_decide]
      constructor
      · intro hunder
        by_contra hother
        have hclient : m.integrationClient = group.client := congrArg ClassKey.client hunder
        have hid : classId m.id = group.externalClassId := congrArg ClassKey.externalClassId hunder
        rw [renamed m hm] at hid
        split at hid
        · rename_i hdone
          exact apart m hm hdone.1 hdone.2 hclient hid
        · refine hother ?_
          rw [LegacyMeeting.classKey, hclient, hid]
      · intro hgroup
        rw [LegacyMeeting.classKey, LegacyMeeting.under]
        simp only [old m hm hgroup]
        exact hgroup
    rw [hsame]
    refine map_under_self ?_
    intro m hm
    obtain ⟨hm, hgroup⟩ := List.mem_filter.mp hm
    exact old m hm (by simpa using hgroup)
  rw [groupMeetings, hfilter, groupMeetings]

theorem groupMeetings_nodup (db : DbOrder Columns) (group : ClassKey) :
    ((groupMeetings clock db group table.rows).map LegacyMeeting.id).Nodup := by
  have hperm : (groupMeetings clock db group table.rows).Perm
      (table.rows.filter fun m => decide (m.classKey = group)) :=
    GreatestFirst.sort_perm.trans (db.rows_perm _)
  rw [(hperm.map LegacyMeeting.id).nodup_iff]
  exact table.keys.sublist (List.filter_sublist.map LegacyMeeting.id)

/-- One more group is finished. -/
theorem renamed_step (first : KeepsFirst clock db table kept)
    (renamed : Renamed table kept finished classId) (apart : Apart table kept finished group)
    (hgroup : group ∈ duplicateGroups table.rows) (hnew : group ∉ finished) :
    Renamed table kept (group :: finished) (stepIds clock db table.rows classId group) := by
  obtain ⟨head, tail, hlist, hhead⟩ := first group hgroup
  have hnodup : ((groupMeetings clock db group table.rows).map LegacyMeeting.id).Nodup :=
    groupMeetings_nodup db group
  rw [hlist, List.map_cons, List.nodup_cons] at hnodup
  have htail : ∀ m ∈ table.rows, m.id ∈ tail.map LegacyMeeting.id ↔
      m.classKey = group ∧ m.id ≠ kept group := by
    intro m hm
    constructor
    · intro hmem
      obtain ⟨row, hrow, hid⟩ := List.mem_map.mp hmem
      obtain ⟨hin, hkey⟩ := mem_groupMeetings.mp (hlist ▸ List.mem_cons_of_mem head hrow)
      rw [← table.eq_of_id hin hm hid]
      refine ⟨hkey, ?_⟩
      rw [← hhead]
      intro hsame
      exact hnodup.1 (hsame ▸ List.mem_map_of_mem hrow)
    · rintro ⟨hkey, hne⟩
      have hmem : m ∈ head :: tail := hlist ▸ mem_groupMeetings.mpr ⟨hm, hkey⟩
      rcases List.mem_cons.mp hmem with rfl | hmem
      · exact absurd hhead hne
      · exact List.mem_map_of_mem hmem
  intro m hm
  rw [stepIds, groupMeetings_renamed renamed apart hnew, hlist, List.tail_cons]
  by_cases hkey : m.classKey = group
  · by_cases hkept : m.id = kept group
    · rw [if_neg (fun hmem => ((htail m hm).mp hmem).2 hkept), renamed m hm, if_neg, if_neg]
      · rintro ⟨_, hne⟩
        exact hne (hkey ▸ hkept)
      · rintro ⟨_, hne⟩
        exact hne (hkey ▸ hkept)
    · rw [if_pos ((htail m hm).mpr ⟨hkey, hkept⟩), if_pos, hkey]
      exact ⟨by simp [hkey], hkey ▸ hkept⟩
  · rw [if_neg (fun hmem => hkey ((htail m hm).mp hmem).1), renamed m hm]
    simp [hkey]

/-- With fresh ids a whole run renames exactly the rows it does not keep. -/
theorem renamed_run (first : KeepsFirst clock db table kept)
    (fresh : ∀ a, IsRenamed table kept a → ∀ b ∈ table.rows,
      a.integrationClient = b.integrationClient →
        preservedId a.classKey a.id ≠ b.externalClassId)
    {groups : List ClassKey} (hgroups : ∀ group ∈ groups, group ∈ duplicateGroups table.rows)
    (hfinished : ∀ group ∈ finished, group ∈ duplicateGroups table.rows)
    (hnodup : groups.Nodup) (hnew : ∀ group ∈ groups, group ∉ finished)
    (renamed : Renamed table kept finished classId) :
    Renamed table kept (groups.reverse ++ finished)
      (groups.foldl (stepIds clock db table.rows) classId) := by
  induction groups generalizing finished classId with
  | nil => exact renamed
  | cons group groups ih =>
    have hgroup := hgroups group List.mem_cons_self
    have apart : Apart table kept finished group := by
      intro m hm hdone hne hclient
      obtain ⟨b, hb, rfl⟩ := exists_of_duplicate hgroup
      exact fresh m ⟨hm, hfinished _ hdone, hne⟩ b hb hclient
    rw [List.nodup_cons] at hnodup
    rw [List.reverse_cons, List.append_assoc, List.singleton_append, List.foldl_cons]
    refine ih (fun g hg => hgroups g (List.mem_cons_of_mem group hg)) ?_ hnodup.2 ?_
      (renamed_step first renamed apart hgroup (hnew group List.mem_cons_self))
    · intro g hg
      rcases List.mem_cons.mp hg with rfl | hg
      · exact hgroup
      · exact hfinished g hg
    · intro g hg hin
      rcases List.mem_cons.mp hin with rfl | hin
      · exact hnodup.1 hg
      · exact hnew g (List.mem_cons_of_mem group hg) hin

/-- The run over all groups, in the order of the database. -/
theorem renamed_all (first : KeepsFirst clock db table kept)
    (fresh : ∀ a, IsRenamed table kept a → ∀ b ∈ table.rows,
      a.integrationClient = b.integrationClient →
        preservedId a.classKey a.id ≠ b.externalClassId)
    (old : ∀ m ∈ table.rows, classId m.id = m.externalClassId) :
    Renamed table kept (duplicateGroups table.rows)
      ((db.groups (duplicateGroups table.rows)).foldl (stepIds clock db table.rows) classId) := by
  have hperm := db.groups_perm (duplicateGroups table.rows)
  have start : Renamed table kept [] classId := by
    intro m hm
    rw [old m hm, if_neg]
    rintro ⟨⟨⟩, _⟩
  have hrun := renamed_run first fresh (fun g hg => hperm.mem_iff.mp hg) (by simp)
    (hperm.nodup_iff.mpr (duplicateGroups_nodup _)) (by simp) start
  intro m hm
  rw [hrun m hm]
  simp [hperm.mem_iff]

theorem preserve_under (old : ∀ m ∈ table.rows, classId m.id = m.externalClassId) :
    preserveHistoricalDuplicates clock db table.rows = table.rows.map (LegacyMeeting.under
      ((db.groups (duplicateGroups table.rows)).foldl (stepIds clock db table.rows) classId)) := by
  rw [← preserveGroups_under, map_under_self old, preserveHistoricalDuplicates]

/-- Ids that are apart are what the constraint needs. -/
theorem preserves_of_renamed (choice : ChoosesKept clock table kept)
    (apart : NewIdsApart table kept)
    (renamed : Renamed table kept (duplicateGroups table.rows) classId) :
    Preserves clock table classId where
  unique := by
    intro a ha b hb hclient hsame
    rw [renamed a ha, renamed b hb] at hsame
    split at hsame
    · rename_i hrenamed
      split at hsame
      · rename_i hother
        exact apart.distinct a b ⟨ha, hrenamed⟩ ⟨hb, hother⟩ hclient hsame
      · exact absurd hsame (apart.fresh a ⟨ha, hrenamed⟩ b hb hclient)
    · rename_i hold
      split at hsame
      · rename_i hother
        exact absurd hsame.symm (apart.fresh b ⟨hb, hother⟩ a ha hclient.symm)
      · rename_i hother
        have hkey : a.classKey = b.classKey := key_of_id hclient hsame
        by_cases hgroup : a.classKey ∈ duplicateGroups table.rows
        · refine table.eq_of_id ha hb ?_
          have hkeptA : a.id = kept a.classKey := by
            by_contra hne
            exact hold ⟨hgroup, hne⟩
          have hkeptB : b.id = kept b.classKey := by
            by_contra hne
            exact hother ⟨hkey ▸ hgroup, hne⟩
          rw [hkeptA, hkeptB, hkey]
        · exact eq_of_not_duplicate ha hb hkey hgroup
  short := by
    intro m hm
    rw [renamed m hm]
    split
    · exact preservedId_length _ _
    · exact table.fits m hm
  outside := by
    intro m hm hnot
    rw [renamed m hm, if_neg]
    exact fun hrenamed => hnot hrenamed.1
  kept := by
    intro group hgroup
    obtain ⟨m, hkept, hid⟩ := choice group hgroup
    refine ⟨m, hkept, ?_⟩
    intro other hother hkey
    rw [renamed other hother]
    split
    · rename_i hrenamed
      constructor
      · intro hsame
        exact absurd hsame (apart.fresh other ⟨hother, hrenamed⟩ other hother rfl)
      · rintro rfl
        exact absurd (hkey ▸ hid) hrenamed.2
    · rename_i hold
      refine iff_of_true rfl (table.eq_of_id hother hkept.mem ?_)
      by_contra hne
      exact hold ⟨hkey ▸ hgroup, by rw [hkey, ← hid]; exact hne⟩

/-- Every order of the database keeps some choice. -/
theorem exists_choice (clock : TotalSeconds) (db : DbOrder Columns) (table : LegacyTable Columns) :
    ∃ kept, ChoosesKept clock table kept ∧ KeepsFirst clock db table kept := by
  refine ⟨fun group => match groupMeetings clock db group table.rows with
    | m :: _ => m.id
    | [] => Uuid.all 0, ?_⟩
  have nonempty : ∀ group ∈ duplicateGroups table.rows,
      ∃ m tail, groupMeetings clock db group table.rows = m :: tail := by
    intro group hgroup
    obtain ⟨m, hm, hkey⟩ := exists_of_duplicate hgroup
    exact List.exists_cons_of_ne_nil (List.ne_nil_of_mem (mem_groupMeetings.mpr ⟨hm, hkey⟩))
  constructor
  · intro group hgroup
    obtain ⟨m, tail, hlist⟩ := nonempty group hgroup
    obtain ⟨hm, hkey⟩ := mem_groupMeetings.mp (hlist ▸ List.mem_cons_self)
    refine ⟨m, ⟨hm, hkey, ?_⟩, by simp [hlist]⟩
    intro other hother hkey'
    refine GreatestFirst.head_greatest hlist other ?_
    exact (db.rows_perm _).mem_iff.mpr (List.mem_filter.mpr ⟨hother, by simpa using hkey'⟩)
  · intro group hgroup
    obtain ⟨m, tail, hlist⟩ := nonempty group hgroup
    exact ⟨m, tail, hlist, by simp [hlist]⟩

end Runs

/-- Chosen rows come first, and the groups in the given order. -/
def choosing (kept : ClassKey → Uuid) (order : List ClassKey) : DbOrder Columns where
  groups := fun l => if order.Perm l then order else l
  rows := fun l => (l.filter fun m => decide (m.id = kept m.classKey)) ++
    l.filter fun m => !decide (m.id = kept m.classKey)
  groups_perm := by
    intro l
    split
    · assumption
    · exact List.Perm.refl l
  rows_perm := fun l => List.filter_append_perm _ l

section Choosing
variable {clock : TotalSeconds} {table : LegacyTable Columns} {classId : Uuid → String}
  {kept : ClassKey → Uuid} {order : List ClassKey} {group : ClassKey}

/-- A chosen row of the group comes first among the rows that are sorted. -/
theorem choosing_first {m : LegacyMeeting Columns} (hm : m ∈ table.rows)
    (hid : m.id = kept group)
    (hkey : (⟨m.integrationClient, classId m.id⟩ : ClassKey) = group) :
    ∃ others, (choosing kept order).rows
        ((table.rows.map (LegacyMeeting.under classId)).filter
          fun row => decide (row.classKey = group)) = m.under classId :: others := by
  have hmem : m.under classId ∈ (table.rows.map (LegacyMeeting.under classId)).filter
      fun row => decide (row.classKey = group) := by
    refine List.mem_filter.mpr ⟨List.mem_map_of_mem hm, ?_⟩
    exact decide_eq_true hkey
  have honly : ∀ row ∈ (table.rows.map (LegacyMeeting.under classId)).filter
      (fun row => decide (row.classKey = group)), row.id = kept row.classKey →
        row = m.under classId := by
    intro row hrow hchosen
    obtain ⟨hrow, hgroup⟩ := List.mem_filter.mp hrow
    obtain ⟨old, hold, rfl⟩ := List.mem_map.mp hrow
    have hsame : old = m := by
      refine table.eq_of_id hold hm ?_
      rw [hid, ← of_decide_eq_true hgroup]
      exact hchosen
    rw [hsame]
  generalize (table.rows.map (LegacyMeeting.under classId)).filter
    (fun row => decide (row.classKey = group)) = listed at hmem honly
  have hchosen :
      m.under classId ∈ listed.filter fun row => decide (row.id = kept row.classKey) := by
    refine List.mem_filter.mpr ⟨hmem, ?_⟩
    have hunder : (m.under classId).classKey = group := hkey
    rw [hunder]
    exact decide_eq_true hid
  obtain ⟨row, others, hlist⟩ := List.exists_cons_of_ne_nil (List.ne_nil_of_mem hchosen)
  have hrow : row ∈ listed.filter fun row => decide (row.id = kept row.classKey) := by
    rw [hlist]
    exact List.mem_cons_self
  obtain ⟨hin, hrowid⟩ := List.mem_filter.mp hrow
  rw [honly row hin (of_decide_eq_true hrowid)] at hlist
  refine ⟨others ++ listed.filter fun m => !decide (m.id = kept m.classKey), ?_⟩
  simp only [choosing, hlist, List.cons_append]

theorem choosing_keepsFirst (choice : ChoosesKept clock table kept) :
    KeepsFirst clock (choosing kept order) table kept := by
  intro group hgroup
  obtain ⟨m, hkept, hid⟩ := choice group hgroup
  obtain ⟨classId, old⟩ := exists_classIds table
  have hkey : (⟨m.integrationClient, classId m.id⟩ : ClassKey) = group := by
    rw [old m hkept.mem]
    exact hkept.inGroup
  obtain ⟨others, hlisted⟩ : ∃ others, (choosing kept order).rows
      (table.rows.filter fun row => decide (row.classKey = group)) = m :: others := by
    obtain ⟨others, hlisted⟩ := choosing_first hkept.mem hid hkey
    rw [map_under_self old] at hlisted
    refine ⟨others, hlisted.trans ?_⟩
    rw [LegacyMeeting.under, old m hkept.mem]
  obtain ⟨tail, hsort⟩ : ∃ tail, GreatestFirst.sort (sortKey clock) (m :: others) = m :: tail := by
    refine GreatestFirst.sort_head ?_
    intro b hb
    have hmem :=
      ((choosing kept order).rows_perm _).mem_iff.mp (hlisted ▸ List.mem_cons_of_mem m hb)
    obtain ⟨hb, hgroup⟩ := List.mem_filter.mp hmem
    exact hkept.greatest b hb (of_decide_eq_true hgroup)
  exact ⟨m, tail, by rw [groupMeetings, hlisted, hsort], hid⟩

/-- A row that joins a group with its chosen row, and has no greater key, is renamed. -/
theorem stepIds_joined {a m : LegacyMeeting Columns} (ha : a ∈ table.rows) (hm : m ∈ table.rows)
    (hid : m.id = kept group) (hne : a ≠ m)
    (hkey : (⟨m.integrationClient, classId m.id⟩ : ClassKey) = group)
    (hjoined : (⟨a.integrationClient, classId a.id⟩ : ClassKey) = group)
    (hle : sortKey clock a ≤ sortKey clock m) :
    stepIds clock (choosing kept order) table.rows classId group a.id =
      preservedId group a.id := by
  obtain ⟨others, hlisted⟩ :
      ∃ others, (choosing kept order).rows ((table.rows.map (LegacyMeeting.under classId)).filter
        fun row => decide (row.classKey = group)) = m.under classId :: others :=
    choosing_first hm hid hkey
  have hother : a.under classId ∈ others := by
    have hmem : a.under classId ∈ m.under classId :: others := by
      rw [← hlisted, ((choosing kept order).rows_perm _).mem_iff, List.mem_filter]
      exact ⟨List.mem_map_of_mem ha, decide_eq_true hjoined⟩
    refine (List.mem_cons.mp hmem).resolve_left ?_
    intro hsame
    have hids : (a.under classId).id = (m.under classId).id := by rw [hsame]
    exact hne (table.eq_of_id ha hm hids)
  have htail : a.under classId ∈ (groupMeetings clock (choosing kept order) group
      (table.rows.map (LegacyMeeting.under classId))).tail := by
    rw [groupMeetings, hlisted]
    exact GreatestFirst.mem_tail hle hother
  exact if_pos (List.mem_map_of_mem htail)

theorem choosing_groups {groups : List ClassKey} (h : order.Perm groups) :
    (choosing kept order : DbOrder Columns).groups groups = order := if_pos h

/-- A run that loses nothing, with the ids it ends with. -/
theorem losesNothing_ids (old : ∀ m ∈ table.rows, classId m.id = m.externalClassId)
    (horder : order.Perm (duplicateGroups table.rows))
    (h : LosesNothing clock table (choosing kept order)) :
    Preserves clock table
      (order.foldl (stepIds clock (choosing kept order) table.rows) classId) := by
  obtain ⟨classId', hrun, preserves⟩ := h
  rw [preserve_under old, choosing_groups horder] at hrun
  have agree : ∀ m ∈ table.rows, classId' m.id =
      order.foldl (stepIds clock (choosing kept order) table.rows) classId m.id := by
    intro m hm
    have hunder := List.map_inj_left.mp hrun m hm
    exact (congrArg LegacyMeeting.externalClassId hunder).symm
  constructor
  · intro a ha b hb hclient hsame
    rw [← agree a ha, ← agree b hb] at hsame
    exact preserves.unique a ha b hb hclient hsame
  · intro m hm
    rw [← agree m hm]
    exact preserves.short m hm
  · intro m hm hout
    rw [← agree m hm]
    exact preserves.outside m hm hout
  · intro group hgroup
    obtain ⟨m, hkept, honly⟩ := preserves.kept group hgroup
    refine ⟨m, hkept, ?_⟩
    intro other hother hkey
    rw [← agree other hother]
    exact honly other hother hkey

/-- The first group is read as it was. -/
theorem renamed_first (order : List ClassKey) (choice : ChoosesKept clock table kept)
    (old : ∀ m ∈ table.rows, classId m.id = m.externalClassId)
    (hgroup : group ∈ duplicateGroups table.rows) :
    Renamed table kept [group]
      (stepIds clock (choosing kept order) table.rows classId group) := by
  have start : Renamed table kept [] classId := by
    intro m hm
    rw [old m hm, if_neg]
    rintro ⟨⟨⟩, _⟩
  exact renamed_step (choosing_keepsFirst choice) start (by rintro m _ ⟨⟩) hgroup (by simp)

section Fresh
variable {a b : LegacyMeeting Columns}

/-- If the id that a row gets is that of no duplicate, or its own, its group goes first. -/
theorem fresh_outside (choice : ChoosesKept clock table kept)
    (loses : ∀ db, LosesNothing clock table db) (renames : IsRenamed table kept a)
    (hb : b ∈ table.rows) (hclient : a.integrationClient = b.integrationClient)
    (h : b.classKey ∉ duplicateGroups table.rows ∨ b.classKey = a.classKey) :
    preservedId a.classKey a.id ≠ b.externalClassId := by
  intro hnew
  obtain ⟨ha, hgroup, hne⟩ := renames
  obtain ⟨classId, old⟩ := exists_classIds table
  have horder := (List.perm_cons_erase hgroup).symm
  have hnodup := horder.nodup_iff.mpr (duplicateGroups_nodup _)
  generalize (duplicateGroups table.rows).erase a.classKey = rest at horder hnodup
  have preserves := losesNothing_ids old horder (loses (choosing kept (a.classKey :: rest)))
  have renamed := renamed_first (a.classKey :: rest) choice old hgroup
  rw [List.nodup_cons] at hnodup
  have hrest : ∀ g ∈ rest, g ∈ duplicateGroups table.rows :=
    fun g hg => horder.mem_iff.mp (List.mem_cons_of_mem _ hg)
  rw [List.foldl_cons] at preserves
  generalize stepIds clock (choosing kept (a.classKey :: rest)) table.rows classId a.classKey =
    first at preserves renamed
  have haFirst : first a.id = b.externalClassId := by
    rw [renamed a ha, if_pos ⟨by simp, hne⟩, hnew]
  have haKey : (⟨a.integrationClient, first a.id⟩ : ClassKey) = b.classKey :=
    key_of_id hclient haFirst
  rcases h with hout | hown
  · have hbFirst : first b.id = b.externalClassId := by
      rw [renamed b hb, if_neg]
      rintro ⟨hin, _⟩
      exact hout (List.mem_singleton.mp hin ▸ hgroup)
    have hbKey : (⟨b.integrationClient, first b.id⟩ : ClassKey) = b.classKey :=
      key_of_id rfl hbFirst
    have hsame : a = b := by
      refine preserves.unique a ha b hb hclient ?_
      rw [runIds_other ha (by rw [haKey]; exact fun hin => hout (hrest _ hin)),
        runIds_other hb (by rw [hbKey]; exact fun hin => hout (hrest _ hin)), haFirst, hbFirst]
    exact hout (hsame ▸ hgroup)
  · obtain ⟨m, hkept, hid⟩ := choice a.classKey hgroup
    have hmFirst : first m.id = m.externalClassId := by
      rw [renamed m hkept.mem, if_neg]
      rintro ⟨_, hother⟩
      exact hother (by rw [hkept.inGroup, hid])
    have hmKey : (⟨m.integrationClient, first m.id⟩ : ClassKey) = a.classKey :=
      (key_of_id rfl hmFirst).trans hkept.inGroup
    obtain ⟨only, _, honly⟩ := preserves.kept a.classKey hgroup
    have ham : a = only := by
      refine (honly a ha rfl).mp ?_
      rw [runIds_other ha (by rw [haKey, hown]; exact hnodup.1), haFirst]
      exact congrArg ClassKey.externalClassId hown
    have hmm : m = only := by
      refine (honly m hkept.mem hkept.inGroup).mp ?_
      rw [runIds_other hkept.mem (by rw [hmKey]; exact hnodup.1), hmFirst]
    exact hne ((congrArg LegacyMeeting.id (ham.trans hmm.symm)).trans hid)

/-- Two groups can be the first ones. -/
theorem exists_perm_two {groups : List ClassKey} {g h : ClassKey} (hg : g ∈ groups)
    (hh : h ∈ groups) (hne : h ≠ g) : ∃ rest, (g :: h :: rest).Perm groups := by
  have hfirst := (List.perm_cons_erase hg).symm
  have hmem : h ∈ groups.erase g := (List.mem_erase_of_ne hne).mpr hh
  exact ⟨_, ((List.perm_cons_erase hmem).symm.cons _).trans hfirst⟩

/-- If the id that a row gets is that of another duplicate group, that group goes first, and the
row's own group second. -/
theorem fresh_inside (choice : ChoosesKept clock table kept)
    (loses : ∀ db, LosesNothing clock table db) (renames : IsRenamed table kept a)
    (hclient : a.integrationClient = b.integrationClient)
    (hin : b.classKey ∈ duplicateGroups table.rows) (hother : b.classKey ≠ a.classKey) :
    preservedId a.classKey a.id ≠ b.externalClassId := by
  intro hnew
  obtain ⟨ha, hgroup, hne⟩ := renames
  obtain ⟨classId, old⟩ := exists_classIds table
  obtain ⟨rest, horder⟩ := exists_perm_two hin hgroup hother.symm
  have hnodup := horder.nodup_iff.mpr (duplicateGroups_nodup _)
  simp only [List.nodup_cons, List.mem_cons, not_or] at hnodup
  generalize horders : b.classKey :: a.classKey :: rest = order at horder
  have preserves := losesNothing_ids old horder (loses (choosing kept order))
  have renamed := renamed_first order choice old hin
  obtain ⟨mA, hkeptA, hidA⟩ := choice a.classKey hgroup
  obtain ⟨mB, hkeptB, hidB⟩ := choice b.classKey hin
  rw [← horders, List.foldl_cons, List.foldl_cons, horders] at preserves
  generalize stepIds clock (choosing kept order) table.rows classId b.classKey =
    first at preserves renamed
  have keeps : ∀ m ∈ table.rows, (m.classKey = b.classKey → m.id = kept b.classKey) →
      first m.id = m.externalClassId := by
    intro m hm hown
    rw [renamed m hm, if_neg]
    rintro ⟨hkey, hnot⟩
    rw [List.mem_singleton.mp hkey] at hnot
    exact hnot (hown (List.mem_singleton.mp hkey))
  have haFirst := keeps a ha fun hkey => absurd hkey.symm hother
  have hmAFirst := keeps mA hkeptA.mem fun hkey =>
    absurd (hkey.symm.trans hkeptA.inGroup) hother
  have hmBFirst := keeps mB hkeptB.mem fun _ => hidB
  have hmBKey : (⟨mB.integrationClient, first mB.id⟩ : ClassKey) = b.classKey :=
    (key_of_id rfl hmBFirst).trans hkeptB.inGroup
  have haSecond : stepIds clock (choosing kept order) table.rows first a.classKey a.id =
      b.externalClassId := by
    rw [← hnew]
    refine stepIds_joined ha hkeptA.mem hidA ?_ ?_ ?_ (hkeptA.greatest a ha rfl)
    · rintro rfl
      exact hne hidA
    · exact (key_of_id rfl hmAFirst).trans hkeptA.inGroup
    · exact key_of_id rfl haFirst
  have hmBSecond : stepIds clock (choosing kept order) table.rows first a.classKey mB.id =
      b.externalClassId := by
    rw [stepIds_other hkeptB.mem (by rw [hmBKey]; exact hother), hmBFirst]
    exact congrArg ClassKey.externalClassId hkeptB.inGroup
  have hclientB : mB.integrationClient = b.integrationClient :=
    congrArg ClassKey.client hkeptB.inGroup
  have hsame : a = mB := by
    refine preserves.unique a ha mB hkeptB.mem (hclient.trans hclientB.symm) ?_
    rw [runIds_other ha, runIds_other hkeptB.mem, haSecond, hmBSecond]
    · rw [hmBSecond, hclientB]
      exact hnodup.1.2
    · rw [haSecond, hclient]
      exact hnodup.1.2
  exact hother (hkeptB.inGroup.symm.trans (congrArg LegacyMeeting.classKey hsame).symm)

end Fresh

end Choosing

/-- Whatever order the database takes, the migration enables the constraint and loses nothing,
exactly if for each choice of a maximal row to keep in each duplicate group the new ids of the
others are apart from the ids of their client and from each other. -/
theorem preserves_duplicates_iff {clock : TotalSeconds} {table : LegacyTable Columns} :
    (∀ db, LosesNothing clock table db) ↔
      ∀ kept, ChoosesKept clock table kept → NewIdsApart table kept := by
  obtain ⟨classId, old⟩ := exists_classIds table
  constructor
  · intro loses kept choice
    have fresh : ∀ a, IsRenamed table kept a → ∀ b ∈ table.rows,
        a.integrationClient = b.integrationClient →
          preservedId a.classKey a.id ≠ b.externalClassId := by
      intro a renames b hb hclient
      by_cases houtside : b.classKey ∉ duplicateGroups table.rows ∨ b.classKey = a.classKey
      · exact fresh_outside choice loses renames hb hclient houtside
      · simp only [not_or, not_not] at houtside
        exact fresh_inside choice loses renames hclient houtside.1 houtside.2
    refine ⟨fresh, ?_⟩
    intro a b ha hb hclient hsame
    have hgroups := List.Perm.refl (duplicateGroups table.rows)
    have preserves := losesNothing_ids old hgroups
      (loses (choosing kept (duplicateGroups table.rows)))
    have first : KeepsFirst clock (choosing kept (duplicateGroups table.rows)) table kept :=
      choosing_keepsFirst choice
    have renamed := renamed_all first fresh old
    rw [choosing_groups hgroups] at renamed
    refine preserves.unique a ha.1 b hb.1 hclient ?_
    rw [renamed a ha.1, renamed b hb.1, if_pos ha.2, if_pos hb.2, hsame]
  · intro apart db
    obtain ⟨kept, choice, first⟩ := exists_choice clock db table
    exact ⟨_, preserve_under old, preserves_of_renamed choice (apart kept choice)
      (renamed_all first (apart kept choice).fresh old)⟩

def inOrder : DbOrder Unit where
  groups := id
  rows := id
  groups_perm := List.Perm.refl
  rows_perm := List.Perm.refl

def exampleLegacy (digit : Fin 16) (classId : String) : LegacyMeeting Unit where
  id := Uuid.all digit
  integrationClient := 1
  externalClassId := classId
  providerCalendarId := none
  status := "READY"
  reservationActive := true
  createdAt := 0
  columns := ()

def exampleLegacyRows : List (LegacyMeeting Unit) :=
  [exampleLegacy ⟨1, by decide⟩ "algebra", exampleLegacy ⟨2, by decide⟩ "algebra",
    exampleLegacy ⟨3, by decide⟩ "algebra~legacy-22222222"]

theorem exampleLegacyRows_keys : (exampleLegacyRows.map LegacyMeeting.id).Nodup := by decide

theorem exampleLegacyRows_fit : ∀ m ∈ exampleLegacyRows, m.externalClassId.length ≤ 160 := by
  decide

def exampleLegacyTable : LegacyTable Unit :=
  ⟨exampleLegacyRows, exampleLegacyRows_keys, exampleLegacyRows_fit⟩

/-- The second row of the class gets the id that the third one has. -/
theorem legacy_id_collides : ¬ ∃ clock, LosesNothing clock exampleLegacyTable inOrder := by
  rintro ⟨clock, classId, hrun, preserves⟩
  have hgroups : duplicateGroups exampleLegacyTable.rows = [⟨1, "algebra"⟩] := by decide
  have hmeetings : groupMeetings clock inOrder ⟨1, "algebra"⟩ exampleLegacyTable.rows =
      [exampleLegacy 1 "algebra", exampleLegacy 2 "algebra"] := by
    have hlisted : inOrder.rows (exampleLegacyTable.rows.filter
        fun m => decide (m.classKey = ⟨1, "algebra"⟩)) =
          [exampleLegacy 1 "algebra", exampleLegacy 2 "algebra"] := by
      rfl
    obtain ⟨tail, hsort⟩ : ∃ tail, GreatestFirst.sort (sortKey clock)
        [exampleLegacy 1 "algebra", exampleLegacy 2 "algebra"] =
          exampleLegacy 1 "algebra" :: tail := by
      refine GreatestFirst.sort_head ?_
      intro b hb
      rw [List.mem_singleton.mp hb]
      exact le_refl _
    have hperm : (exampleLegacy 1 "algebra" :: tail).Perm
        [exampleLegacy 1 "algebra", exampleLegacy 2 "algebra"] := hsort ▸ GreatestFirst.sort_perm
    rw [groupMeetings, hlisted, hsort, List.perm_singleton.mp hperm.cons_inv]
  have hrows : preserveGroup clock inOrder exampleLegacyTable.rows ⟨1, "algebra"⟩ =
      [exampleLegacy 1 "algebra", exampleLegacy 2 "algebra~legacy-22222222",
        exampleLegacy 3 "algebra~legacy-22222222"] := by
    rw [preserveGroup, hmeetings]
    rfl
  rw [preserveHistoricalDuplicates, hgroups] at hrun
  have hafter := hrows.symm.trans hrun
  simp only [exampleLegacyTable, exampleLegacyRows, List.map_cons, List.map_nil,
    List.cons.injEq] at hafter
  obtain ⟨_, hsecond, hthird, _⟩ := hafter
  have hids : classId (Uuid.all 2) = classId (Uuid.all 3) :=
    (congrArg LegacyMeeting.externalClassId hsecond).symm.trans
      (congrArg LegacyMeeting.externalClassId hthird)
  have hsame := preserves.unique
    (exampleLegacy 2 "algebra") (by simp [exampleLegacyTable, exampleLegacyRows])
    (exampleLegacy 3 "algebra~legacy-22222222")
    (by simp [exampleLegacyTable, exampleLegacyRows]) rfl hids
  exact absurd (congrArg LegacyMeeting.id hsame) (by decide)

end MeetingGateway
