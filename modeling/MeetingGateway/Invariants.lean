import MeetingGateway.System

/-!
# What holds of every reachable world

The life of every row is sound, a row that does not exist has no work in progress, no two
rows share a client and a class, and the rooms keep their accounts. One step keeps all
of it, so every run does.
-/

namespace MeetingGateway

open LabelledRuns

/-- The provider account of each stored room. -/
def accountsOf (s : Store) : RoomId → Option String := fun id => (s.room? id).map Room.username

structure World.Sound (cfg : Settings) (accounts : RoomId → Option String) (w : World) :
    Prop where
  rows : ∀ m, w.store.meeting? m.id = some m →
    MeetingGateway.Sound cfg accounts m (w.sessions m.id)
  idle : ∀ pk, w.store.meeting? pk = none → w.sessions pk = Session.idle
  unique : ∀ m m', w.store.meeting? m.id = some m → w.store.meeting? m'.id = some m' →
    m.integrationClient = m'.integrationClient → m.externalClassId = m'.externalClassId →
    m.id = m'.id
  accounts : accountsOf w.store = accounts

/-- How an effect settles: it saves nothing, its save goes through, or it is refused. -/
inductive Settled (w : World) (pk : MeetingId) : Effect → World → Prop
  | quiet {session : Session} {roomLock : RoomId → Option MeetingId} {excluded : Bool} :
      Settled w pk (.quiet session roomLock excluded) { w with
        sessions := Function.update w.sessions pk session
        roomLock := roomLock
        excluded := if excluded then pk :: w.excluded else w.excluded }
  | saved {row : Meeting} {done failed : Session} : row.checks = true →
      w.store.excluded row = false →
      Settled w pk (.write row done failed) { w with
        store := w.store.putMeeting row
        sessions := Function.update w.sessions pk done
        roomLock := releaseRooms w.roomLock pk }
  | unsaved {row : Meeting} {done failed : Session} {e : DbError} :
      w.store.save row = .error e →
      Settled w pk (.write row done failed) { w with
        sessions := Function.update w.sessions pk failed
        roomLock := releaseRooms w.roomLock pk
        excluded := if e = .exclusion then pk :: w.excluded else w.excluded }

theorem settle_settled (w : World) (pk : MeetingId) (effect : Effect) :
    Settled w pk effect (w.settle pk effect) := by
  cases effect with
  | quiet session roomLock excluded => exact .quiet
  | write row done failed =>
    cases hsave : w.store.save row with
    | ok store =>
      obtain ⟨hchecks, hexcluded, rfl⟩ := Store.save_ok hsave
      simp only [World.settle, hsave]
      exact .saved hchecks hexcluded
    | error e =>
      simp only [World.settle, hsave]
      exact .unsaved hsave

theorem Store.meeting?_put {s : Store} {row old m : Meeting} (stored : s.meeting? row.id = some old)
    (h : (s.putMeeting row).meeting? m.id = some m) :
    (m.id = row.id ∧ m = row) ∨ (m.id ≠ row.id ∧ s.meeting? m.id = some m) := by
  by_cases he : m.id = row.id
  · rw [he, Store.meeting?_putMeeting_self stored] at h
    exact Or.inl ⟨he, (Option.some.inj h).symm⟩
  · rw [Store.meeting?_putMeeting_of_ne he] at h
    exact Or.inr ⟨he, h⟩

section Steps
variable {cfg : Settings} {accounts : RoomId → Option String} {w w' : World}

theorem World.Sound.rooms (h : w.Sound cfg accounts) (room : Room)
    (stored : w.store.room? room.id = some room) : accounts room.id = some room.username := by
  rw [← h.accounts]
  simp [accountsOf, stored]

/-- A row of an existing meeting keeps its key, so keys stay unique. -/
theorem unique_put (h : w.Sound cfg accounts) {row old : Meeting}
    (stored : w.store.meeting? row.id = some old) (same : row.identity = old.identity) :
    ∀ m m', (w.store.putMeeting row).meeting? m.id = some m →
      (w.store.putMeeting row).meeting? m'.id = some m' →
      m.integrationClient = m'.integrationClient → m.externalClassId = m'.externalClassId →
      m.id = m'.id := by
  have hid : old.id = row.id := Store.meeting?_id stored
  have before : ∀ m, (w.store.putMeeting row).meeting? m.id = some m →
      ∃ m₀, w.store.meeting? m₀.id = some m₀ ∧ m₀.id = m.id ∧
        m₀.integrationClient = m.integrationClient ∧ m₀.externalClassId = m.externalClassId := by
    intro m hm
    rcases Store.meeting?_put stored hm with ⟨he, rfl⟩ | ⟨_, hold⟩
    · refine ⟨old, by rw [hid]; exact stored, hid, ?_, ?_⟩
      · exact (congrArg Identity.client same).symm
      · exact (congrArg Identity.classId same).symm
    · exact ⟨m, hold, rfl, rfl, rfl⟩
  intro m m' hm hm' hclient hclass
  obtain ⟨m₀, hm₀, hid₀, hclient₀, hclass₀⟩ := before m hm
  obtain ⟨m₁, hm₁, hid₁, hclient₁, hclass₁⟩ := before m' hm'
  have heq := h.unique m₀ m₁ hm₀ hm₁ (by rw [hclient₀, hclient₁, hclient])
    (by rw [hclass₀, hclass₁, hclass])
  rw [← hid₀, ← hid₁, heq]

/-- A session of an existing row changes and the store does not. -/
theorem World.Sound.session (h : w.Sound cfg accounts) {pk : MeetingId} {row : Meeting}
    {session : Session} {roomLock : RoomId → Option MeetingId} {excluded : List MeetingId}
    (stored : w.store.meeting? pk = some row)
    (sound : MeetingGateway.Sound cfg accounts row session) :
    World.Sound cfg accounts
      ⟨w.store, Function.update w.sessions pk session, roomLock, excluded⟩ where
  rows := by
    intro m hm
    by_cases he : m.id = pk
    · subst he
      rw [stored] at hm
      cases hm
      simpa using sound
    · simpa [he] using h.rows m hm
  idle := by
    intro pk' hpk
    have hne : pk' ≠ pk := by
      rintro rfl
      rw [stored] at hpk
      cases hpk
    simpa [hne] using h.idle pk' hpk
  unique := h.unique
  accounts := h.accounts

theorem World.Sound.operated (h : w.Sound cfg accounts) {row : Meeting} {op : Operation}
    {effect : Effect}
    (stored : w.store.meeting? row.id = some row) (move : Move cfg (w.scene row) op effect)
    (settled : Settled w row.id effect w') : w'.Sound cfg accounts := by
  have hrow := h.rows row stored
  have heffect := Sound.move (w.scene row) hrow h.rooms move
  cases settled with
  | quiet => exact h.session stored heffect
  | @saved row' done failed _ _ =>
    obtain ⟨hid, same, hdone, _⟩ := heffect
    have hid' : row'.id = row.id := hid
    have stored' : w.store.meeting? row'.id = some row := by
      rw [hid']
      exact stored
    refine ⟨?_, ?_, unique_put h stored' same, h.accounts⟩
    · intro m hm
      rcases Store.meeting?_put stored' hm with ⟨he, rfl⟩ | ⟨he, hold⟩
      · rw [he, hid']
        simpa using hdone
      · have hne : m.id ≠ row.id := by
          rw [← hid']
          exact he
        simpa [hne] using h.rows m hold
    · intro pk hpk
      have hne : pk ≠ row'.id := by
        rintro rfl
        have hself := Store.meeting?_putMeeting_self stored'
        rw [hpk] at hself
        cases hself
      have hold : w.store.meeting? pk = none := by
        rw [← hpk]
        exact (Store.meeting?_putMeeting_of_ne hne).symm
      have hne' : pk ≠ row.id := by
        rw [← hid']
        exact hne
      simpa [hne'] using h.idle pk hold
  | unsaved _ =>
    obtain ⟨_, _, _, hfailed⟩ := heffect
    exact h.session stored hfailed

/-- A row that a request has just created is sound. -/
theorem sound_draft (values : CreateValues) (pk : MeetingId) (client : ClientId)
    (r : RequestId) (now : Int) :
    MeetingGateway.Sound cfg accounts (values.draft pk client now)
      (Session.opened r client values) where
  origin := ⟨client, values, rfl, rfl⟩
  requests := by
    intro r' q hq
    have hput : (Session.idle.put r ⟨values, .registered⟩).requests r' = some q := hq
    rw [requests_put] at hput
    by_cases he : r' = r
    · rw [if_pos he] at hput
      cases hput
      exact ⟨rfl, (fun hl => by cases hl), trivial⟩
    · rw [if_neg he] at hput
      cases hput
  locked := by
    intro r' hl
    cases hl
  single := by
    intro r₁ r₂ v v' f f' h₁ _
    have hput : (Session.idle.put r ⟨values, .registered⟩).requests r₁ =
      some ⟨v, .calling f⟩ := h₁
    rw [requests_put] at hput
    by_cases he : r₁ = r
    · rw [if_pos he] at hput
      cases hput
    · rw [if_neg he] at hput
      cases hput
  calls := by
    have none_sent : ∀ i c, (Session.opened r client values).calls i ≠ some c := by
      intro i c hc
      cases hc
    exact ⟨fun i _ c _ hc => absurd hc (none_sent i c), fun i c hc => absurd hc (none_sent i c),
      fun i c hc => absurd hc (none_sent i c), fun i c hc => absurd hc (none_sent i c),
      fun _ i c hc => absurd hc (none_sent i c)⟩
  row := by
    refine ⟨rfl, rfl, fun _ => rfl, fun hd => absurd rfl hd, ?_, ?_, ?_⟩
    · intro p hp
      cases hp
    · intro hr
      cases hr
    · intro he
      cases he

theorem keyed_iff {client : ClientId} {classId : String} {m : Meeting} :
    m.keyed client classId = true ↔ m.integrationClient = client ∧ m.externalClassId = classId := by
  simp [Meeting.keyed]

/-- A row with this key that agrees on the compared fields is this very request's. A time that
comes twice or is left out in the service time zone agrees with no stored one. -/
theorem identity_of_sameRequest {m : Meeting} {values : CreateValues} {client : ClientId}
    (keyed : m.keyed client values.classInfo.id = true)
    (times : m.startAt.isSome = true ∧ m.endAt.isSome = true) :
    m.sameRequest values = true ↔
      m.identity = values.identity client ∧ values.ambiguous = false := by
  obtain ⟨hclient, hclass⟩ := keyed_iff.mp keyed
  obtain ⟨s, hs⟩ := Option.isSome_iff_exists.mp times.1
  obtain ⟨e, he⟩ := Option.isSome_iff_exists.mp times.2
  simp only [Meeting.sameRequest, Meeting.identity, CreateValues.identity, hs, he, sameTime,
    Datetime.utc_eq, CreateValues.ambiguous, Bool.or_eq_false_iff, Bool.and_eq_true,
    decide_eq_true_eq, Identity.mk.injEq, hclient, hclass, true_and, Option.some.injEq]
  tauto

theorem Sound.times {m : Meeting} {s : Session} (h : MeetingGateway.Sound cfg accounts m s) :
    m.startAt.isSome = true ∧ m.endAt.isSome = true := by
  obtain ⟨client, values, _, hid⟩ := h.origin
  have hstart : m.startAt = some values.startAt.instant := congrArg Identity.startAt hid
  have hend : m.endAt = some values.endAt.instant := congrArg Identity.endAt hid
  exact ⟨by rw [hstart]; rfl, by rw [hend]; rfl⟩

/-- A request that finds its row joins the work on it. -/
theorem Sound.join {m : Meeting} {s : Session} (h : MeetingGateway.Sound cfg accounts m s)
    {r : RequestId} {client : ClientId} {values : CreateValues}
    (keyed : m.keyed client values.classInfo.id = true) (same : m.sameRequest values = true)
    (unused : s.requests r = none) :
    MeetingGateway.Sound cfg accounts m (s.put r ⟨values, .registered⟩) := by
  obtain ⟨hclient, _⟩ := keyed_iff.mp keyed
  have hidentity : m.identity = values.identity m.integrationClient := by
    rw [hclient]
    exact ((identity_of_sameRequest keyed h.times).mp same).1
  refine h.put s.lock ⟨hidentity, (fun hl => by cases hl), trivial⟩ ?_
    (fun _ _ => Iff.rfl) (fun f hf => by cases hf)
  intro hl
  obtain ⟨q, hq, _⟩ := h.locked r hl
  rw [unused] at hq
  cases hq

theorem accountsOf_editRoom (s : Store) (id : RoomId) (isActive : Bool) (priority : Int)
    (config : Json) :
    accountsOf (s.editRoom id (Room.edit isActive priority config) (fun _ => rfl) fun _ => rfl) =
      accountsOf s := by
  funext pk
  simp only [accountsOf, Store.room?, Store.editRoom, KeyedTable.get?_mapRows, Option.map_map]
  congr 1
  funext room
  by_cases h : room.id = id
  · simp [h, Room.edit]
  · simp [h]

theorem World.Sound.change (h : w.Sound cfg accounts) {l : Label} (change : Change cfg w l w') :
    w'.Sound cfg accounts := by
  cases change with
  | refused _ => exact h
  | @created r pk client values now fresh _ absent =>
    refine ⟨?_, ?_, ?_, h.accounts⟩
    · intro m hm
      rcases Store.meeting?_insert fresh hm with ⟨he, rfl⟩ | ⟨he, hold⟩
      · show MeetingGateway.Sound cfg accounts _ (Function.update w.sessions pk _ pk)
        rw [Function.update_self]
        exact sound_draft values pk client r now
      · have hne : m.id ≠ pk := he
        simpa [hne] using h.rows m hold
    · intro pk' hpk
      have hne : pk' ≠ pk := by
        rintro rfl
        have hself : (w.store.insertMeeting (values.draft pk' client now) fresh).meeting? pk' =
          some (values.draft pk' client now) := Store.meeting?_insert_self fresh
        have hnone : some (values.draft pk' client now) = none := hself.symm.trans hpk
        cases hnone
      have hold : w.store.meeting? pk' = none := by
        rw [← hpk]
        exact (Store.meeting?_insert_of_ne fresh hne).symm
      simpa [hne] using h.idle pk' hold
    · have apart : ∀ m, w.store.meeting? m.id = some m → m.integrationClient = client →
          m.externalClassId ≠ values.classInfo.id := by
        intro m hm hclient hclass
        have hnot := absent m (KeyedTable.get?_eq_some.mp hm).1
        rw [keyed_iff.mpr ⟨hclient, hclass⟩] at hnot
        cases hnot
      intro m m' hm hm' hclient hclass
      rcases Store.meeting?_insert fresh hm with ⟨_, rfl⟩ | ⟨_, hold⟩
      · rcases Store.meeting?_insert fresh hm' with ⟨_, rfl⟩ | ⟨_, hold'⟩
        · rfl
        · exact absurd hclass.symm (apart m' hold' hclient.symm)
      · rcases Store.meeting?_insert fresh hm' with ⟨_, rfl⟩ | ⟨_, hold'⟩
        · exact absurd hclass (apart m hold hclient)
        · exact h.unique m m' hold hold' hclient hclass
  | joined stored keyed same unused =>
    exact h.session stored ((h.rows _ stored).join keyed same unused)
  | operated stored move => exact h.operated stored move (settle_settled _ _ _)
  | roomEdited _ =>
    exact ⟨h.rows, h.idle, h.unique, (accountsOf_editRoom _ _ _ _ _).trans h.accounts⟩
  | systemPresetEdited => exact ⟨h.rows, h.idle, h.unique, h.accounts⟩
  | clientPresetEdited => exact ⟨h.rows, h.idle, h.unique, h.accounts⟩

end Steps

theorem sound_initial (cfg : Settings) (store : Store) :
    (World.initial store).Sound cfg (accountsOf store) where
  rows := by
    intro m hm
    cases hm
  idle := fun _ _ => rfl
  unique := by
    intro m m' hm
    cases hm
  accounts := rfl

theorem reached_sound {cfg : Settings} {store : Store} {w : World} (h : Reached cfg store w) :
    w.Sound cfg (accountsOf store) :=
  h.invariant (sound_initial cfg store) fun _ _ _ _ ha hs => ha.change (step_change hs)

/-- The other session knows every call and the first PROVISIONING commit of this one. -/
structure Session.Extends (s t : Session) : Prop where
  provisioned : ∀ p, s.history.provisioned = some p → t.history.provisioned = some p
  calls : ∀ i c, s.calls i = some c → ∃ rejected created,
    t.calls i = some { c with rejected := rejected, created := created } ∧
      (c.created = true → created = true)

theorem Session.Extends.refl (s : Session) : s.Extends s :=
  ⟨fun _ hp => hp, fun _ c hc => ⟨c.rejected, c.created, hc, fun hcreated => hcreated⟩⟩

theorem Session.Extends.trans {s t u : Session} (hst : s.Extends t) (htu : t.Extends u) :
    s.Extends u where
  provisioned := fun p hp => htu.provisioned p (hst.provisioned p hp)
  calls := by
    intro i c hc
    obtain ⟨rejected, created, ht, hcreated⟩ := hst.calls i c hc
    obtain ⟨rejected', created', hu, hcreated'⟩ := htu.calls i _ ht
    exact ⟨rejected', created', hu, fun h => hcreated' (hcreated h)⟩

/-- A session with the same calls and the same first commit. -/
theorem Session.Extends.same {s t : Session} (calls : t.calls = s.calls)
    (provisioned : t.history.provisioned = s.history.provisioned) : s.Extends t where
  provisioned := by
    intro p hp
    rw [provisioned]
    exact hp
  calls := by
    intro i c hc
    rw [calls]
    exact ⟨c.rejected, c.created, hc, fun hcreated => hcreated⟩

/-- A call's flags change, and a created meeting stays created. -/
theorem Session.Extends.flags {s t : Session} {id : CallId} {call : Call} {rejected created : Bool}
    (stored : s.calls id = some call)
    (calls : t.calls = Function.update s.calls id
      (some { call with rejected := rejected, created := created }))
    (history : t.history = s.history) (keeps : call.created = true → created = true) :
    s.Extends t where
  provisioned := by
    intro p hp
    rw [history]
    exact hp
  calls := by
    intro i c hc
    rw [calls]
    by_cases he : i = id
    · subst he
      rw [stored] at hc
      cases hc
      exact ⟨rejected, created, Function.update_self .., keeps⟩
    · exact ⟨c.rejected, c.created, by rw [Function.update_of_ne he]; exact hc,
        fun hcreated => hcreated⟩

theorem told_extends {sc : Scene} {id : CallId} {call : Call} {result : HttpResult} {t : Session}
    (stored : sc.session.calls id = some call)
    (calls : t.calls = (sc.told id call result).calls)
    (history : t.history = sc.session.history) : sc.session.Extends t := by
  unfold Scene.told at calls
  split at calls
  · exact .flags stored calls history fun hcreated => hcreated
  · exact .same calls (congrArg History.provisioned history)

/-- No effect of a move forgets anything. -/
def Effect.Extends (s : Session) : Effect → Prop
  | .quiet session _ _ => s.Extends session
  | .write _ done failed => s.Extends done ∧ s.Extends failed

theorem Move.extends {cfg : Settings} {sc : Scene} {op : Operation} {effect : Effect}
    (move : Move cfg sc op effect) :
    effect.Extends sc.session := by
  cases move with
  | leave _ => exact .same rfl rfl
  | resume _ _ _ => exact .same rfl rfl
  | allocate _ _ _ => exact .same rfl rfl
  | skip _ => exact .same rfl rfl
  | reserve _ _ _ _ _ _ _ => exact .same rfl rfl
  | provision _ _ _ _ _ =>
    refine ⟨⟨?_, ?_⟩, .same rfl rfl⟩
    · intro p hp
      show sc.session.history.provisioned.or _ = some p
      rw [hp, Option.some_or]
    · intro i c hc
      exact ⟨c.rejected, c.created, hc, fun hcreated => hcreated⟩
  | issued _ _ => exact .same rfl rfl
  | refused _ _ _ => exact .same rfl rfl
  | @send r values flight again token id _ _ fresh =>
    refine ⟨fun _ hp => hp, ?_⟩
    intro i c hc
    have hne : i ≠ id := by
      rintro rfl
      rw [fresh] at hc
      cases hc
    refine ⟨c.rejected, c.created, ?_, fun hcreated => hcreated⟩
    show Function.update sc.session.calls id _ i = some c
    rw [Function.update_of_ne hne]
    exact hc
  | @receive r values flight again token id call result stage _ _ stored _ _ =>
    exact told_extends stored rfl (by rw [told_calls]; rfl)
  | @escape r values flight again token id call result _ _ stored _ =>
    exact told_extends stored rfl (by rw [told_calls]; rfl)
  | failure _ _ _ => exact ⟨.same rfl rfl, .same rfl rfl⟩
  | success _ _ _ _ _ => exact ⟨.same rfl rfl, .same rfl rfl⟩
  | remoteCreates stored _ _ => exact .flags stored rfl rfl fun _ => rfl
  | upkeep _ hup =>
    refine ⟨?_, .refl _⟩
    cases hup with
    | sweep _ => exact .refl _
    | cancelAgain _ => exact .refl _
    | cancel _ => exact .refl _
    | touch _ => exact .refl _
    | recover _ _ _ _ => exact .same rfl rfl
    | confirmEnded _ => exact .same rfl rfl

/-- Every row of the first world is in the second one, with its identity, its calls and
its first PROVISIONING commit. -/
def World.Extends (w w' : World) : Prop :=
  ∀ m, w.store.meeting? m.id = some m → ∃ m', w'.store.meeting? m.id = some m' ∧
    m'.identity = m.identity ∧ (w.sessions m.id).Extends (w'.sessions m.id)

theorem World.Extends.refl (w : World) : w.Extends w :=
  fun m hm => ⟨m, hm, rfl, .refl _⟩

theorem World.Extends.trans {w₁ w₂ w₃ : World} (h : w₁.Extends w₂) (h' : w₂.Extends w₃) :
    w₁.Extends w₃ := by
  intro m hm
  obtain ⟨m₂, hm₂, hid₂, hs₂⟩ := h m hm
  have heq : m₂.id = m.id := Store.meeting?_id hm₂
  rw [← heq] at hm₂ hs₂
  obtain ⟨m₃, hm₃, hid₃, hs₃⟩ := h' m₂ hm₂
  rw [heq] at hm₃ hs₃ hs₂
  exact ⟨m₃, hm₃, hid₃.trans hid₂, hs₂.trans hs₃⟩

section Growth
variable {cfg : Settings} {accounts : RoomId → Option String} {w w' : World}

theorem World.Extends.session {pk : MeetingId} {session : Session}
    {roomLock : RoomId → Option MeetingId} {excluded : List MeetingId}
    (grows : (w.sessions pk).Extends session) :
    w.Extends ⟨w.store, Function.update w.sessions pk session, roomLock, excluded⟩ := by
  intro m hm
  refine ⟨m, hm, rfl, ?_⟩
  by_cases he : m.id = pk
  · subst he
    simpa using grows
  · simpa [he] using Session.Extends.refl _

theorem World.Extends.operated (h : w.Sound cfg accounts) {row : Meeting} {op : Operation}
    {effect : Effect}
    (stored : w.store.meeting? row.id = some row) (move : Move cfg (w.scene row) op effect)
    (settled : Settled w row.id effect w') : w.Extends w' := by
  have hgrows : effect.Extends (w.sessions row.id) := move.extends
  have heffect := Sound.move (w.scene row) (h.rows row stored) h.rooms move
  cases settled with
  | quiet => exact .session hgrows
  | @saved row' done failed _ _ =>
    obtain ⟨hid, same, _, _⟩ := heffect
    have hid' : row'.id = row.id := hid
    have stored' : w.store.meeting? row'.id = some row := by
      rw [hid']
      exact stored
    intro m hm
    by_cases he : m.id = row'.id
    · have hmrow : m = row := by
        rw [he, stored'] at hm
        exact (Option.some.inj hm).symm
      subst hmrow
      refine ⟨row', ?_, same, ?_⟩
      · rw [he]
        exact Store.meeting?_putMeeting_self stored'
      · simpa using hgrows.1
    · have hne : m.id ≠ row.id := by
        rw [← hid']
        exact he
      refine ⟨m, ?_, rfl, ?_⟩
      · rw [← hm]
        exact Store.meeting?_putMeeting_of_ne he
      · simpa [hne] using Session.Extends.refl _
  | unsaved _ => exact .session hgrows.2

theorem World.Extends.change (h : w.Sound cfg accounts) {l : Label} (change : Change cfg w l w') :
    w.Extends w' := by
  cases change with
  | refused _ => exact .refl _
  | @created r pk client values now fresh _ _ =>
    intro m hm
    have hne : m.id ≠ pk := by
      intro he
      rw [he, fresh] at hm
      cases hm
    refine ⟨m, ?_, rfl, ?_⟩
    · rw [← hm]
      exact Store.meeting?_insert_of_ne fresh hne
    · simpa [hne] using Session.Extends.refl _
  | joined _ _ _ _ => exact .session (.same rfl rfl)
  | operated stored move => exact .operated h stored move (settle_settled _ _ _)
  | roomEdited _ => exact fun m hm => ⟨m, hm, rfl, .refl _⟩
  | systemPresetEdited => exact fun m hm => ⟨m, hm, rfl, .refl _⟩
  | clientPresetEdited => exact fun m hm => ⟨m, hm, rfl, .refl _⟩

theorem reached_extends {store : Store} (h : Reached cfg store w)
    (later : Reachable (World.step cfg) w w') : w.Extends w' := by
  induction later with
  | start => exact .refl w
  | step reached hs ih =>
    have hsound := reached_sound (h.trans reached)
    exact ih.trans (.change hsound (step_change hs))

end Growth
end MeetingGateway
