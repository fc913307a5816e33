import MeetingGateway.RoomLocks
import MeetingGateway.Coherence
import Mathlib

/-!
# No double booking

A meeting claims a room's slot by its active row or by the reservation its request has
under the room's lock. While operators wait for the requests of a row, every claim was
free when it was made and no save adds one, so the claims on a room never overlap and the
exclusion constraint has nothing to refuse.
-/

namespace MeetingGateway

open LabelledRuns

/-- Recovery and 'confirm ended' are applied to rows with no request in flight. -/
def operatorsWait (w : World) : Label → Prop
  | .on pk (.recover _ _) => ¬ (w.sessions pk).Flying
  | .on pk (.confirmEnded _) => ¬ (w.sessions pk).Flying
  | _ => True

noncomputable instance (w : World) (l : Label) : Decidable (operatorsWait w l) :=
  Classical.propDecidable _

theorem Status.cancellable_not_awaits {status : Status} (h : status.cancellable = true) :
    status.awaitsOutcome = false := by
  cases status <;> first | rfl | exact absurd h (by decide)

/-- A row that a request calls the provider for waits for the outcome. -/
def FlightAwaited (m : Meeting) (s : Session) : Prop :=
  s.Flying → m.status.awaitsOutcome = true

theorem flightAwaited_upkeep {cfg : Settings} {w : World} {m row : Meeting} {done : Session}
    {op : Operation} (h : FlightAwaited m (w.sessions m.id))
    (waits : operatorsWait w (.on m.id op))
    (upkeep : Upkeep cfg m (w.sessions m.id) op row done) : FlightAwaited row done := by
  intro flying
  cases upkeep with
  | sweep _ => rfl
  | cancelAgain _ => exact h flying
  | cancel hc =>
    have awaits := h flying
    rw [Status.cancellable_not_awaits hc] at awaits
    cases awaits
  | touch _ => exact absurd flying waits
  | recover _ _ _ _ => exact absurd flying waits
  | confirmEnded _ => exact absurd flying waits

theorem flightAwaited_invariant (cfg : Settings) :
    RowInvariant cfg operatorsWait FlightAwaited where
  opened := by
    intro values pk client r now _ flying
    have hput : (Session.idle.put r ⟨values, .registered⟩).Flying := flying
    rcases hput.of_put with ⟨_, _, _, hold⟩ | ⟨f, hf⟩
    · cases hold
    · cases hf
  joined := by
    intro m s r values h flying
    rcases flying.of_put with hold | ⟨f, hf⟩
    · exact h hold
    · cases hf
  moved := by
    intro accounts w row op effect m s stored sound h waits move outcome flying
    rcases move.flies outcome flying with hold | hs
    · have awaits := h hold
      cases outcome with
      | quiet => exact awaits
      | unsaved => exact awaits
      | saved =>
        cases move with
        | provision _ _ _ _ _ => rfl
        | failure _ hrequest _ =>
          obtain ⟨r', v, f, hq⟩ := flying
          exact absurd hq (sound.landed hrequest)
        | success _ hrequest _ _ _ =>
          obtain ⟨r', v, f, hq⟩ := flying
          exact absurd hq (sound.landed hrequest)
        | upkeep _ hup => exact flightAwaited_upkeep h waits hup flying
    · rw [hs]
      rfl

/-- The row holds the room for the slot. -/
def Meeting.Holds (m : Meeting) (room : RoomId) (slot : BoundedRange Int) : Prop :=
  m.reservationActive = true ∧ m.room = some room ∧ m.reservation = some slot

inductive Claims (m : Meeting) (s : Session) (room : RoomId) (slot : BoundedRange Int) : Prop
  | committed : m.Holds room slot → Claims m s room slot
  | pending {reserved : Meeting} : s.Reserving reserved → reserved.room = some room →
      reserved.reservation = some slot → Claims m s room slot

/-- Upkeep adds no claim. -/
theorem Upkeep.holds {cfg : Settings} {m row : Meeting} {s done : Session} {op : Operation}
    (upkeep : Upkeep cfg m s op row done) (active : m.reservationActive = m.status.retains)
    {room : RoomId} {slot : BoundedRange Int} (h : row.Holds room slot) : m.Holds room slot := by
  cases upkeep with
  | sweep _ => exact h
  | cancelAgain _ => exact h
  | cancel _ => cases h.1
  | touch _ => exact h
  | recover hs _ _ _ =>
    refine ⟨?_, h.2⟩
    rw [active, hs]
    rfl
  | confirmEnded _ => cases h.1

theorem holds_recordFailure {m : Meeting} {e : ProviderError} {now : Int} {room : RoomId}
    {slot : BoundedRange Int} (active : m.reservationActive = true)
    (h : (m.recordFailure e now).Holds room slot) : m.Holds room slot := by
  refine ⟨active, ?_⟩
  unfold Meeting.recordFailure at h
  split at h
  · exact h.2
  · exact h.2

section Moves
variable {cfg : Settings} {accounts : RoomId → Option String} {sc : Scene}
variable {room : RoomId} {slot : BoundedRange Int}

/-- What a save makes the row hold was claimed before, by the row or by its request. -/
theorem Move.saves_claimed {op : Operation} {row : Meeting} {done failed : Session}
    (move : Move cfg sc op (.write row done failed))
    (sound : Sound cfg accounts sc.row sc.session) (awaited : FlightAwaited sc.row sc.session)
    (h : row.Holds room slot) : Claims sc.row sc.session room slot := by
  have active : sc.session.Flying → sc.row.reservationActive = true := by
    intro flying
    rw [sound.row.active]
    exact Status.awaitsOutcome_retains (awaited flying)
  cases move with
  | @provision r v reserved retrying now config type chosen flight hrequest _ _ _ _ =>
    have hphase : Pending cfg sc.row v reserved retrying := (sound.requests _ _ hrequest).phase
    rcases hphase with ⟨_, rfl, _⟩ | ⟨_, rfl, rfl⟩
    · exact .pending ⟨r, v, hrequest⟩ h.2.1 h.2.2
    · exact .committed h
  | failure _ hrequest _ =>
    exact .committed (holds_recordFailure (active ⟨_, _, _, hrequest⟩) h)
  | success _ hrequest _ _ _ => exact .committed ⟨active ⟨_, _, _, hrequest⟩, h.2⟩
  | upkeep _ hup => exact .committed (hup.holds sound.row.active h)

/-- A claim after a move was there before, or a request has just made it under the room's
free lock, and then the slot was free. -/
theorem Move.claims {op : Operation} {effect : Effect} (move : Move cfg sc op effect)
    (sound : Sound cfg accounts sc.row sc.session) (awaited : FlightAwaited sc.row sc.session)
    {m : Meeting} {s : Session} (outcome : effect.Outcome sc.row m s) (h : Claims m s room slot) :
    Claims sc.row sc.session room slot ∨
      (sc.roomLock room = none ∧ (∃ now, (sc.view now).FreeFor room slot) ∧
        ∃ values, Attempts cfg sc op values slot) := by
  cases h with
  | committed held =>
    cases outcome with
    | quiet => exact Or.inl (.committed held)
    | unsaved => exact Or.inl (.committed held)
    | saved => exact Or.inl (move.saves_claimed sound awaited held)
  | pending reserving hroom hslot =>
    rcases move.reserved sound outcome reserving with
      ⟨before, _⟩ | ⟨attempts, rfl, _, free, hfree, _, _⟩
    · exact Or.inl (.pending before hroom hslot)
    · cases hroom
      cases hslot
      exact Or.inr ⟨free, ⟨_, hfree⟩, _, attempts⟩

end Moves

section Runs
variable {cfg : Settings} {accounts : RoomId → Option String} {w w' : World}

/-- The meeting claims the room's slot. -/
def World.Claims (w : World) (pk : MeetingId) (room : RoomId) (slot : BoundedRange Int) : Prop :=
  ∃ m, m.id = pk ∧ w.store.meeting? m.id = some m ∧
    MeetingGateway.Claims m (w.sessions m.id) room slot

/-- Claims of different meetings on one room do not overlap. -/
def World.ClaimsApart (w : World) : Prop :=
  ∀ pk pk' room slot slot', pk ≠ pk' → w.Claims pk room slot → w.Claims pk' room slot' →
    slot.overlaps slot' = false

theorem claims_draft {values : CreateValues} {pk : MeetingId} {client : ClientId} {r : RequestId}
    {now : Int} {room : RoomId} {slot : BoundedRange Int} :
    ¬ Claims (values.draft pk client now) (Session.opened r client values) room slot := by
  intro h
  cases h with
  | committed held => cases held.1
  | pending reserving _ _ => exact opened_reserving reserving

theorem Claims.of_joined {m : Meeting} {s : Session} {r : RequestId} {values : CreateValues}
    {room : RoomId} {slot : BoundedRange Int}
    (h : Claims m (s.put r ⟨values, .registered⟩) room slot) : Claims m s room slot := by
  cases h with
  | committed held => exact .committed held
  | pending reserving hroom hslot =>
    rcases reserving.of_put with ⟨r', v, _, hold⟩ | hnew
    · exact .pending ⟨r', v, hold⟩ hroom hslot
    · cases hnew

/-- The slot a request has just reserved overlaps no other claim on the room. -/
theorem free_of_claims (holding : w.Holding) {row : Meeting} {now : Int} {room : RoomId}
    {slot slot' : BoundedRange Int} (unlocked : w.roomLock room = none)
    (free : ((w.scene row).view now).FreeFor room slot) {pk : MeetingId} (hne : pk ≠ row.id)
    (h : w.Claims pk room slot') : slot'.overlaps slot = false := by
  obtain ⟨m, rfl, stored, hclaims⟩ := h
  cases hclaims with
  | committed held =>
    have hview : ((w.scene row).view now).meeting? m.id = some m := by
      rw [← stored]
      exact Store.meeting?_putMeeting_of_ne hne
    have hblocks := free m (KeyedTable.get?_eq_some.mp hview).1
    simpa [Meeting.blocks, held.1, held.2.1, held.2.2] using hblocks
  | pending reserving hroom _ =>
    obtain ⟨room', hroom', held⟩ := holding m _ stored reserving
    rw [hroom'] at hroom
    cases hroom
    rw [unlocked] at held
    cases held

/-- A claim after a step was there before, or its meeting has just made it and it
overlaps no claim of another meeting. -/
theorem Change.claims {l : Label} (sound : w.Sound cfg accounts) (holding : w.Holding)
    (awaited : ∀ m, w.store.meeting? m.id = some m → FlightAwaited m (w.sessions m.id))
    (change : Change cfg w l w') {pk : MeetingId} {room : RoomId} {slot : BoundedRange Int}
    (h : w'.Claims pk room slot) :
    w.Claims pk room slot ∨ ((∃ op, l = .on pk op) ∧ ∀ pk' slot', pk' ≠ pk →
      w.Claims pk' room slot' → slot'.overlaps slot = false) := by
  obtain ⟨m, rfl, hm, hclaims⟩ := h
  rcases change.row sound hm with ⟨stored, same, _⟩ | ⟨_, rfl, hopened⟩ | ⟨stored, hjoined, _⟩ |
    ⟨stored, move, he, outcome, _⟩
  · rw [same] at hclaims
    exact Or.inl ⟨m, rfl, stored, hclaims⟩
  · rw [hopened] at hclaims
    exact absurd hclaims claims_draft
  · rw [hjoined] at hclaims
    exact Or.inl ⟨m, rfl, stored, hclaims.of_joined⟩
  · rcases move.claims (sound.rows _ stored) (awaited _ stored) outcome hclaims with
      before | ⟨unlocked, ⟨now, free⟩, _⟩
    · exact Or.inl ⟨_, he.symm, stored, before⟩
    · refine Or.inr ⟨⟨_, by rw [he]⟩, ?_⟩
      intro pk' slot' hne hother
      rw [he] at hne
      exact free_of_claims holding unlocked free hne hother

theorem World.ClaimsApart.change {l : Label} (apart : w.ClaimsApart)
    (sound : w.Sound cfg accounts) (holding : w.Holding)
    (awaited : ∀ m, w.store.meeting? m.id = some m → FlightAwaited m (w.sessions m.id))
    (change : Change cfg w l w') : w'.ClaimsApart := by
  intro pk pk' room slot slot' hne h h'
  rcases change.claims sound holding awaited h with old | ⟨⟨op, hl⟩, free⟩
  · rcases change.claims sound holding awaited h' with old' | ⟨_, free'⟩
    · exact apart pk pk' room slot slot' hne old old'
    · exact free' pk slot hne old
  · rcases change.claims sound holding awaited h' with old' | ⟨⟨op', hl'⟩, _⟩
    · rw [BoundedRange.overlaps_comm]
      exact free pk' slot' hne.symm old'
    · rw [hl] at hl'
      cases hl'
      exact absurd rfl hne

theorem holds_of_excludes {other row : Meeting} (h : other.excludes row = true) :
    ∃ room slot slot', row.Holds room slot ∧ other.Holds room slot' ∧
      slot'.overlaps slot = true := by
  unfold Meeting.excludes at h
  obtain ⟨hactive, hmatch⟩ := Bool.and_eq_true_iff.mp h
  split at hmatch
  · rename_i room slot hroom hslot
    unfold Meeting.blocks at hmatch
    obtain ⟨hheld, hoverlaps⟩ := Bool.and_eq_true_iff.mp hmatch
    obtain ⟨hroom', hactive'⟩ := Bool.and_eq_true_iff.mp hheld
    split at hoverlaps
    · rename_i slot' hslot'
      exact ⟨room, slot, slot', ⟨hactive, hroom, hslot⟩,
        ⟨hactive', of_decide_eq_true hroom', hslot'⟩, hoverlaps⟩
    · cases hoverlaps
  · cases hmatch

/-- No save of an operation is refused by the exclusion constraint. -/
theorem Move.never_excluded {op : Operation} {row old : Meeting} {done failed : Session}
    (move : Move cfg (w.scene old) op (.write row done failed)) (apart : w.ClaimsApart)
    (stored : w.store.meeting? old.id = some old)
    (sound : MeetingGateway.Sound cfg accounts old (w.sessions old.id))
    (awaited : FlightAwaited old (w.sessions old.id)) (sameId : row.id = old.id) :
    w.store.excluded row = false := by
  rw [Store.excluded_eq_false]
  intro other hmem hne
  by_contra hexcludes
  obtain ⟨room, slot, slot', held, held', hoverlaps⟩ := holds_of_excludes (by simpa using hexcludes)
  have hother : w.store.meeting? other.id = some other := KeyedTable.get?_eq_some.mpr ⟨hmem, rfl⟩
  rw [sameId] at hne
  have hfree := apart other.id old.id room slot' slot hne ⟨other, rfl, hother, .committed held'⟩
    ⟨old, rfl, stored, move.saves_claimed sound awaited held⟩
  rw [hfree] at hoverlaps
  cases hoverlaps

theorem Move.unflagged {op : Operation} {sc : Scene} {session : Session}
    {roomLock : RoomId → Option MeetingId} {excluded : Bool}
    (move : Move cfg sc op (.quiet session roomLock excluded)) : excluded = false := by
  cases move <;> rfl

theorem Change.excluded {l : Label} (sound : w.Sound cfg accounts) (apart : w.ClaimsApart)
    (awaited : ∀ m, w.store.meeting? m.id = some m → FlightAwaited m (w.sessions m.id))
    (change : Change cfg w l w') : w'.excluded = w.excluded := by
  cases change with
  | refused _ => rfl
  | created _ _ => rfl
  | joined _ _ _ _ => rfl
  | @operated op row effect stored move =>
    have hsound := sound.rows row stored
    have heffect := Sound.move (w.scene row) hsound sound.rooms move
    have settled := settle_settled w row.id effect
    generalize w.settle row.id effect = w' at settled
    cases settled with
    | quiet =>
      rw [move.unflagged]
      rfl
    | saved _ _ => rfl
    | @unsaved _ _ _ e hsave =>
      have free := move.never_excluded apart stored hsound (awaited row stored) heffect.1
      have hcheck : e ≠ .exclusion := by
        rintro rfl
        unfold Store.save at hsave
        rw [free] at hsave
        split at hsave <;> cases hsave
      exact if_neg hcheck
  | roomEdited _ => rfl
  | systemPresetEdited => rfl
  | clientPresetEdited => rfl

/-- Along a run in which operators wait, claims stay apart and nothing is refused. -/
theorem reached_apart {store : Store}
    (h : Reachable (restrict operatorsWait (World.step cfg)) (World.initial store) w) :
    w.ClaimsApart ∧ w.excluded = [] := by
  have awaited := fun {w : World}
    (h : Reachable (restrict operatorsWait (World.step cfg)) (World.initial store) w) =>
      (flightAwaited_invariant cfg).reached h
  induction h with
  | start =>
    refine ⟨?_, rfl⟩
    rintro pk pk' room slot slot' _ ⟨m, _, stored, _⟩
    cases stored
  | step reached hs ih =>
    obtain ⟨_, hstep⟩ := restrict_eq_some.mp hs
    have sound := reached_sound reached.of_restrict
    have change := step_change hstep
    obtain ⟨apart, none_excluded⟩ := ih
    constructor
    · exact apart.change sound (reached_holding reached.of_restrict) (awaited reached) change
    · rw [change.excluded sound apart (awaited reached)]
      exact none_excluded

/-- The exclusion constraint never refuses a save. -/
theorem never_excluded {store : Store}
    (reached : Reachable (restrict operatorsWait (World.step cfg)) (World.initial store) w) :
    w.excluded = [] := (reached_apart reached).2

/-- Two stored meetings that hold reservations of one room. -/
structure World.ShareRoom (w : World) (m m' : Meeting) : Prop where
  stored : w.store.meeting? m.id = some m
  stored' : w.store.meeting? m'.id = some m'
  distinct : m.id ≠ m'.id
  active : m.reservationActive = true
  active' : m'.reservationActive = true
  sameRoom : m.room = m'.room

/-- Two meetings of a room that both hold a reservation have disjoint ranges. -/
theorem reservations_disjoint {store : Store}
    (reached : Reachable (restrict operatorsWait (World.step cfg)) (World.initial store) w)
    {m m' : Meeting} (both : w.ShareRoom m m') :
    ∃ room lower upper lower' upper',
      m.Holds room (BoundedRange.halfOpen lower upper) ∧
      m'.Holds room (BoundedRange.halfOpen lower' upper') ∧ lower < upper ∧ lower' < upper' ∧
      (BoundedRange.halfOpen lower upper).overlaps (BoundedRange.halfOpen lower' upper') =
        false := by
  obtain ⟨stored, stored', hne, active, active', sameRoom⟩ := both
  have apart := (reached_apart reached).1
  have sound := reached_sound reached.of_restrict
  obtain ⟨p, hbooked⟩ := (sound.rows m stored).row.booked_of_active active
  obtain ⟨p', hbooked'⟩ := (sound.rows m' stored').row.booked_of_active active'
  obtain ⟨_, _, lower, upper, _, _, hlower, ordered, hupper, hslot⟩ := hbooked.slot
  obtain ⟨_, _, lower', upper', _, _, hlower', ordered', hupper', hslot'⟩ := hbooked'.slot
  have hroom' : m'.room = some p.room := sameRoom.symm.trans hbooked.room
  have held : m.Holds p.room (BoundedRange.halfOpen lower upper) := ⟨active, hbooked.room, hslot⟩
  have held' : m'.Holds p.room (BoundedRange.halfOpen lower' upper') := ⟨active', hroom', hslot'⟩
  exact ⟨p.room, lower, upper, lower', upper', held, held', by omega, by omega,
    apart m.id m'.id p.room _ _ hne ⟨m, rfl, stored, .committed held⟩
      ⟨m', rfl, stored', .committed held'⟩⟩

/-- The attempt of a request whose times the database takes keeps all of both buffers. -/
def buffersKept (cfg : Settings) (w : World) : Label → Bool
  | .on pk (.attempt r _) =>
    match (w.sessions pk).requests r with
    | some q => !reservable cfg q.values.startAt q.values.endAt ||
        buffered cfg q.values.startAt q.values.endAt
    | none => true
  | _ => true

theorem buffersKept_attempt {cfg : Settings} {w : World} {pk : MeetingId} {r : RequestId}
    {now : Int} {q : Request} (kept : buffersKept cfg w (.on pk (.attempt r now)) = true)
    (hrequest : (w.sessions pk).requests r = some q)
    (taken : reservable cfg q.values.startAt q.values.endAt = true) :
    buffered cfg q.values.startAt q.values.endAt = true := by
  simpa [buffersKept, hrequest, taken] using kept

def gapsKept (cfg : Settings) (w : World) (l : Label) : Prop :=
  operatorsWait w l ∧ buffersKept cfg w l = true

noncomputable instance (cfg : Settings) (w : World) (l : Label) : Decidable (gapsKept cfg w l) :=
  Classical.propDecidable _

/-- The slot has both buffers around the row's times. -/
def Meeting.Buffered (cfg : Settings) (m : Meeting) (slot : BoundedRange Int) : Prop :=
  ∃ start end_ lower upper, m.startAt = some start ∧ m.endAt = some end_ ∧ start < end_ ∧
    slot = BoundedRange.halfOpen lower upper ∧ lower ≤ start - cfg.before ∧
    end_ + cfg.after ≤ upper

theorem Meeting.Buffered.same {m row : Meeting} {slot : BoundedRange Int}
    (h : m.Buffered cfg slot) (same : row.identity = m.identity) : row.Buffered cfg slot := by
  have hstart : row.startAt = m.startAt := congrArg Identity.startAt same
  have hend : row.endAt = m.endAt := congrArg Identity.endAt same
  unfold Meeting.Buffered
  rw [hstart, hend]
  exact h

/-- A slot reserved for the times of a request has both buffers, if its attempt keeps them. -/
theorem Attempts.buffered {sc : Scene} {op : Operation} {values : CreateValues}
    {slot : BoundedRange Int} (attempts : Attempts cfg sc op values slot)
    (sound : MeetingGateway.Sound cfg accounts sc.row sc.session)
    (kept : buffered cfg values.startAt values.endAt = true) : sc.row.Buffered cfg slot := by
  obtain ⟨r, now, phase, _, hrequest⟩ := attempts.request
  have same := (sound.requests r _ hrequest).same
  have hstart : sc.row.startAt = some values.startAt.instant := congrArg Identity.startAt same
  have hend : sc.row.endAt = some values.endAt.instant := congrArg Identity.endAt same
  have hslot := attempts.interval
  obtain ⟨lower, upper, rfl, _, ordered, _⟩ := reservable_ok hslot attempts.reservable
  obtain ⟨hlower, hupper⟩ := buffered_ok hslot kept
  exact ⟨_, _, lower, upper, hstart, hend, ordered, rfl, hlower, hupper⟩

theorem Move.identity {sc : Scene} {op : Operation} {row : Meeting} {done failed : Session}
    (move : Move cfg sc op (.write row done failed))
    (sound : MeetingGateway.Sound cfg accounts sc.row sc.session) :
    row.identity = sc.row.identity := by
  cases move with
  | provision hrequest _ _ _ _ => exact (sound.reserved_same hrequest).2
  | failure _ _ _ => exact recordFailure_identity _ _ _
  | success _ _ _ _ _ => rfl
  | upkeep _ hup => cases hup <;> rfl

theorem Effect.Outcome.identity {sc : Scene} {op : Operation} {effect : Effect} {m : Meeting}
    {s : Session} (outcome : effect.Outcome sc.row m s) (move : Move cfg sc op effect)
    (sound : MeetingGateway.Sound cfg accounts sc.row sc.session) :
    m.identity = sc.row.identity := by
  cases outcome with
  | quiet => rfl
  | saved => exact move.identity sound
  | unsaved => rfl

/-- Every claim has both buffers, and a row in a call waits for its outcome. -/
def ClaimsBuffered (cfg : Settings) (m : Meeting) (s : Session) : Prop :=
  FlightAwaited m s ∧ ∀ room slot, Claims m s room slot → m.Buffered cfg slot

theorem claimsBuffered_invariant (cfg : Settings) :
    RowInvariant cfg (gapsKept cfg) (ClaimsBuffered cfg) where
  opened := by
    intro values pk client r now checks
    refine ⟨(flightAwaited_invariant cfg).opened values pk client r now checks, ?_⟩
    intro room slot claims
    exact absurd claims claims_draft
  joined := by
    intro m s r values h
    refine ⟨(flightAwaited_invariant cfg).joined m s r values h.1, ?_⟩
    intro room slot claims
    exact h.2 room slot claims.of_joined
  moved := by
    intro accounts w row op effect m s stored sound h allowed move outcome
    have awaited := (flightAwaited_invariant cfg).moved accounts w row op effect m s stored sound
      h.1 allowed.1 move outcome
    refine ⟨awaited, ?_⟩
    intro room slot claims
    have hsound : MeetingGateway.Sound cfg accounts (w.scene row).row (w.scene row).session := sound
    have same : m.identity = row.identity := outcome.identity move hsound
    rcases move.claims hsound h.1 outcome claims with before | ⟨_, _, values, attempts⟩
    · exact (h.2 room slot before).same same
    · obtain ⟨r, now, phase, hop, hrequest⟩ := attempts.request
      subst hop
      have kept := buffersKept_attempt allowed.2 hrequest attempts.reservable
      exact (attempts.buffered hsound kept).same same

/-- Meetings that share a room have disjoint ranges and no save was ever refused by the exclusion
constraint; in a run whose attempts keep the buffers, their times are both buffers apart. -/
theorem no_double_booking {store : Store}
    (reached : Reachable (restrict operatorsWait (World.step cfg)) (World.initial store) w) :
    (∀ m m', w.ShareRoom m m' → ∃ lower upper lower' upper',
      m.reservation = some (BoundedRange.halfOpen lower upper) ∧
      m'.reservation = some (BoundedRange.halfOpen lower' upper') ∧
      Disjoint (Set.Ico lower upper) (Set.Ico lower' upper')) ∧
    w.excluded = [] ∧
    (Reachable (restrict (gapsKept cfg) (World.step cfg)) (World.initial store) w →
      ∀ m m', w.ShareRoom m m' → ∃ start end_ start' end_',
        m.startAt = some start ∧ m.endAt = some end_ ∧
        m'.startAt = some start' ∧ m'.endAt = some end_' ∧
        (end_ + (cfg.after + cfg.before) ≤ start' ∨
          end_' + (cfg.after + cfg.before) ≤ start)) := by
  refine ⟨?_, never_excluded reached, ?_⟩
  · intro m m' both
    obtain ⟨_, lower, upper, lower', upper', held, held', hlt, hlt', apart⟩ :=
      reservations_disjoint reached both
    refine ⟨lower, upper, lower', upper', held.2.2, held'.2.2, ?_⟩
    rw [Set.disjoint_iff_inter_eq_empty, ← Set.not_nonempty_iff_eq_empty,
      ← BoundedRange.overlaps_halfOpen_iff_meet hlt hlt', apart]
    exact Bool.false_ne_true
  · intro kept m m' both
    obtain ⟨_, _, _, _, _, held, held', hlt, hlt', apart⟩ := reservations_disjoint reached both
    have whole := (claimsBuffered_invariant cfg).reached kept
    obtain ⟨start, end_, _, _, hstart, hend, _, hslot, hlower, hupper⟩ :=
      (whole m both.stored).2 _ _ (.committed held)
    obtain ⟨start', end_', _, _, hstart', hend', _, hslot', hlower', hupper'⟩ :=
      (whole m' both.stored').2 _ _ (.committed held')
    cases hslot
    cases hslot'
    refine ⟨start, end_, start', end_', hstart, hend, hstart', hend', ?_⟩
    rcases (BoundedRange.not_overlaps_halfOpen hlt hlt').mp apart with before | before
    · exact Or.inr (by omega)
    · exact Or.inl (by omega)

end Runs

/-- The first meeting failed before its call was sent and keeps its slot; the second one
gets the same room two hours later. -/
def exampleShared : List Label :=
  exampleCommitted ++ [.on 1 (.token 0 (.issued exampleToken)), .on 1 (.send 0 0),
    .on 1 (.receive 0 (.failed .connectError false)), .on 1 (.finish 0 1),
    .register 1 2 7 (exampleValues "CLS-002" 12) 2, .on 2 (.begin 1), .on 2 (.attempt 1 2),
    .on 2 (.commit 1 3)]

def Label.byOperator : Label → Bool
  | .on _ (.recover _ _) => true
  | .on _ (.confirmEnded _) => true
  | _ => false

theorem operatorsWait_of_requests {l : Label} (h : l.byOperator = false) (w : World) :
    operatorsWait w l := by
  unfold operatorsWait
  split
  · cases h
  · cases h
  · trivial

theorem waits_of_requests {cfg : Settings} {w : World} {labels : List Label}
    (requests : labels.all (fun l => !l.byOperator) = true) :
    Along operatorsWait (World.step cfg) w labels := by
  refine along_of_forall ?_ _
  intro l hl w
  exact operatorsWait_of_requests (by simpa using List.all_eq_true.mp requests l hl) w

/-- The stored row holds a reservation of the room. -/
def World.HoldsRoom (w : World) (pk : MeetingId) (room : RoomId) : Prop :=
  (w.store.meeting? pk).map (fun m => (m.reservationActive, m.room)) = some (true, some room)

instance (w : World) (pk : MeetingId) (room : RoomId) : Decidable (w.HoldsRoom pk room) :=
  inferInstanceAs (Decidable (_ = _))

theorem shareRoom_of_holds {w : World} {pk pk' : MeetingId} {room : RoomId} (hne : pk ≠ pk')
    (h : w.HoldsRoom pk room) (h' : w.HoldsRoom pk' room) :
    ∃ m m', w.store.meeting? pk = some m ∧ w.store.meeting? pk' = some m' ∧ w.ShareRoom m m' := by
  obtain ⟨m, stored, hm⟩ := Option.map_eq_some_iff.mp h
  obtain ⟨m', stored', hm'⟩ := Option.map_eq_some_iff.mp h'
  have hid := Store.meeting?_id stored
  have hid' := Store.meeting?_id stored'
  obtain ⟨active, hroom⟩ := Prod.mk.inj hm
  obtain ⟨active', hroom'⟩ := Prod.mk.inj hm'
  refine ⟨m, m', stored, stored', ?_⟩
  exact ⟨by rw [hid]; exact stored, by rw [hid']; exact stored', by rw [hid, hid']; exact hne,
    active, active', hroom.trans hroom'.symm⟩

/-- The second meeting starts an hour after the first one ends. -/
theorem no_double_booking_of_two :
    ∃ w m m', Reachable (restrict (gapsKept exampleSettings) (World.step exampleSettings))
        (World.initial exampleStore) w ∧ w.ShareRoom m m' ∧
      (∃ lower upper lower' upper', m.reservation = some (BoundedRange.halfOpen lower upper) ∧
        m'.reservation = some (BoundedRange.halfOpen lower' upper') ∧
        Disjoint (Set.Ico lower upper) (Set.Ico lower' upper')) ∧ w.excluded = [] ∧
      ∃ start end_ start' end_', m.startAt = some start ∧ m.endAt = some end_ ∧
        m'.startAt = some start' ∧ m'.endAt = some end_' ∧
        (end_ + (exampleSettings.after + exampleSettings.before) ≤ start' ∨
          end_' + (exampleSettings.after + exampleSettings.before) ≤ start) := by
  let w := exampleWorld exampleShared (by decide)
  have along : Along (gapsKept exampleSettings) (World.step exampleSettings)
      (World.initial exampleStore) exampleShared :=
    (waits_of_requests (by decide)).and (by decide)
  have reached := restricted_of_run (t := w) (exampleWorld_run _) along
  have first : w.HoldsRoom 1 1 := by decide
  have second : w.HoldsRoom 2 1 := by decide
  obtain ⟨m, m', _, _, both⟩ := shareRoom_of_holds (by decide) first second
  obtain ⟨disjoint, none_excluded, gaps⟩ :=
    no_double_booking (reached.mono fun _ _ kept => kept.1)
  exact ⟨w, m, m', reached, both, disjoint m m' both, none_excluded, gaps reached m m' both⟩

/-- An hour is kept free before each meeting. -/
def exampleShiftSettings : Settings :=
  { exampleSettings with roomBufferBeforeMinutes := 60, roomBufferAfterMinutes := 0 }

/-- A class in the night of 19 June 2009, when the clocks went from 23:00 to 24:00. -/
def exampleShiftValues (classId : String) (date start end_ : Int)
    (ordered : (exampleLocal start).lt (exampleLocal end_) = true) : CreateValues where
  meetingTitle := "Physics"
  teacher := ⟨"T-001", "Teacher"⟩
  batch := ⟨"B-001", "Batch"⟩
  classInfo := ⟨classId, date⟩
  startAt := exampleLocal start
  endAt := exampleLocal end_
  aware := ⟨rfl, rfl⟩
  ordered := ordered

/-- The first class ends at 16:59Z, the second one starts at 17:30Z, which is 00:30 after the
change: 23:30 was left out, and the hour before the class is none. -/
def exampleShifted : List Label :=
  [.register 0 1 7 (exampleShiftValues "CLS-001" 733576 1245427140 1245430740 (by decide)) 0,
    .on 1 (.begin 0), .on 1 (.attempt 0 0), .on 1 (.commit 0 0),
    .on 1 (.token 0 (.issued exampleToken)), .on 1 (.send 0 0),
    .on 1 (.receive 0 (.failed .connectError false)), .on 1 (.finish 0 1),
    .register 1 2 7 (exampleShiftValues "CLS-002" 733577 1245432600 1245436200 (by decide)) 2,
    .on 2 (.begin 1), .on 2 (.attempt 1 2), .on 2 (.commit 1 3)]

theorem half_hour_between_meetings :
    ∃ w m m' end_ start', Reachable (restrict operatorsWait (World.step exampleShiftSettings))
        (World.initial exampleStore) w ∧ w.ShareRoom m m' ∧
      m.endAt = some end_ ∧ m'.startAt = some start' ∧
      start' = end_ + 31 * minuteMicroseconds ∧
      ¬ end_ + (exampleShiftSettings.after + exampleShiftSettings.before) ≤ start' := by
  let w := (run (World.step exampleShiftSettings) (World.initial exampleStore) exampleShifted).get
    (by decide)
  have requests : exampleShifted.all (fun l => !l.byOperator) = true := by decide
  have reached := restricted_of_run (t := w) (Option.some_get _).symm (waits_of_requests requests)
  have first : w.HoldsRoom 1 1 := by decide
  have second : w.HoldsRoom 2 1 := by decide
  obtain ⟨m, m', stored, stored', both⟩ := shareRoom_of_holds (by decide) first second
  have hend : (w.store.meeting? 1).map Meeting.endAt =
      some (some (exampleLocal 1245430740).instant) := by decide
  have hstart : (w.store.meeting? 2).map Meeting.startAt =
      some (some (exampleLocal 1245432600).instant) := by decide
  rw [stored] at hend
  rw [stored'] at hstart
  exact ⟨w, m, m', _, _, reached, both, Option.some.inj hend, Option.some.inj hstart, by decide,
    by decide⟩

end MeetingGateway
