import MeetingGateway.TokenFreshness
import MeetingGateway.Sessions

/-!
# Rejected tokens

Create requests use the token cache: they fetch a token, start a meeting with it, and after
a 401 delete the cached token and fetch another one by force. A token is written to the cache
once, by the call that obtained it, before anybody can use it; so a deletion that
follows its use is final.
-/

namespace MeetingGateway

open LabelledRuns

/-- Where a create request stands in its provider calls; `first` is the token that was
rejected before. -/
inductive UserStage where
  | fetching (c : TokenCallId) (first : Option String)
  | starting (token : String) (first : Option String)
  | unauthorized (token : String) (first : Option String)
  | retrying (first : String)
  | ended

structure TokenUser where
  room : VersionedRoom
  stage : UserStage

/-- The token calls, the create requests that make them, and for each key the tokens a
request deleted after a 401 on them. -/
structure TokenUse where
  tokens : TokenWorld
  users : RequestId → Option TokenUser
  rejected : TokenKey → List String

/-- `token` is a step of the calls themselves, those of token requests included. -/
inductive UseLabel where
  | token (l : TokenLabel)
  | begin (r : RequestId) (c : TokenCallId) (room : VersionedRoom)
  | use (r : RequestId)
  | answer (r : RequestId) (unauthorized : Bool)
  | invalidate (r : RequestId)
  | retry (r : RequestId) (c : TokenCallId)
  | giveUp (r : RequestId)

namespace TokenUse

def initial (clock : Int) : TokenUse := ⟨TokenWorld.initial clock, fun _ => none, fun _ => []⟩

def goto (s : TokenUse) (r : RequestId) (room : VersionedRoom) (stage : UserStage) : TokenUse :=
  { s with users := Function.update s.users r (some ⟨room, stage⟩) }

def reject (s : TokenUse) (key : TokenKey) (token : String) : TokenUse :=
  { s with
    tokens := s.tokens.invalidate key
    rejected := Function.update s.rejected key (token :: s.rejected key) }

def step (cfg : TokenSettings) (s : TokenUse) : UseLabel → Option TokenUse
  | .token l => (TokenWorld.step cfg s.tokens l).map fun w => { s with tokens := w }
  | .begin r c room =>
    match s.users r, s.tokens.calls c with
    | none, none => some
        ({ s with tokens := s.tokens.begin c room false }.goto r room (.fetching c none))
    | _, _ => none
  | .use r =>
    match s.users r with
    | some ⟨room, .fetching c first⟩ =>
      match (s.tokens.calls c).map TokenCall.stage with
      | some (.returned (.issued result)) =>
        some (s.goto r room (.starting result.accessToken first))
      | some (.returned _) => some (s.goto r room .ended)
      | _ => none
    | _ => none
  | .answer r unauthorized =>
    match s.users r with
    | some ⟨room, .starting token first⟩ =>
      some (s.goto r room (if unauthorized then .unauthorized token first else .ended))
    | _ => none
  | .invalidate r =>
    match s.users r with
    | some ⟨room, .unauthorized token first⟩ => some
        ((s.reject (tokenKey room) token).goto r room
          (if first.isSome then .ended else .retrying token))
    | _ => none
  | .retry r c =>
    match s.users r, s.tokens.calls c with
    | some ⟨room, .retrying first⟩, none => some
        ({ s with tokens := s.tokens.begin c room true }.goto r room (.fetching c (some first)))
    | _, _ => none
  | .giveUp r => (s.users r).map fun user => s.goto r user.room .ended

/-- The provider issues a new token at each authentication on a key. -/
def distinct (s : TokenUse) : UseLabel → Bool
  | .token (.on c (.exchange (.issued result))) =>
    match s.tokens.calls c with
    | none => true
    | some call => !(s.tokens.issued (tokenKey call.room)).contains result.accessToken
  | _ => true

end TokenUse

/-- The runs of a provider that never issues a token twice. -/
abbrev UseReached (cfg : TokenSettings) (s s' : TokenUse) : Prop :=
  Reachable (restrict (fun s l => TokenUse.distinct s l = true) (TokenUse.step cfg)) s s'

/-- What a step does to the requests and their tokens. -/
inductive UseMove (cfg : TokenSettings) (s : TokenUse) : UseLabel → TokenUse → Prop
  | called {l : TokenLabel} {w : TokenWorld} : TokenChange cfg s.tokens l w →
      UseMove cfg s (.token l) { s with tokens := w }
  | begun {r : RequestId} {c : TokenCallId} {room : VersionedRoom} :
      s.users r = none → s.tokens.calls c = none → UseMove cfg s (.begin r c room)
        (({ s with tokens := s.tokens.begin c room false } : TokenUse).goto r room
          (.fetching c none))
  | started {r : RequestId} {c : TokenCallId} {room : VersionedRoom} {first : Option String}
      {call : TokenCall} {result : ProviderAuthResult} :
      s.users r = some ⟨room, .fetching c first⟩ → s.tokens.calls c = some call →
      call.stage = .returned (.issued result) →
      UseMove cfg s (.use r) (s.goto r room (.starting result.accessToken first))
  | refused {r : RequestId} {room : VersionedRoom} {token : String} {first : Option String} :
      s.users r = some ⟨room, .starting token first⟩ →
      UseMove cfg s (.answer r true) (s.goto r room (.unauthorized token first))
  | invalidated {r : RequestId} {room : VersionedRoom} {token : String} {first : Option String} :
      s.users r = some ⟨room, .unauthorized token first⟩ → UseMove cfg s (.invalidate r)
        ((s.reject (tokenKey room) token).goto r room
          (if first.isSome then .ended else .retrying token))
  | retried {r : RequestId} {c : TokenCallId} {room : VersionedRoom} {first : String} :
      s.users r = some ⟨room, .retrying first⟩ → s.tokens.calls c = none →
      UseMove cfg s (.retry r c)
        (({ s with tokens := s.tokens.begin c room true } : TokenUse).goto r room
          (.fetching c (some first)))
  | ended {l : UseLabel} {r : RequestId} {room : VersionedRoom} :
      UseMove cfg s l (s.goto r room .ended)

theorem step_useMove {cfg : TokenSettings} {s s' : TokenUse} {l : UseLabel}
    (h : TokenUse.step cfg s l = some s') : UseMove cfg s l s' := by
  cases l with
  | token l =>
    obtain ⟨w, hw, rfl⟩ := Option.map_eq_some_iff.mp h
    exact .called (step_tokenChange hw)
  | begin r c room =>
    simp only [TokenUse.step] at h
    split at h
    · rename_i hnone hnew
      cases h
      exact .begun hnone hnew
    · cases h
  | use r =>
    simp only [TokenUse.step] at h
    split at h
    · rename_i room c first huser
      split at h
      · rename_i result hreturned
        cases h
        obtain ⟨call, hcall, hstage⟩ := Option.map_eq_some_iff.mp hreturned
        exact .started huser hcall hstage
      · cases h
        exact .ended
      · cases h
    · cases h
  | answer r unauthorized =>
    simp only [TokenUse.step] at h
    split at h
    · rename_i room token first huser
      cases h
      cases unauthorized with
      | true => exact .refused huser
      | false => exact .ended
    · cases h
  | invalidate r =>
    simp only [TokenUse.step] at h
    split at h
    · rename_i room token first huser
      cases h
      exact .invalidated huser
    · cases h
  | retry r c =>
    simp only [TokenUse.step] at h
    split at h
    · rename_i room first huser hnew
      cases h
      exact .retried huser hnew
    · cases h
  | giveUp r =>
    obtain ⟨user, _, rfl⟩ := Option.map_eq_some_iff.mp h
    exact .ended

/-- The token a call works on. -/
def TokenStage.token : TokenStage → Option String
  | .comparing item => some item.token
  | .measuring result => some result.accessToken
  | .storing result _ => some result.accessToken
  | .stamping result => some result.accessToken
  | .leaving (.issued result) => some result.accessToken
  | .returned (.issued result) => some result.accessToken
  | _ => none

/-- A token that was obtained and is not in the cache yet. -/
def TokenStage.pending : TokenStage → Option String
  | .measuring result => some result.accessToken
  | .storing result _ => some result.accessToken
  | _ => none

def UserStage.token : UserStage → Option String
  | .starting token _ => some token
  | .unauthorized token _ => some token
  | _ => none

def CacheEntry.token (cfg : TokenSettings) (entry : CacheEntry) : Option String :=
  match readItem cfg.toSettings entry.raw with
  | .ok item => some item.token
  | .error _ => none

section Origins
variable {cfg : TokenSettings} {c : TokenCallId} {v v' : TokenView} {op : TokenOp} {t : String}

theorem failed_token {stage : TokenStage} (h : stage.failed = true) :
    stage.token = none ∧ stage.pending = none := by
  cases stage with
  | leaving outcome =>
    cases outcome with
    | issued result => cases h
    | refused code statusCode => exact ⟨rfl, rfl⟩
    | escaped e => exact ⟨rfl, rfl⟩
  | returned outcome =>
    cases outcome with
    | issued result => cases h
    | refused code statusCode => exact ⟨rfl, rfl⟩
    | escaped e => exact ⟨rfl, rfl⟩
  | _ => cases h

theorem pending_token {stage : TokenStage} (h : stage.pending = some t) :
    stage.token = some t := by
  cases stage with
  | measuring result => exact h
  | storing result ttl => exact h
  | _ => cases h

/-- A call has its token from itself, from the entry it read, or from the provider, and
then it is pending. -/
theorem move_token (h : TokenMove cfg c v op v') (ht : v'.call.stage.token = some t) :
    v.call.stage.token = some t ∨ (∃ entry, v.entry = some entry ∧ entry.token cfg = some t) ∨
      (v'.call.stage.pending = some t ∧
        ∃ result, op = .exchange (.issued result) ∧ result.accessToken = t) := by
  cases h with
  | failed ended => simp [TokenView.goto, (failed_token ended).1] at ht
  | entered _ _ =>
    by_cases hforce : v.call.force = true
    · simp [hforce, TokenStage.token] at ht
    · simp [hforce, TokenStage.token] at ht
  | missed _ _ => cases ht
  | hit _ hvisible hitem =>
    right; left
    refine ⟨_, (visible_some hvisible).1, ?_⟩
    simpa [CacheEntry.token, hitem, TokenStage.token] using ht
  | discarded _ _ => cases ht
  | kept hstage _ =>
    left
    simpa [hstage, TokenStage.token] using ht
  | stale _ _ => simp [TokenStage.token] at ht
  | deleted _ => cases ht
  | @authenticated result _ _ =>
    right; right
    have same : result.accessToken = t := Option.some.inj ht
    exact ⟨ht, result, rfl, same⟩
  | tooShort _ => simp [TokenStage.token] at ht
  | measured hstage _ =>
    left
    simpa [hstage, TokenStage.token] using ht
  | stored hstage =>
    left
    simpa [hstage, TokenStage.token] using ht
  | stamped hstage =>
    left
    simpa [hstage, TokenStage.token] using ht
  | @left outcome _ hstage _ _ _ =>
    left
    cases outcome with
    | issued result => simpa [hstage, TokenStage.token] using ht
    | refused code statusCode => cases ht
    | escaped e => cases ht

theorem move_pending (h : TokenMove cfg c v op v') (ht : v'.call.stage.pending = some t) :
    v.call.stage.pending = some t ∨ (v'.issued = t :: v.issued ∧
      ∃ result, op = .exchange (.issued result) ∧ result.accessToken = t) := by
  cases h with
  | failed ended => simp [TokenView.goto, (failed_token ended).2] at ht
  | entered _ _ =>
    by_cases hforce : v.call.force = true
    · simp [hforce, TokenStage.pending] at ht
    · simp [hforce, TokenStage.pending] at ht
  | kept _ _ => simp [TokenStage.pending] at ht
  | stale _ _ => simp [TokenStage.pending] at ht
  | @authenticated result _ _ =>
    right
    have same : result.accessToken = t := Option.some.inj ht
    exact ⟨by rw [← same], result, rfl, same⟩
  | tooShort _ => simp [TokenStage.pending] at ht
  | measured hstage _ =>
    left
    simpa [hstage, TokenStage.pending] using ht
  | @left outcome _ _ _ _ _ =>
    cases outcome <;> cases ht
  | _ => cases ht

/-- A token comes into the cache from the call that obtained it and not a second time. -/
theorem move_entry (h : TokenMove cfg c v op v') {entry : CacheEntry}
    (hentry : v'.entry = some entry) (ht : entry.token cfg = some t) :
    v.entry = some entry ∨
      (v.call.stage.pending = some t ∧ v'.call.stage.pending = none) := by
  cases h with
  | deleted _ => cases hentry
  | @stored result ttl hstage =>
    right
    cases hentry
    have same : some result.accessToken = some t := by
      simpa [CacheEntry.token, readItem] using ht
    exact ⟨by rw [hstage]; exact same, rfl⟩
  | _ => exact Or.inl hentry

theorem move_issued (h : TokenMove cfg c v op v') :
    v'.issued = v.issued ∨ ∃ result, op = .exchange (.issued result) ∧
      v'.issued = result.accessToken :: v.issued ∧
      v'.call.stage.pending = some result.accessToken := by
  cases h with
  | authenticated _ _ => exact Or.inr ⟨_, rfl, rfl, rfl⟩
  | _ => exact Or.inl rfl

end Origins

/-- The call `c` has obtained `t` for the key and not stored it yet. -/
def TokenWorld.Pending (w : TokenWorld) (c : TokenCallId) (key : TokenKey) (t : String) : Prop :=
  ∃ call, w.calls c = some call ∧ tokenKey call.room = key ∧ call.stage.pending = some t

/-- The step is an exchange of `c` that gives out `t` for the key. -/
def TokenWorld.Issues (w : TokenWorld) (l : TokenLabel) (c : TokenCallId) (key : TokenKey)
    (t : String) : Prop :=
  ∃ result call, l = .on c (.exchange (.issued result)) ∧ w.calls c = some call ∧
    tokenKey call.room = key ∧ result.accessToken = t

section Changes
variable {cfg : TokenSettings} {w w' : TokenWorld} {l : TokenLabel}
variable {c : TokenCallId} {key : TokenKey} {t : String}

theorem begin_stage {room : VersionedRoom} {force : Bool} {call : TokenCall}
    (h : (w.begin c room force).calls c = some call) :
    call.room = room ∧ call.stage.token = none ∧ call.stage.pending = none := by
  obtain ⟨stage, rfl, ⟨_, rfl⟩ | ⟨_, rfl⟩⟩ := TokenWorld.begin_calls h
  · exact ⟨rfl, rfl, rfl⟩
  · exact ⟨rfl, rfl, rfl⟩

theorem change_calls (h : TokenChange cfg w l w') {call : TokenCall}
    (hcall : w.calls c = some call) :
    ∃ call', w'.calls c = some call' ∧ call'.room = call.room := by
  cases h with
  | ticked _ => exact ⟨call, hcall, rfl⟩
  | @begun d room force hnew =>
    have hcd : c ≠ d := by
      rintro rfl
      rw [hnew] at hcall
      cases hcall
    exact ⟨call, (TokenWorld.begin_calls_other hcd).trans hcall, rfl⟩
  | @operated d op moved v hmoved hmove =>
    by_cases hcd : c = d
    · subst hcd
      rw [hmoved] at hcall
      cases hcall
      exact ⟨v.call, TokenWorld.settle_calls, move_room hmove⟩
    · exact ⟨call, (TokenWorld.settle_calls_other hcd).trans hcall, rfl⟩
  | invalidated => exact ⟨call, hcall, rfl⟩

/-- A call has a token because it had it, because it read it from the cache, or because it
has just been issued to it. -/
theorem change_token (h : TokenChange cfg w l w') {call' : TokenCall}
    (hcall' : w'.calls c = some call') (hkey : tokenKey call'.room = key)
    (ht : call'.stage.token = some t) :
    (∃ call, w.calls c = some call ∧ call.room = call'.room ∧ call.stage.token = some t) ∨
      (∃ entry, w.cache key = some entry ∧ entry.token cfg = some t) ∨
      (w.Issues l c key t ∧ w'.Pending c key t) := by
  rcases call_origin h hcall' with same | ⟨room, force, _, hbegun⟩ |
    ⟨op, moved, v, rfl, hmoved, hmove, rfl, _⟩
  · exact Or.inl ⟨call', same, rfl, ht⟩
  · rw [(begin_stage hbegun).2.1] at ht
    cases ht
  · have hroom := move_room hmove
    rw [hroom] at hkey
    rcases move_token hmove ht with same | ⟨entry, hentry, hread⟩ | ⟨hpending, result, hop, hresult⟩
    · exact Or.inl ⟨moved, hmoved, hroom.symm, same⟩
    · subst hkey
      exact Or.inr (Or.inl ⟨entry, hentry, hread⟩)
    · refine Or.inr (Or.inr ⟨⟨result, moved, by rw [hop], hmoved, hkey, hresult⟩, v.call,
        hcall', ?_, hpending⟩)
      rw [hroom]
      exact hkey

theorem change_pending (h : TokenChange cfg w l w') (hpending : w'.Pending c key t) :
    w.Pending c key t ∨ (w.Issues l c key t ∧ t ∈ w'.issued key) := by
  obtain ⟨call', hcall', hkey, ht⟩ := hpending
  rcases call_origin h hcall' with same | ⟨room, force, _, hbegun⟩ |
    ⟨op, moved, v, rfl, hmoved, hmove, rfl, rfl⟩
  · exact Or.inl ⟨call', same, hkey, ht⟩
  · rw [(begin_stage hbegun).2.2] at ht
    cases ht
  · rw [move_room hmove] at hkey
    rcases move_pending hmove ht with same | ⟨hnew, result, hop, hresult⟩
    · exact Or.inl ⟨moved, hmoved, hkey, same⟩
    · refine Or.inr ⟨⟨result, moved, by rw [hop], hmoved, hkey, hresult⟩, ?_⟩
      subst hkey
      simp [TokenWorld.view, hnew]

/-- An entry of the cache was there, or its token is pending and now no longer. -/
theorem change_entry (h : TokenChange cfg w l w') {entry : CacheEntry}
    (hentry : w'.cache key = some entry) (ht : entry.token cfg = some t) :
    w.cache key = some entry ∨ ∃ c, w.Pending c key t ∧ ¬ w'.Pending c key t := by
  cases h with
  | ticked _ => exact Or.inl hentry
  | begun _ => exact Or.inl hentry
  | @operated d op moved v hmoved hmove =>
    by_cases hkey : key = tokenKey moved.room
    · subst hkey
      have hv : v.entry = some entry := by simpa using hentry
      rcases move_entry hmove hv ht with same | ⟨hpending, hstored⟩
      · exact Or.inl same
      · refine Or.inr ⟨d, ⟨moved, hmoved, rfl, hpending⟩, ?_⟩
        rintro ⟨call', hcall', _, ht'⟩
        have hv' : v.call = call' := by simpa using hcall'
        rw [← hv', hstored] at ht'
        cases ht'
    · exact Or.inl ((TokenWorld.settle_cache_other hkey).symm.trans hentry)
  | invalidated => exact Or.inl (TokenWorld.invalidate_cache hentry).2

theorem change_issued (h : TokenChange cfg w l w') (ht : t ∈ w.issued key) : t ∈ w'.issued key := by
  cases h with
  | @operated d op moved v hmoved hmove =>
    by_cases hkey : key = tokenKey moved.room
    · subst hkey
      have hv : t ∈ v.issued := by
        rcases move_issued hmove with same | ⟨result, _, hnew, _⟩
        · rw [same]
          exact ht
        · rw [hnew]
          exact List.mem_cons_of_mem _ ht
      simpa using hv
    · rw [TokenWorld.settle_issued_other hkey]
      exact ht
  | _ => exact ht

end Changes

/-- A token somebody can use or has used. -/
inductive TokenUse.Out (cfg : TokenSettings) (s : TokenUse) (key : TokenKey) (t : String) : Prop
  | call {c : TokenCallId} {call : TokenCall} : s.tokens.calls c = some call →
      tokenKey call.room = key → call.stage.token = some t → call.stage.pending = none →
      Out cfg s key t
  | entry {entry : CacheEntry} : s.tokens.cache key = some entry → entry.token cfg = some t →
      Out cfg s key t
  | user {r : RequestId} {user : TokenUser} : s.users r = some user → tokenKey user.room = key →
      user.stage.token = some t → Out cfg s key t
  | rejected : t ∈ s.rejected key → Out cfg s key t

/-- A request that was rejected once works on another token than the rejected one. -/
def TokenUse.Apart (s : TokenUse) (user : TokenUser) : Prop :=
  match user.stage with
  | .fetching c first => ∃ call, s.tokens.calls c = some call ∧ call.room = user.room ∧
      ∀ t, first = some t → t ∈ s.rejected (tokenKey user.room) ∧ call.stage.token ≠ some t
  | .starting token first => first ≠ some token
  | .unauthorized token first => first ≠ some token
  | .retrying first => first ∈ s.rejected (tokenKey user.room)
  | .ended => True

structure TokenUse.Law (cfg : TokenSettings) (s : TokenUse) : Prop where
  outIssued : ∀ {key t}, s.Out cfg key t → t ∈ s.tokens.issued key
  pendingIssued : ∀ {c key t}, s.tokens.Pending c key t → t ∈ s.tokens.issued key
  pendingOut : ∀ {c key t}, s.tokens.Pending c key t → ¬ s.Out cfg key t
  pendingOnce : ∀ {c d key t}, s.tokens.Pending c key t → s.tokens.Pending d key t → c = d
  uncached : ∀ {key t entry}, t ∈ s.rejected key → s.tokens.cache key = some entry →
    entry.token cfg ≠ some t
  users : ∀ {r user}, s.users r = some user → s.Apart user

/-- What a step keeps: the rejected tokens, the calls, and that no call comes by a rejected
token. -/
structure TokenUse.Carries (s s' : TokenUse) : Prop where
  rejected : ∀ {key t}, t ∈ s.rejected key → t ∈ s'.rejected key
  calls : ∀ {c call}, s.tokens.calls c = some call →
    ∃ call', s'.tokens.calls c = some call' ∧ call'.room = call.room
  token : ∀ {c call' t}, s'.tokens.calls c = some call' → t ∈ s.rejected (tokenKey call'.room) →
    call'.stage.token = some t →
    ∃ call, s.tokens.calls c = some call ∧ call.room = call'.room ∧ call.stage.token = some t

section Laws
variable {cfg : TokenSettings} {s s' s'' : TokenUse} {r : RequestId} {room : VersionedRoom}

theorem TokenUse.Carries.trans (h : s.Carries s') (h' : s'.Carries s'') : s.Carries s'' := by
  constructor
  · exact fun ht => h'.rejected (h.rejected ht)
  · intro c call hcall
    obtain ⟨call', hcall', hroom⟩ := h.calls hcall
    obtain ⟨call'', hcall'', hroom'⟩ := h'.calls hcall'
    exact ⟨call'', hcall'', hroom'.trans hroom⟩
  · intro c call'' t hcall'' hrejected ht
    obtain ⟨call', hcall', hroom', ht'⟩ := h'.token hcall'' (h.rejected hrejected) ht
    rw [← hroom'] at hrejected
    obtain ⟨call, hcall, hroom, ht⟩ := h.token hcall' hrejected ht'
    exact ⟨call, hcall, hroom.trans hroom', ht⟩

/-- Steps that leave the calls alone. -/
theorem carries_of_calls (calls : s'.tokens.calls = s.tokens.calls)
    (rejected : ∀ {key t}, t ∈ s.rejected key → t ∈ s'.rejected key) : s.Carries s' := by
  constructor
  · exact rejected
  · intro c call hcall
    exact ⟨call, by rw [calls, hcall], rfl⟩
  · intro c call' t hcall' _ ht
    rw [calls] at hcall'
    exact ⟨call', hcall', rfl, ht⟩

theorem apart_carried {user : TokenUser} (h : s.Carries s') (apart : s.Apart user) :
    s'.Apart user := by
  unfold TokenUse.Apart at apart ⊢
  cases hstage : user.stage with
  | fetching c first =>
    simp only [hstage] at apart ⊢
    obtain ⟨call, hcall, hroom, hfirst⟩ := apart
    obtain ⟨call', hcall', hroom'⟩ := h.calls hcall
    refine ⟨call', hcall', hroom'.trans hroom, ?_⟩
    intro t ht
    obtain ⟨hrejected, hother⟩ := hfirst t ht
    refine ⟨h.rejected hrejected, ?_⟩
    intro hsame
    rw [← hroom, ← hroom'] at hrejected
    obtain ⟨origin, horigin, _, htoken⟩ := h.token hcall' hrejected hsame
    rw [hcall] at horigin
    cases horigin
    exact hother htoken
  | retrying first =>
    simp only [hstage] at apart ⊢
    exact h.rejected apart
  | starting token first =>
    simp only [hstage] at apart ⊢
    exact apart
  | unauthorized token first =>
    simp only [hstage] at apart ⊢
    exact apart
  | ended => trivial

/-- Steps that leave the calls alone and put no token where there was none. -/
theorem TokenUse.Law.shrink (law : s.Law cfg) (calls : s'.tokens.calls = s.tokens.calls)
    (issued : s'.tokens.issued = s.tokens.issued)
    (out : ∀ {key t}, s'.Out cfg key t → s.Out cfg key t)
    (uncached : ∀ {key t entry}, t ∈ s'.rejected key → s'.tokens.cache key = some entry →
      entry.token cfg ≠ some t)
    (users : ∀ {r user}, s'.users r = some user → s'.Apart user) : s'.Law cfg := by
  have hpending {c key t} : s'.tokens.Pending c key t ↔ s.tokens.Pending c key t := by
    simp [TokenWorld.Pending, calls]
  constructor
  · intro key t hout
    rw [issued]
    exact law.outIssued (out hout)
  · intro c key t hp
    rw [issued]
    exact law.pendingIssued (hpending.mp hp)
  · intro c key t hp hout
    exact law.pendingOut (hpending.mp hp) (out hout)
  · intro c d key t hp hp'
    exact law.pendingOnce (hpending.mp hp) (hpending.mp hp')
  · exact uncached
  · exact users

theorem goto_users {stage : UserStage} {r' : RequestId} {user : TokenUser}
    (h : (s.goto r room stage).users r' = some user) :
    user = ⟨room, stage⟩ ∨ s.users r' = some user := by
  by_cases hr : r' = r
  · subst hr
    left
    simp only [TokenUse.goto, Function.update_self, Option.some.injEq] at h
    exact h.symm
  · right
    simpa [TokenUse.goto, Function.update_of_ne hr] using h

theorem law_goto {stage : UserStage} (law : s.Law cfg)
    (out : ∀ t, stage.token = some t → s.Out cfg (tokenKey room) t)
    (apart : s.Apart ⟨room, stage⟩) : (s.goto r room stage).Law cfg := by
  apply law.shrink
  · rfl
  · rfl
  · intro key t hout
    cases hout with
    | call hcall hkey ht hstored => exact .call hcall hkey ht hstored
    | entry hentry ht => exact .entry hentry ht
    | user huser hkey ht =>
      rcases goto_users huser with rfl | hold
      · subst hkey
        exact out t ht
      · exact .user hold hkey ht
    | rejected ht => exact .rejected ht
  · exact law.uncached
  · intro r' user huser
    rcases goto_users huser with rfl | hold
    · exact apart
    · exact law.users hold

theorem reject_rejected {key key' : TokenKey} {token t : String}
    (h : t ∈ (s.reject key token).rejected key') :
    (key' = key ∧ t = token) ∨ t ∈ s.rejected key' := by
  by_cases hkey : key' = key
  · subst hkey
    simpa [TokenUse.reject] using h
  · right
    simpa [TokenUse.reject, Function.update_of_ne hkey] using h

theorem reject_keeps {key key' : TokenKey} {token t : String} (h : t ∈ s.rejected key') :
    t ∈ (s.reject key token).rejected key' := by
  by_cases hkey : key' = key
  · subst hkey
    simp [TokenUse.reject, h]
  · simpa [TokenUse.reject, Function.update_of_ne hkey] using h

theorem carries_reject {key : TokenKey} {token : String} : s.Carries (s.reject key token) :=
  carries_of_calls rfl reject_keeps

/-- The deletion after a 401: the token has been out, and it is the cache that loses it. -/
theorem law_reject {key : TokenKey} {token : String} (law : s.Law cfg)
    (out : s.Out cfg key token) : (s.reject key token).Law cfg := by
  apply law.shrink
  · rfl
  · rfl
  · intro key' t hout
    cases hout with
    | call hcall hkey ht hstored => exact .call hcall hkey ht hstored
    | entry hentry ht => exact .entry (TokenWorld.invalidate_cache hentry).2 ht
    | user huser hkey ht => exact .user huser hkey ht
    | rejected ht =>
      rcases reject_rejected ht with ⟨rfl, rfl⟩ | hold
      · exact out
      · exact .rejected hold
  · intro key' t entry ht hentry
    obtain ⟨hkey, hold⟩ := TokenWorld.invalidate_cache hentry
    rcases reject_rejected ht with ⟨hsame, _⟩ | hrejected
    · exact absurd hsame hkey
    · exact law.uncached hrejected hold
  · intro r user huser
    exact apart_carried carries_reject (law.users huser)

end Laws

section Calls
variable {cfg : TokenSettings} {s : TokenUse} {l : TokenLabel} {w : TokenWorld}

theorem issues_fresh (hdistinct : s.distinct (.token l) = true) {c : TokenCallId} {key : TokenKey}
    {t : String} (h : s.tokens.Issues l c key t) : t ∉ s.tokens.issued key := by
  obtain ⟨result, call, rfl, hcall, rfl, rfl⟩ := h
  simpa [TokenUse.distinct, hcall] using hdistinct

theorem issues_once {c d : TokenCallId} {key key' : TokenKey} {t t' : String}
    (h : s.tokens.Issues l c key t) (h' : s.tokens.Issues l d key' t') : c = d := by
  obtain ⟨_, _, rfl, _⟩ := h
  obtain ⟨_, _, hl, _⟩ := h'
  cases hl
  rfl

theorem out_token (h : TokenChange cfg s.tokens l w) {key : TokenKey} {t : String}
    (out : ({ s with tokens := w } : TokenUse).Out cfg key t) :
    s.Out cfg key t ∨ ∃ c, s.tokens.Pending c key t ∧ ¬ w.Pending c key t := by
  cases out with
  | @call c call' hcall' hkey ht hstored =>
    have unpending : ¬ w.Pending c key t := by
      rintro ⟨other, hother, _, hpending⟩
      rw [show w.calls c = some call' from hcall'] at hother
      cases hother
      rw [hstored] at hpending
      cases hpending
    rcases change_token h hcall' hkey ht with ⟨call, hcall, hroom, hold⟩ | ⟨entry, hentry, hread⟩ |
      ⟨_, hpending⟩
    · rw [← hroom] at hkey
      cases hp : call.stage.pending with
      | none => exact Or.inl (.call hcall hkey hold hp)
      | some t' =>
        have same : t' = t := by
          have := pending_token hp
          rw [hold] at this
          exact (Option.some.inj this).symm
        subst same
        exact Or.inr ⟨c, ⟨call, hcall, hkey, hp⟩, unpending⟩
    · exact Or.inl (.entry hentry hread)
    · exact absurd hpending unpending
  | entry hentry ht =>
    rcases change_entry h hentry ht with hold | hpending
    · exact Or.inl (.entry hold ht)
    · exact Or.inr hpending
  | user huser hkey ht => exact Or.inl (.user huser hkey ht)
  | rejected ht => exact Or.inl (.rejected ht)

theorem carries_token (law : s.Law cfg) (h : TokenChange cfg s.tokens l w)
    (hdistinct : s.distinct (.token l) = true) : s.Carries { s with tokens := w } := by
  constructor
  · exact id
  · exact change_calls h
  · intro c call' t hcall' hrejected ht
    rcases change_token h hcall' rfl ht with hold | ⟨entry, hentry, hread⟩ | ⟨hissues, _⟩
    · exact hold
    · exact absurd hread (law.uncached hrejected hentry)
    · exact absurd (law.outIssued (.rejected hrejected)) (issues_fresh hdistinct hissues)

theorem law_token (law : s.Law cfg) (h : TokenChange cfg s.tokens l w)
    (hdistinct : s.distinct (.token l) = true) : ({ s with tokens := w } : TokenUse).Law cfg := by
  constructor
  · intro key t out
    rcases out_token h out with hold | ⟨c, hpending, _⟩
    · exact change_issued h (law.outIssued hold)
    · exact change_issued h (law.pendingIssued hpending)
  · intro c key t hp
    rcases change_pending h hp with hold | ⟨_, hnew⟩
    · exact change_issued h (law.pendingIssued hold)
    · exact hnew
  · intro c key t hp out
    rcases change_pending h hp with hold | ⟨hissues, _⟩
    · rcases out_token h out with hout | ⟨d, hd, hdone⟩
      · exact law.pendingOut hold hout
      · rw [law.pendingOnce hold hd] at hp
        exact hdone hp
    · apply issues_fresh hdistinct hissues
      rcases out_token h out with hout | ⟨d, hd, _⟩
      · exact law.outIssued hout
      · exact law.pendingIssued hd
  · intro c d key t hc hd
    rcases change_pending h hc with hc | ⟨hc, _⟩
    · rcases change_pending h hd with hd | ⟨hd, _⟩
      · exact law.pendingOnce hc hd
      · exact absurd (law.pendingIssued hc) (issues_fresh hdistinct hd)
    · rcases change_pending h hd with hd | ⟨hd, _⟩
      · exact absurd (law.pendingIssued hd) (issues_fresh hdistinct hc)
      · exact issues_once hc hd
  · intro key t entry ht hentry hread
    rcases change_entry h hentry hread with hold | ⟨c, hpending, _⟩
    · exact law.uncached ht hold hread
    · exact law.pendingOut hpending (.rejected ht)
  · intro r user huser
    exact apart_carried (carries_token law h hdistinct) (law.users huser)

/-- A new call of a request, entered under its stage. -/
theorem law_begin {c : TokenCallId} {r : RequestId} {room : VersionedRoom} {force : Bool}
    {first : Option String} (law : s.Law cfg) (hnew : s.tokens.calls c = none)
    (rejected : ∀ t, first = some t → t ∈ s.rejected (tokenKey room)) :
    (({ s with tokens := s.tokens.begin c room force } : TokenUse).goto r room
      (.fetching c first)).Law cfg := by
  apply law_goto
  · exact law_token (l := .call c room force) law (.begun hnew) rfl
  · intro t ht
    cases ht
  · obtain ⟨call, hcall⟩ : ∃ call, (s.tokens.begin c room force).calls c = some call :=
      ⟨_, Function.update_self ..⟩
    obtain ⟨hroom, htoken, _⟩ := begin_stage hcall
    refine ⟨call, hcall, hroom, ?_⟩
    intro t ht
    refine ⟨rejected t ht, ?_⟩
    simp [htoken]

theorem carries_begin {c : TokenCallId} {r : RequestId} {room : VersionedRoom} {force : Bool}
    {stage : UserStage} (law : s.Law cfg) (hnew : s.tokens.calls c = none) :
    s.Carries (({ s with tokens := s.tokens.begin c room force } : TokenUse).goto r room
      stage) :=
  (carries_token (l := .call c room force) law (.begun hnew) rfl).trans (carries_of_calls rfl id)

end Calls

section Steps
variable {cfg : TokenSettings} {s s' : TokenUse}

theorem use_step {l : UseLabel} (law : s.Law cfg) (hdistinct : s.distinct l = true)
    (h : TokenUse.step cfg s l = some s') : s'.Law cfg ∧ s.Carries s' := by
  cases step_useMove h with
  | called hchange => exact ⟨law_token law hchange hdistinct, carries_token law hchange hdistinct⟩
  | begun _ hnew => exact ⟨law_begin law hnew (fun t ht => by cases ht), carries_begin law hnew⟩
  | @started r c room first call result huser hcall hstage =>
    have apart := law.users huser
    obtain ⟨call', hcall', hroom, hfirst⟩ := apart
    rw [hcall] at hcall'
    cases hcall'
    refine ⟨law_goto law ?_ ?_, carries_of_calls rfl id⟩
    · rintro t ⟨⟩
      exact .call hcall (by rw [hroom]) (by rw [hstage]; rfl) (by rw [hstage]; rfl)
    · intro hsame
      apply (hfirst _ hsame).2
      rw [hstage]
      rfl
  | @refused r room token first huser =>
    have apart : first ≠ some token := law.users huser
    refine ⟨law_goto law ?_ apart, carries_of_calls rfl id⟩
    intro t ht
    exact .user huser rfl ht
  | @invalidated r room token first huser =>
    have hreject := law_reject law (.user huser rfl rfl)
    refine ⟨law_goto hreject ?_ ?_, carries_reject.trans (carries_of_calls rfl id)⟩
    · intro t ht
      cases first <;> cases ht
    · cases first with
      | none => simp [TokenUse.Apart, TokenUse.reject]
      | some _ => trivial
  | retried huser hnew =>
    refine ⟨law_begin law hnew ?_, carries_begin law hnew⟩
    rintro t ⟨⟩
    exact law.users huser
  | ended => exact ⟨law_goto law (fun t ht => by cases ht) trivial, carries_of_calls rfl id⟩

theorem law_initial {clock : Int} : (TokenUse.initial clock).Law cfg := by
  have hout {key t} : ¬ (TokenUse.initial clock).Out cfg key t := by
    intro hout
    cases hout with
    | call hcall _ _ _ => cases hcall
    | entry hentry _ => cases hentry
    | user huser _ _ => cases huser
    | rejected ht => cases ht
  have hpending {c key t} : ¬ (TokenUse.initial clock).tokens.Pending c key t := by
    rintro ⟨call, hcall, _⟩
    cases hcall
  constructor
  · exact fun h => absurd h hout
  · exact fun h => absurd h hpending
  · exact fun h => absurd h hpending
  · exact fun h => absurd h hpending
  · exact fun ht => absurd (.rejected ht) hout
  · intro r user huser
    cases huser

theorem law_reached (h : UseReached cfg s s') (law : s.Law cfg) : s'.Law cfg := by
  induction h with
  | start => exact law
  | step _ hs ih =>
    obtain ⟨hdistinct, hstep⟩ := restrict_eq_some.mp hs
    exact (use_step ih hdistinct hstep).1

theorem carries_reached (h : UseReached cfg s s') (law : s.Law cfg) : s.Carries s' := by
  induction h with
  | start => exact carries_of_calls rfl id
  | step reached hs ih =>
    obtain ⟨hdistinct, hstep⟩ := restrict_eq_some.mp hs
    exact ih.trans (use_step (law_reached reached law) hdistinct hstep).2

/-- The request is over, or `t` is the token it was rejected on. -/
def UserStage.After (t : String) : UserStage → Prop
  | .fetching _ first => first = some t
  | .starting _ first => first = some t
  | .unauthorized _ first => first = some t
  | .retrying first => first = t
  | .ended => True

def TokenUse.After (s : TokenUse) (r : RequestId) (t : String) : Prop :=
  ∃ user, s.users r = some user ∧ user.stage.After t

theorem after_goto {r r' : RequestId} {room : VersionedRoom} {stage : UserStage} {t : String}
    (h : s.After r t) (hstage : r = r' → stage.After t) : (s.goto r' room stage).After r t := by
  by_cases hr : r = r'
  · subst hr
    exact ⟨⟨room, stage⟩, Function.update_self .., hstage rfl⟩
  · obtain ⟨user, huser, hafter⟩ := h
    exact ⟨user, by simpa [TokenUse.goto, Function.update_of_ne hr] using huser, hafter⟩

theorem After.stage {r : RequestId} {user : TokenUser} {t : String} (h : s.After r t)
    (huser : s.users r = some user) : user.stage.After t := by
  obtain ⟨user', huser', hafter⟩ := h
  rw [huser] at huser'
  cases huser'
  exact hafter

theorem after_step {l : UseLabel} {r : RequestId} {t : String} (after : s.After r t)
    (h : TokenUse.step cfg s l = some s') : s'.After r t := by
  cases step_useMove h with
  | called _ => exact after
  | begun hnone _ =>
    refine after_goto (s := { s with tokens := _ }) after ?_
    rintro rfl
    obtain ⟨user, huser, _⟩ := after
    rw [hnone] at huser
    cases huser
  | started huser _ _ =>
    refine after_goto after ?_
    rintro rfl
    exact After.stage after huser
  | refused huser =>
    refine after_goto after ?_
    rintro rfl
    exact After.stage after huser
  | @invalidated r' room token first huser =>
    refine after_goto (s := s.reject _ _) after ?_
    rintro rfl
    have hfirst : first = some t := After.stage after huser
    simp [hfirst, UserStage.After]
  | @retried r' c room first huser _ =>
    refine after_goto (s := { s with tokens := _ }) after ?_
    rintro rfl
    have hfirst : first = t := After.stage after huser
    exact congrArg some hfirst
  | ended => exact after_goto after fun _ => trivial

theorem after_reached {r : RequestId} {t : String} (h : UseReached cfg s s')
    (after : s.After r t) : s'.After r t := by
  induction h with
  | start => exact after
  | step _ hs ih => exact after_step ih (restrict_eq_some.mp hs).2

theorem invalidate_after {r : RequestId} {room : VersionedRoom} {t : String}
    {first : Option String} (huser : s.users r = some ⟨room, .unauthorized t first⟩)
    (h : TokenUse.step cfg s (.invalidate r) = some s') :
    s'.After r t ∧ t ∈ s'.rejected (tokenKey room) := by
  simp only [TokenUse.step, huser, Option.some.injEq] at h
  subst h
  constructor
  · refine ⟨_, Function.update_self .., ?_⟩
    cases first with
    | none => exact rfl
    | some _ => trivial
  · simp [TokenUse.goto, TokenUse.reject]

/-- Once a request has deleted the cached token after a 401 on `t`, no call of `get_token`
that begins later returns `t`, and the request itself starts no further meeting with it. -/
theorem rejected_token_unused {s₀ : TokenUse} {clock : Int} {r : RequestId} {room : VersionedRoom}
    {t : String} {first : Option String} (hs : UseReached cfg (TokenUse.initial clock) s₀)
    (huser : s₀.users r = some ⟨room, .unauthorized t first⟩)
    (hinvalidate : TokenUse.step cfg s₀ (.invalidate r) = some s) (h : UseReached cfg s s') :
    (∀ c call result, s.tokens.calls c = none → s'.tokens.calls c = some call →
        tokenKey call.room = tokenKey room → call.stage = .returned (.issued result) →
        result.accessToken ≠ t) ∧
      ∀ room' token first', s'.users r = some ⟨room', .starting token first'⟩ → token ≠ t := by
  have law : s.Law cfg := (use_step (law_reached hs law_initial) rfl hinvalidate).1
  obtain ⟨after, hrejected⟩ := invalidate_after huser hinvalidate
  constructor
  · intro c call result hnew hcall hkey hstage hsame
    rw [← hkey] at hrejected
    obtain ⟨origin, horigin, _⟩ := (carries_reached h law).token hcall hrejected
      (by rw [hstage, ← hsame]; rfl)
    rw [hnew] at horigin
    cases horigin
  · intro room' token first' hnow hsame
    have hfirst : first' = some t := After.stage (after_reached h after) hnow
    have apart : first' ≠ some token := (law_reached h law).users hnow
    rw [hfirst, hsame] at apart
    exact apart rfl

end Steps

def exampleFirstAttempt : List UseLabel :=
  [.begin 5 0 exampleVersionedRoom, .token (.on 0 .enter), .token (.on 0 .read),
    .token (.on 0 (.exchange (.issued ⟨"T-1", none⟩))), .token (.on 0 .measure),
    .token (.on 0 .store), .token (.on 0 .stamp), .token (.on 0 .leave), .use 5, .answer 5 true]

/-- The forced call of the request, and the call of a token request that finds its token. -/
def exampleSecondAttempt : List UseLabel :=
  [.retry 5 1, .token (.on 1 .enter), .token (.on 1 (.exchange (.issued ⟨"T-2", none⟩))),
    .token (.on 1 .measure), .token (.on 1 .store), .token (.on 1 .stamp), .token (.on 1 .leave),
    .use 5, .token (.call 2 exampleVersionedRoom false), .token (.on 2 .enter),
    .token (.on 2 .read), .token (.on 2 .compare), .token (.on 2 .leave)]

def exampleUseStep : TokenUse → UseLabel → Option TokenUse :=
  restrict (fun s l => TokenUse.distinct s l = true) (TokenUse.step exampleTokenSettings)

/-- The key and the tokens of a request at a meeting start or after its 401. -/
def TokenUser.attempt (user : TokenUser) : Option (Bool × TokenKey × String × Option String) :=
  match user.stage with
  | .starting token first => some (false, tokenKey user.room, token, first)
  | .unauthorized token first => some (true, tokenKey user.room, token, first)
  | _ => none

def TokenCall.returnedToken (call : TokenCall) : Option (TokenKey × String) :=
  match call.stage with
  | .returned (.issued result) => some (tokenKey call.room, result.accessToken)
  | _ => none

theorem attempt_starting {user : TokenUser} {key : TokenKey} {token : String}
    {first : Option String} (h : user.attempt = some (false, key, token, first)) :
    user = ⟨user.room, .starting token first⟩ := by
  obtain ⟨room, stage⟩ := user
  cases stage <;> simp_all [TokenUser.attempt]

theorem attempt_unauthorized {user : TokenUser} {key : TokenKey} {token : String}
    {first : Option String} (h : user.attempt = some (true, key, token, first)) :
    user = ⟨user.room, .unauthorized token first⟩ ∧ tokenKey user.room = key := by
  obtain ⟨room, stage⟩ := user
  cases stage <;> simp_all [TokenUser.attempt]

theorem returnedToken_some {call : TokenCall} {key : TokenKey} {token : String}
    (h : call.returnedToken = some (key, token)) :
    tokenKey call.room = key ∧ ∃ result, call.stage = .returned (.issued result) ∧
      result.accessToken = token := by
  unfold TokenCall.returnedToken at h
  split at h
  · rename_i result hstage
    cases h
    exact ⟨rfl, result, hstage, rfl⟩
  · cases h

def exampleUseRun : Option (TokenUse × TokenUse × TokenUse) :=
  (run exampleUseStep (TokenUse.initial 0) exampleFirstAttempt).bind fun s₀ =>
    (TokenUse.step exampleTokenSettings s₀ (.invalidate 5)).bind fun s =>
      (run exampleUseStep s exampleSecondAttempt).map fun s' => (s₀, s, s')

theorem exampleUseRun_some :
    ∃ s₀ s s' first second call, exampleUseRun = some (s₀, s, s') ∧
      s₀.users 5 = some first ∧
      first.attempt = some (true, tokenKey exampleVersionedRoom, "T-1", none) ∧
      s.tokens.calls 2 = none ∧ s'.users 5 = some second ∧
      second.attempt = some (false, tokenKey exampleVersionedRoom, "T-2", some "T-1") ∧
      s'.tokens.calls 2 = some call ∧
      call.returnedToken = some (tokenKey exampleVersionedRoom, "T-2") := by
  have rejected : (exampleUseRun.bind fun w => w.1.users 5).bind TokenUser.attempt =
      some (true, tokenKey exampleVersionedRoom, "T-1", none) := by decide +kernel
  have unused : exampleUseRun.map (fun w => (w.2.1.tokens.calls 2).isNone) = some true := by
    decide +kernel
  have started : (exampleUseRun.bind fun w => w.2.2.users 5).bind TokenUser.attempt =
      some (false, tokenKey exampleVersionedRoom, "T-2", some "T-1") := by decide +kernel
  have returned : (exampleUseRun.bind fun w => w.2.2.tokens.calls 2).bind TokenCall.returnedToken =
      some (tokenKey exampleVersionedRoom, "T-2") := by decide +kernel
  obtain ⟨⟨s₀, s, s'⟩, hrun, hnew⟩ := Option.map_eq_some_iff.mp unused
  rw [hrun] at rejected started returned
  obtain ⟨first, huser, hfirst⟩ := Option.bind_eq_some_iff.mp rejected
  obtain ⟨second, hnow, hsecond⟩ := Option.bind_eq_some_iff.mp started
  obtain ⟨call, hcall, hreturned⟩ := Option.bind_eq_some_iff.mp returned
  exact ⟨s₀, s, s', first, second, call, hrun, huser, hfirst, by simpa using hnew, hnow, hsecond,
    hcall, hreturned⟩

theorem rejected_token_unused_retry :
    ∃ s₀ s s' call result second, UseReached exampleTokenSettings (TokenUse.initial 0) s₀ ∧
      TokenUse.step exampleTokenSettings s₀ (.invalidate 5) = some s ∧
      UseReached exampleTokenSettings s s' ∧ s'.tokens.calls 2 = some call ∧
      call.stage = .returned (.issued result) ∧ result.accessToken ≠ "T-1" ∧
      s'.users 5 = some second ∧ second.stage = .starting "T-2" (some "T-1") ∧
      "T-2" ≠ "T-1" := by
  obtain ⟨s₀, s, s', first, second, call, hrun, huser, hfirst, hnew, hnow, hsecond, hcall,
    hreturned⟩ := exampleUseRun_some
  obtain ⟨_, hs, hrest⟩ := Option.bind_eq_some_iff.mp hrun
  obtain ⟨_, hinvalidate, hrest⟩ := Option.bind_eq_some_iff.mp hrest
  obtain ⟨_, h, hsame⟩ := Option.map_eq_some_iff.mp hrest
  cases hsame
  obtain ⟨rejected, hkey⟩ := attempt_unauthorized hfirst
  obtain ⟨hcallKey, result, hstage, _⟩ := returnedToken_some hreturned
  rw [rejected] at huser
  rw [attempt_starting hsecond] at hnow
  obtain ⟨returned, started⟩ := rejected_token_unused (reachable_of_run hs) huser hinvalidate
    (reachable_of_run h)
  exact ⟨s₀, s, s', call, result, _, reachable_of_run hs, hinvalidate, reachable_of_run h, hcall,
    hstage, returned 2 call result hnew hcall (hcallKey.trans hkey.symm) hstage, hnow, rfl,
    started _ _ _ hnow⟩

end MeetingGateway
