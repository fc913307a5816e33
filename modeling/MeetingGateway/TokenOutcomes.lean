import MeetingGateway.TokenCache

/-!
# Calls among others return what one call returns

A call of `get_token` in a run of the cache meets an entry that others stored, a lock that others
hold and a clock that goes on. What it returns is what `getToken` returns for some answers, so
what holds of `getToken` for all answers holds of every call.
-/

namespace MeetingGateway

open LabelledRuns

section Explanations
variable (cfg : TokenSettings) (room : Room) (force : Bool)

/-- The body of the call goes on as `renew` does, whatever it meets. -/
def Renews : Prop :=
  ∀ answers, ∃ answers', underTokenLock cfg room force answers' = renew cfg room answers

/-- The body of the call can end like this, or an error escapes from it. -/
def Ends (outcome : TokenOutcome) : Prop :=
  (∃ answers, underTokenLock cfg room force answers = outcome) ∨ ∃ e, outcome = .escaped e

def Returns (outcome : TokenOutcome) : Prop :=
  ∃ answers, getToken cfg room force answers = outcome

/-- How a call got to a statement, put as answers of the call. -/
def Explained : TokenStage → Prop
  | .entering => room.isActive = true
  | .reading => room.isActive = true ∧ force = false
  | .comparing item => room.isActive = true ∧ force = false ∧
      ∃ raw, readItem cfg.toSettings raw = .ok item
  | .deleting => room.isActive = true ∧ force = false ∧
      ∃ raw e, readItem cfg.toSettings raw = .error e ∧ e.discards = true
  | .authenticating => room.isActive = true ∧ Renews cfg room force
  | .measuring result => room.isActive = true ∧ Renews cfg room force ∧
      authenticate cfg.toSettings room (.issued result) = .issued result
  | .storing result _ => room.isActive = true ∧ Ends cfg room force (.issued result)
  | .stamping result => room.isActive = true ∧ Ends cfg room force (.issued result)
  | .leaving outcome => room.isActive = true ∧ Ends cfg room force outcome
  | .returned outcome => Returns cfg room force outcome

end Explanations

section Answers
variable {cfg : TokenSettings} {room : Room} {force : Bool} {outcome : TokenOutcome}

/-- An empty cache and a provider that raises. -/
def TokenAnswers.unlucky : TokenAnswers :=
  ⟨.ok true, .ok none, 0, .ok (), .escaped .unexpected, 0, .ok (), .ok true⟩

theorem renews_forced : Renews cfg room true := by
  intro answers
  exact ⟨answers, rfl⟩

theorem renews_missed : Renews cfg room false := by
  intro answers
  exact ⟨{ answers with cached := .ok none }, rfl⟩

theorem renews_stale {raw : Stored CacheText} {item : CacheItem} {now : Int}
    (hitem : readItem cfg.toSettings raw = .ok item) (stale : ¬ cfg.fresh item.expiry now = true) :
    Renews cfg room false := by
  intro answers
  refine ⟨{ answers with cached := .ok (some raw), comparedAt := now }, ?_⟩
  simp only [underTokenLock, hitem, if_neg stale]
  rfl

theorem renews_discarded {raw : Stored CacheText} {e : PyError}
    (hitem : readItem cfg.toSettings raw = .error e) (discards : e.discards = true) :
    Renews cfg room false := by
  intro answers
  refine ⟨{ answers with cached := .ok (some raw), deleted := .ok () }, ?_⟩
  simp only [underTokenLock, hitem, if_pos discards]
  rfl

theorem ends_fresh {raw : Stored CacheText} {item : CacheItem} {now : Int}
    (hitem : readItem cfg.toSettings raw = .ok item) (fresh : cfg.fresh item.expiry now = true) :
    Ends cfg room false (.issued ⟨item.token, item.expiry⟩) := by
  left
  refine ⟨{ TokenAnswers.unlucky with cached := .ok (some raw), comparedAt := now }, ?_⟩
  simp only [underTokenLock, hitem, if_pos fresh]
  rfl

/-- An outcome of `renew` is an outcome of the body. -/
theorem Renews.ends (renews : Renews cfg room force) {answers : TokenAnswers}
    (h : renew cfg room answers = outcome) : Ends cfg room force outcome := by
  obtain ⟨answers', hbody⟩ := renews answers
  exact Or.inl ⟨answers', hbody.trans h⟩

theorem renew_failed {exchange : TokenOutcome}
    (h : authenticate cfg.toSettings room exchange = outcome)
    (failed : ∀ result, outcome ≠ .issued result) :
    renew cfg room { TokenAnswers.unlucky with exchange := exchange } = outcome := by
  simp only [renew, h]

theorem renew_short {result : ProviderAuthResult} {now : Int}
    (h : authenticate cfg.toSettings room (.issued result) = .issued result)
    (short : cfg.ttl result.expiresAt now ≤ 0) :
    renew cfg room { TokenAnswers.unlucky with exchange := .issued result, measuredAt := now } =
      .refused .providerTokenExpired none := by
  simp only [renew, h, if_pos short]

theorem renew_stored {result : ProviderAuthResult} {now : Int}
    (h : authenticate cfg.toSettings room (.issued result) = .issued result)
    (lasts : ¬ cfg.ttl result.expiresAt now ≤ 0) :
    renew cfg room { TokenAnswers.unlucky with exchange := .issued result, measuredAt := now } =
      .issued result := by
  simp only [renew, h, if_neg lasts]
  rfl

/-- An escaping error can be that of leaving the lock. -/
theorem returns_escaped (active : room.isActive = true) (e : PyError) :
    Returns cfg room force (.escaped e) := by
  refine ⟨{ TokenAnswers.unlucky with left := .error e }, ?_⟩
  simp [getToken, active, TokenAnswers.unlucky, leaveTokenLock]

theorem returns_busy (active : room.isActive = true) :
    Returns cfg room force (.refused .providerAuthBusy none) := by
  refine ⟨{ TokenAnswers.unlucky with left := .ok false }, ?_⟩
  simp [getToken, active, TokenAnswers.unlucky, leaveTokenLock]

theorem Ends.returns (active : room.isActive = true) (ends : Ends cfg room force outcome) :
    Returns cfg room force outcome := by
  rcases ends with ⟨answers, hbody⟩ | ⟨e, rfl⟩
  · refine ⟨{ answers with entered := .ok true, left := .ok true }, ?_⟩
    rw [← hbody]
    simp only [getToken, active, leaveTokenLock]
    rfl
  · exact returns_escaped active e

end Answers

section Statements
variable {cfg : TokenSettings} {c : TokenCallId} {v v' : TokenView}

def TokenCall.Explained (cfg : TokenSettings) (call : TokenCall) : Prop :=
  MeetingGateway.Explained cfg call.room.toRoom call.force call.stage

@[simp] theorem compare_force {call : TokenCall} {expiry : Option Int} {now : Int}
    {stage : TokenStage} : (call.compare expiry now stage).force = call.force := by
  cases expiry <;> rfl

theorem explained_compare {call : TokenCall} {expiry : Option Int} {now : Int} {stage : TokenStage}
    (h : MeetingGateway.Explained cfg call.room.toRoom call.force stage) :
    (call.compare expiry now stage).Explained cfg := by
  simpa [TokenCall.Explained] using h

theorem explained_enter (h : v.enter c = some v') (explained : v.call.Explained cfg) :
    v'.call.Explained cfg := by
  simp only [TokenCall.Explained, TokenView.enter] at explained h
  split at h
  · rename_i hstage
    rw [hstage] at explained
    split at h
    · cases h
    · cases h
      by_cases hforce : v.call.force = true
      · simp only [TokenCall.Explained, TokenCall.goto, hforce]
        exact ⟨explained, renews_forced⟩
      · have hforce : v.call.force = false := by simpa using hforce
        simp only [TokenCall.Explained, TokenCall.goto, hforce]
        exact ⟨explained, rfl⟩
  · cases h

theorem explained_read (h : v.read cfg = some v') (explained : v.call.Explained cfg) :
    v'.call.Explained cfg := by
  simp only [TokenCall.Explained, TokenView.read] at explained h
  split at h
  · rename_i hstage
    rw [hstage] at explained
    obtain ⟨active, unforced⟩ := explained
    split at h
    · cases h
      refine ⟨active, ?_⟩
      rw [TokenView.goto, TokenCall.goto, unforced]
      exact renews_missed
    · rename_i entry _
      split at h
      · rename_i item hitem
        cases h
        exact ⟨active, unforced, entry.raw, hitem⟩
      · rename_i e hitem
        cases h
        by_cases discards : e.discards = true
        · simp only [TokenView.goto, TokenCall.Explained, TokenCall.goto, if_pos discards]
          exact ⟨active, unforced, entry.raw, e, hitem, discards⟩
        · simp only [TokenView.goto, TokenCall.Explained, TokenCall.goto, if_neg discards]
          exact ⟨active, Or.inr ⟨e, rfl⟩⟩
  · cases h

theorem explained_comparison (h : v.compare cfg = some v') (explained : v.call.Explained cfg) :
    v'.call.Explained cfg := by
  simp only [TokenCall.Explained, TokenView.compare] at explained h
  split at h
  · rename_i item hstage
    rw [hstage] at explained
    obtain ⟨active, unforced, raw, hitem⟩ := explained
    split at h
    · rename_i fresh
      cases h
      apply explained_compare
      refine ⟨active, ?_⟩
      rw [unforced]
      exact ends_fresh hitem fresh
    · rename_i stale
      cases h
      apply explained_compare
      refine ⟨active, ?_⟩
      rw [unforced]
      exact renews_stale hitem stale
  · cases h

theorem explained_delete (h : v.delete = some v') (explained : v.call.Explained cfg) :
    v'.call.Explained cfg := by
  simp only [TokenCall.Explained, TokenView.delete] at explained h
  split at h
  · rename_i hstage
    rw [hstage] at explained
    obtain ⟨active, unforced, raw, e, hitem, discards⟩ := explained
    cases h
    refine ⟨active, ?_⟩
    rw [TokenCall.goto, unforced]
    exact renews_discarded hitem discards
  · cases h

theorem explained_exchange {outcome : TokenOutcome} (h : v.exchange cfg outcome = some v')
    (explained : v.call.Explained cfg) : v'.call.Explained cfg := by
  simp only [TokenCall.Explained, TokenView.exchange] at explained h
  split at h
  · rename_i hstage
    rw [hstage] at explained
    obtain ⟨active, renews⟩ := explained
    split at h
    · rename_i result hresult
      cases h
      obtain rfl := authenticate_issued hresult
      exact ⟨active, renews, hresult⟩
    · rename_i failed
      cases h
      exact ⟨active, renews.ends (renew_failed rfl failed)⟩
  · cases h

theorem explained_measure (h : v.measure cfg = some v') (explained : v.call.Explained cfg) :
    v'.call.Explained cfg := by
  simp only [TokenCall.Explained, TokenView.measure] at explained h
  split at h
  · rename_i result hstage
    rw [hstage] at explained
    obtain ⟨active, renews, accepted⟩ := explained
    cases h
    apply explained_compare
    by_cases short : cfg.ttl result.expiresAt v.clock ≤ 0
    · rw [if_pos short]
      exact ⟨active, renews.ends (renew_short accepted short)⟩
    · rw [if_neg short]
      exact ⟨active, renews.ends (renew_stored accepted short)⟩
  · cases h

/-- Between the lock and the return the room of a call is active. -/
theorem Explained.active {room : Room} {force : Bool} {stage : TokenStage}
    (h : MeetingGateway.Explained cfg room force stage)
    (running : ∀ outcome, stage ≠ .returned outcome) : room.isActive = true := by
  cases stage with
  | entering => exact h
  | returned outcome => exact absurd rfl (running outcome)
  | _ => exact h.1

theorem explained_leave (h : v.leave c = some v') (explained : v.call.Explained cfg) :
    v'.call.Explained cfg := by
  simp only [TokenCall.Explained, TokenView.leave] at explained h
  split at h
  · rename_i outcome lease hstage hlease
    rw [hstage] at explained
    obtain ⟨active, ends⟩ := explained
    split at h
    · cases h
      exact ends.returns active
    · cases h
      exact returns_busy active
  · rename_i hstage _
    rw [hstage] at explained
    cases h
    exact returns_busy explained.1
  · cases h

theorem explained_fail {e : PyError} (h : v.fail e = some v') (explained : v.call.Explained cfg) :
    v'.call.Explained cfg := by
  simp only [TokenCall.Explained, TokenView.fail] at explained h
  split at h
  · rename_i hstage
    rw [hstage] at explained
    cases h
    exact returns_escaped explained e
  · rename_i hstage
    rw [hstage] at explained
    cases h
    exact returns_escaped explained.1 e
  · cases h
  · rename_i running
    cases h
    exact ⟨explained.active running, Or.inr ⟨e, rfl⟩⟩

theorem explained_operate {op : TokenOp} (h : v.operate cfg c op = some v')
    (explained : v.call.Explained cfg) : v'.call.Explained cfg := by
  cases op with
  | enter => exact explained_enter h explained
  | timeout =>
    simp only [TokenView.operate, TokenView.timeout] at h
    split at h
    · rename_i hstage
      rw [TokenCall.Explained, hstage] at explained
      cases h
      exact returns_busy explained
    · cases h
  | read => exact explained_read h explained
  | compare => exact explained_comparison h explained
  | delete => exact explained_delete h explained
  | exchange outcome => exact explained_exchange h explained
  | measure => exact explained_measure h explained
  | store =>
    simp only [TokenView.operate, TokenView.store] at h
    split at h
    · rename_i hstage
      rw [TokenCall.Explained, hstage] at explained
      cases h
      exact explained
    · cases h
  | stamp =>
    simp only [TokenView.operate, TokenView.stamp] at h
    split at h
    · rename_i hstage
      rw [TokenCall.Explained, hstage] at explained
      cases h
      exact explained
    · cases h
  | leave => exact explained_leave h explained
  | fail e => exact explained_fail h explained
  | die =>
    simp only [TokenView.operate, TokenView.die] at h
    split at h
    · cases h
    · rename_i running
      cases h
      exact returns_escaped (explained.active running) _

end Statements

theorem explained_change {cfg : TokenSettings} {w w' : TokenWorld} {l : TokenLabel}
    (h : TokenWorld.step cfg w l = some w')
    (explained : ∀ c call, w.calls c = some call → call.Explained cfg) :
    ∀ c call, w'.calls c = some call → call.Explained cfg := by
  intro c call' hcall'
  cases l with
  | on d op =>
    obtain ⟨call, v, hcall, hv, rfl⟩ := TokenWorld.step_on h
    rcases TokenWorld.settle_calls_cases hcall' with ⟨rfl, rfl⟩ | ⟨_, same⟩
    · exact explained_operate hv (explained c call hcall)
    · exact explained c call' same
  | _ =>
    rcases call_origin (step_tokenChange h) hcall' with same | ⟨room, force, _, hbegun⟩ |
      ⟨_, _, _, hl, _⟩
    · exact explained c call' same
    · obtain ⟨stage, rfl, ⟨active, rfl⟩ | ⟨inactive, rfl⟩⟩ := TokenWorld.begin_calls hbegun
      · exact active
      · exact ⟨TokenAnswers.unlucky, by simp [getToken, inactive]⟩
    · cases hl

/-- In every run of the cache, what a call returned is what `getToken` returns for its room. -/
theorem returned_getToken {cfg : TokenSettings} {clock : Int} {w : TokenWorld} {c : TokenCallId}
    {call : TokenCall} {outcome : TokenOutcome}
    (reached : Reachable (TokenWorld.step cfg) (TokenWorld.initial clock) w)
    (hcall : w.calls c = some call) (hstage : call.stage = .returned outcome) :
    ∃ answers, getToken cfg call.room.toRoom call.force answers = outcome := by
  have explained : ∀ c call, w.calls c = some call → call.Explained cfg := by
    apply reached.invariant
    · rintro c call ⟨⟩
    · intro a l b _ explained hstep
      exact explained_change hstep explained
  have returned := explained c call hcall
  rw [TokenCall.Explained, hstage] at returned
  exact returned

end MeetingGateway
