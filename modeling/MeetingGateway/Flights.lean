import MeetingGateway.Invariants

/-!
# How the provider calls of a request go on

A request that calls the provider has a flight. A step of the gateway leaves a flight as it
is, starts one with a PROVISIONING commit that was saved, or takes one stage of it to the
next. The budget of a stage is the number of start-meeting calls that can still follow,
and the answers a flight gets are those of `get_token` and of `start_meeting`.
-/

namespace MeetingGateway

/-- From one stage of a request's calls to the next. -/
inductive StageStep (cfg : Settings) (r : RequestId) : Operation → Stage → Stage → Prop
  | issued {again : Bool} {token : ProviderAuthResult} {outcome : TokenOutcome} :
      outcome.result = .ok token →
      StageStep cfg r (.token r outcome) (.token again) (.start again token)
  | refused {again : Bool} {e : ProviderError} {outcome : TokenOutcome} :
      outcome.result = .error (.provider e) →
      StageStep cfg r (.token r outcome) (.token again) (.failed e)
  | sent {again : Bool} {token : ProviderAuthResult} {id : CallId} :
      StageStep cfg r (.send r id) (.start again token) (.waiting again token id)
  | received {again : Bool} {token : ProviderAuthResult} {id : CallId} {result : HttpResult}
      {stage : Stage} : Scene.verdict cfg again token result = some stage →
      StageStep cfg r (.receive r result) (.waiting again token id) stage

/-- Where a request's flight after a step comes from. -/
inductive FlightChange (cfg : Settings) (w : World) (l : Label) (pk : MeetingId) (r : RequestId)
    (values : CreateValues) (flight : Flight) : Prop
  | kept : (w.sessions pk).requests r = some ⟨values, .calling flight⟩ →
      FlightChange cfg w l pk r values flight
  | started {now : Int} {row reserved committed : Meeting} {done failed : Session} {store : Store} :
      l = .on pk (.commit r now) → w.store.meeting? pk = some row →
      (w.sessions pk).requests r = some ⟨values, .reserving reserved flight.retrying⟩ →
      flight.stage = .token false →
      (w.scene row).operate cfg (.commit r now) = some (.write committed done failed) →
      w.store.save committed = .ok store → FlightChange cfg w l pk r values flight
  | advanced {op : Operation} {stage : Stage} : l = .on pk op →
      (w.sessions pk).requests r = some ⟨values, .calling { flight with stage := stage }⟩ →
      StageStep cfg r op stage flight.stage → FlightChange cfg w l pk r values flight

section Sessions
variable {s : Session} {r r' : RequestId} {q : Request} {values : CreateValues} {flight : Flight}

theorem flight_put (h : (s.put r' q).requests r = some ⟨values, .calling flight⟩) :
    s.requests r = some ⟨values, .calling flight⟩ ∨
      (r = r' ∧ q = ⟨values, .calling flight⟩) := by
  rw [requests_put] at h
  by_cases he : r = r'
  · rw [if_pos he] at h
    exact Or.inr ⟨he, Option.some.inj h⟩
  · rw [if_neg he] at h
    exact Or.inl h

/-- A put that is no flight leaves the flights as they are. -/
theorem flight_put_grounded (grounded : ∀ f, q.phase ≠ .calling f)
    (h : (s.put r' q).requests r = some ⟨values, .calling flight⟩) :
    s.requests r = some ⟨values, .calling flight⟩ := by
  rcases flight_put h with old | ⟨_, rfl⟩
  · exact old
  · exact absurd rfl (grounded flight)

theorem flight_drop (h : (s.drop r').requests r = some ⟨values, .calling flight⟩) :
    s.requests r = some ⟨values, .calling flight⟩ :=
  (requests_drop_some h).2

theorem told_requests (sc : Scene) (id : CallId) (call : Call) (result : HttpResult) :
    (sc.told id call result).requests = sc.session.requests := by
  unfold Scene.told
  split
  · rfl
  · rfl

end Sessions

section Operations
variable {cfg : Settings} {sc : Scene} {op : Operation} {r : RequestId} {values : CreateValues}
variable {flight : Flight} {session : Session} {roomLock : RoomId → Option MeetingId}
variable {excluded : Bool}

/-- The request's flight is as before, or one stage further. -/
def Onward (cfg : Settings) (sc : Scene) (op : Operation) (r : RequestId) (values : CreateValues)
    (flight : Flight) : Prop :=
  sc.session.requests r = some ⟨values, .calling flight⟩ ∨
    ∃ stage, sc.session.requests r = some ⟨values, .calling { flight with stage := stage }⟩ ∧
      StageStep cfg r op stage flight.stage

theorem onward_advance {s : Session} {r' : RequestId} {values' : CreateValues} {before : Flight}
    {stage : Stage} (same : s.requests = sc.session.requests)
    (calling : sc.session.requests r' = some ⟨values', .calling before⟩)
    (step : StageStep cfg r' op before.stage stage)
    (h : (s.put r' ⟨values', .calling { before with stage := stage }⟩).requests r =
      some ⟨values, .calling flight⟩) : Onward cfg sc op r values flight := by
  rcases flight_put h with old | ⟨rfl, hq⟩
  · rw [same] at old
    exact Or.inl old
  · cases hq
    exact Or.inr ⟨before.stage, calling, step⟩

theorem onward_token {r' : RequestId} {outcome : TokenOutcome}
    (h : sc.token r' outcome = some (.quiet session roomLock excluded))
    (hf : session.requests r = some ⟨values, .calling flight⟩) :
    Onward cfg sc (.token r' outcome) r values flight := by
  unfold Scene.token at h
  split at h
  · rename_i values' before hrequest
    split at h
    · rename_i again hstage
      split at h
      · rename_i token hresult
        cases h
        refine onward_advance rfl hrequest ?_ hf
        rw [hstage]
        exact .issued hresult
      · rename_i e hresult
        cases h
        refine onward_advance rfl hrequest ?_ hf
        rw [hstage]
        exact .refused hresult
      · cases h
        exact Or.inl (flight_drop hf)
    · cases h
  · cases h

theorem onward_send {r' : RequestId} {id : CallId}
    (h : sc.send r' id = some (.quiet session roomLock excluded))
    (hf : session.requests r = some ⟨values, .calling flight⟩) :
    Onward cfg sc (.send r' id) r values flight := by
  unfold Scene.send at h
  split at h
  · rename_i values' before hrequest _
    split at h
    · rename_i again token hstage
      cases h
      refine onward_advance rfl hrequest ?_ hf
      rw [hstage]
      exact .sent
    · cases h
  · cases h

theorem onward_receive {r' : RequestId} {result : HttpResult}
    (h : sc.receive cfg r' result = some (.quiet session roomLock excluded))
    (hf : session.requests r = some ⟨values, .calling flight⟩) :
    Onward cfg sc (.receive r' result) r values flight := by
  unfold Scene.receive at h
  split at h
  · rename_i values' before hrequest
    split at h
    · rename_i again token id hstage
      split at h
      · cases h
      · rename_i call hcall
        split at h
        · cases h
        · split at h
          · rename_i stage hverdict
            cases h
            refine onward_advance (told_requests sc id call result) hrequest ?_ hf
            rw [hstage]
            exact .received hverdict
          · cases h
            have old := flight_drop hf
            rw [told_requests] at old
            exact Or.inl old
    · cases h
  · cases h

/-- The operation is part of the request's calls to the provider. -/
def Operation.calls : Operation → Bool
  | .token _ _ | .send _ _ | .receive _ _ => true
  | _ => false

theorem Move.quiet_grounded (apart : op.calls = false)
    (move : Move cfg sc op (.quiet session roomLock excluded))
    (hf : session.requests r = some ⟨values, .calling flight⟩) :
    sc.session.requests r = some ⟨values, .calling flight⟩ := by
  cases move with
  | leave _ => exact flight_drop hf
  | resume _ _ _ => exact flight_put_grounded (fun _ hc => by cases hc) hf
  | allocate _ _ _ => exact flight_put_grounded (fun _ hc => by cases hc) hf
  | skip _ => exact flight_put_grounded (fun _ hc => by cases hc) hf
  | reserve _ _ _ _ _ _ _ => exact flight_put_grounded (fun _ hc => by cases hc) hf
  | issued _ _ => cases apart
  | refused _ _ _ => cases apart
  | send _ _ _ => cases apart
  | receive _ _ _ _ _ => cases apart
  | escape _ _ _ _ => cases apart
  | remoteCreates _ _ _ => exact hf

/-- An operation that saves nothing starts no flight. -/
theorem onward_quiet (stored : sc.store.meeting? sc.row.id = some sc.row)
    (h : sc.operate cfg op = some (.quiet session roomLock excluded))
    (hf : session.requests r = some ⟨values, .calling flight⟩) :
    Onward cfg sc op r values flight := by
  cases op with
  | token r' outcome => exact onward_token h hf
  | send r' id => exact onward_send h hf
  | receive r' result => exact onward_receive h hf
  | _ => exact Or.inl ((operate_move stored h).quiet_grounded rfl hf)

/-- Only a PROVISIONING commit that is saved starts a flight. -/
theorem started_write (stored : sc.store.meeting? sc.row.id = some sc.row) {row : Meeting}
    {done failed : Session} (h : sc.operate cfg op = some (.write row done failed))
    (hf : done.requests r = some ⟨values, .calling flight⟩) :
    sc.session.requests r = some ⟨values, .calling flight⟩ ∨
      ∃ now reserved, op = .commit r now ∧ flight.stage = .token false ∧
        sc.session.requests r = some ⟨values, .reserving reserved flight.retrying⟩ := by
  cases operate_move stored h with
  | @provision _ _ reserved _ now _ _ _ before hrequest _ _ _ hflight =>
    rcases flight_put hf with old | ⟨rfl, hq⟩
    · exact Or.inl old
    · cases hq
      subst hflight
      exact Or.inr ⟨now, reserved, rfl, rfl, hrequest⟩
  | failure _ _ _ => exact Or.inl (flight_drop hf)
  | success _ _ _ _ _ => exact Or.inl (flight_drop hf)
  | upkeep _ hup =>
    left
    cases hup <;> exact hf

theorem kept_failed (stored : sc.store.meeting? sc.row.id = some sc.row) {row : Meeting}
    {done failed : Session} (h : sc.operate cfg op = some (.write row done failed))
    (hf : failed.requests r = some ⟨values, .calling flight⟩) :
    sc.session.requests r = some ⟨values, .calling flight⟩ := by
  cases operate_move stored h with
  | provision _ _ _ _ _ => exact flight_drop hf
  | failure _ _ _ => exact flight_drop hf
  | success _ _ _ _ _ => exact flight_drop hf
  | upkeep _ _ => exact hf

end Operations

section Worlds
variable {cfg : Settings} {w w' : World} {pk : MeetingId} {op : Operation}

/-- A step on a row, with the effect it settles. -/
theorem step_on (h : World.step cfg w (.on pk op) = some w') : ∃ row effect,
    w.store.meeting? pk = some row ∧ row.id = pk ∧
      (w.scene row).operate cfg op = some effect ∧ w' = w.settle pk effect := by
  simp only [World.step] at h
  cases hrow : w.store.meeting? pk with
  | none =>
    rw [hrow] at h
    cases h
  | some row =>
    rw [hrow] at h
    obtain ⟨effect, heffect, rfl⟩ := Option.map_eq_some_iff.mp h
    exact ⟨row, effect, rfl, Store.meeting?_id hrow, heffect, rfl⟩

/-- Where the flight of a request after a step comes from. -/
theorem step_flight {l : Label} (h : World.step cfg w l = some w') {r : RequestId}
    {values : CreateValues} {flight : Flight}
    (hf : (w'.sessions pk).requests r = some ⟨values, .calling flight⟩) :
    FlightChange cfg w l pk r values flight := by
  have updated : ∀ {pk' : MeetingId} {t : Session},
      (Function.update w.sessions pk' t pk).requests r = some ⟨values, .calling flight⟩ →
      (pk = pk' ∧ t.requests r = some ⟨values, .calling flight⟩) ∨
        (w.sessions pk).requests r = some ⟨values, .calling flight⟩ := by
    intro pk' t ht
    by_cases he : pk = pk'
    · subst he
      rw [Function.update_self] at ht
      exact Or.inl ⟨rfl, ht⟩
    · rw [Function.update_of_ne he] at ht
      exact Or.inr ht
  cases step_change h with
  | refused _ => exact .kept hf
  | created _ _ =>
    rcases updated hf with ⟨_, ht⟩ | old
    · cases flight_put_grounded (fun _ hc => by cases hc) ht
    · exact .kept old
  | joined _ _ _ _ =>
    rcases updated hf with ⟨rfl, ht⟩ | old
    · exact .kept (flight_put_grounded (fun _ hc => by cases hc) ht)
    · exact .kept old
  | @operated op row _ stored _ =>
    obtain ⟨found, effect, hrow, _, heffect, hw'⟩ := step_on h
    have same : found = row := Option.some.inj (hrow.symm.trans stored)
    rw [same] at heffect
    rw [hw'] at hf
    have settled := settle_settled w row.id effect
    generalize w.settle row.id effect = after at settled hf
    cases settled with
    | quiet =>
      rcases updated hf with ⟨rfl, ht⟩ | old
      · rcases onward_quiet stored heffect ht with old | ⟨stage, before, step⟩
        · exact .kept old
        · exact .advanced rfl before step
      · exact .kept old
    | saved hc he =>
      rcases updated hf with ⟨rfl, ht⟩ | old
      · rcases started_write stored heffect ht with old | ⟨now, reserved, hop, hstage, before⟩
        · exact .kept old
        · rw [hop] at heffect ⊢
          exact .started rfl stored before hstage heffect (Store.save_of_not_excluded hc he)
      · exact .kept old
    | unsaved _ =>
      rcases updated hf with ⟨rfl, ht⟩ | old
      · exact .kept (kept_failed stored heffect ht)
      · exact .kept old
  | roomEdited _ => exact .kept hf
  | systemPresetEdited => exact .kept hf
  | clientPresetEdited => exact .kept hf

end Worlds
end MeetingGateway
