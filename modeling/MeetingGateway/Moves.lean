import MeetingGateway.Sessions

/-!
# What an operation can do

The operations of a row, said once: which effects an operation can have, and what holds
whenever it has them. Every invariant is proved from this list and never by
unfolding an operation.
-/

namespace MeetingGateway

/-- The rows an operation outside the requests saves, and the session it then leaves. -/
inductive Upkeep (cfg : Settings) (row : Meeting) (session : Session) :
    Operation → Meeting → Session → Prop
  | sweep {now : Int} : row.status = .provisioning →
      Upkeep cfg row session (.sweep now) (row.toUnknown now) session
  | cancelAgain {now : Int} : row.status = .cancelled →
      Upkeep cfg row session (.cancel now) row session
  | cancel {now : Int} : row.status.cancellable = true →
      Upkeep cfg row session (.cancel now) (row.toCancelled now) session
  | touch {values : RecoveryValues} {now : Int} : row.status ≠ .providerStateUnknown →
      Upkeep cfg row session (.recover values now) { row with updatedAt := now } session
  | recover {values : RecoveryValues} {startUrl : Stored String} {now : Int} :
      row.status = .providerStateUnknown → present values.providerCalendarId = true →
      present values.providerPanelAddress = true →
      encrypt cfg values.recoveryStartMeetingUrl = .ok startUrl →
      Upkeep cfg row session (.recover values now) (row.toRecovered values startUrl now)
        session.recordOperator
  | confirmEnded {now : Int} : row.status.confirmable = true →
      Upkeep cfg row session (.confirmEnded now) (row.toEnded now) session.recordConfirmed

/-- The stage after the verdict on a call, and what the exchange then was. -/
inductive Verdict (result : HttpResult) : Stage → Prop
  | succeeded {data : ProviderMeetingResult} {token : ProviderAuthResult} : data.Complete →
      Verdict result (.succeeded data token)
  | failed {e : ProviderError} : (e.definite = true → result.createsNothing = true) →
      Verdict result (.failed e)
  | again : result.createsNothing = true → Verdict result (.token true)

inductive Move (cfg : Settings) (sc : Scene) : Operation → Effect → Prop
  | leave {op : Operation} {r : RequestId} {q : Request} : sc.session.requests r = some q →
      Move cfg sc op (sc.leave r)
  | resume {r : RequestId} {values : CreateValues} : sc.session.lock = none →
      sc.session.requests r = some ⟨values, .registered⟩ →
      provisionGate sc.row values = .ok .resume →
      Move cfg sc (.begin r) (sc.stay (sc.session.take r ⟨values, .reserving sc.row true⟩))
  | allocate {r : RequestId} {values : CreateValues} {retrying : Bool} {untried : List String} :
      sc.session.lock = none → sc.session.requests r = some ⟨values, .registered⟩ →
      provisionGate sc.row values = .ok (.allocate retrying) →
      Move cfg sc (.begin r)
        (sc.stay (sc.session.take r ⟨values, .allocating retrying untried⟩))
  | skip {r : RequestId} {values : CreateValues} {retrying : Bool} {untried rest : List String}
      {now : Int} : sc.session.requests r = some ⟨values, .allocating retrying untried⟩ →
      Move cfg sc (.attempt r now)
        (sc.stay (sc.session.put r ⟨values, .allocating retrying rest⟩))
  | reserve {r : RequestId} {values : CreateValues} {retrying : Bool} {untried : List String}
      {slot : BoundedRange Int} {room : Room} {now : Int} :
      sc.session.requests r = some ⟨values, .allocating retrying untried⟩ →
      interval cfg values.startAt values.endAt = .ok slot →
      reservable cfg values.startAt values.endAt = true →
      sc.store.room? room.id = some room → sc.roomLock room.id = none →
      (sc.view now).FreeFor room.id slot → (sc.view now).BelowLimit room →
      Move cfg sc (.attempt r now) (.quiet
        (sc.session.put r ⟨values, .reserving
          (sc.row.reserve room.id values.startAt values.endAt slot now) retrying⟩)
        (Function.update sc.roomLock room.id (some sc.row.id)) false)
  | provision {r : RequestId} {values : CreateValues} {reserved : Meeting} {retrying : Bool}
      {now : Int} {config : JsonObject} {type : String} {room : Room} {flight : Flight} :
      sc.session.requests r = some ⟨values, .reserving reserved retrying⟩ →
      creationConfig cfg sc.store reserved retrying = .ok config →
      reserved.room = some room.id → sc.store.room? room.id = some room →
      flight = ⟨room.id, room.username, withTitle config reserved.meetingTitle, retrying,
        .token false⟩ →
      Move cfg sc (.commit r now) (.write (reserved.toProvisioning cfg flight.payload type now)
        ((sc.session.release r ⟨values, .calling flight⟩).recordProvisioned
          ⟨flight.room, flight.account, flight.payload⟩)
        (sc.session.drop r))
  | issued {r : RequestId} {values : CreateValues} {flight : Flight} {again : Bool}
      {token : ProviderAuthResult} {outcome : TokenOutcome} :
      sc.session.requests r = some ⟨values, .calling flight⟩ → flight.stage = .token again →
      Move cfg sc (.token r outcome) (sc.advance sc.session r values flight (.start again token))
  | refused {r : RequestId} {values : CreateValues} {flight : Flight} {again : Bool}
      {e : ProviderError} {outcome : TokenOutcome} :
      sc.session.requests r = some ⟨values, .calling flight⟩ →
      flight.stage = .token again → e.definite = true →
      Move cfg sc (.token r outcome) (sc.advance sc.session r values flight (.failed e))
  | send {r : RequestId} {values : CreateValues} {flight : Flight} {again : Bool}
      {token : ProviderAuthResult} {id : CallId} :
      sc.session.requests r = some ⟨values, .calling flight⟩ →
      flight.stage = .start again token → sc.session.calls id = none →
      Move cfg sc (.send r id) (sc.advance (sc.session.setCall id (sc.newCall flight)) r values
        flight (.waiting again token id))
  | receive {r : RequestId} {values : CreateValues} {flight : Flight} {again : Bool}
      {token : ProviderAuthResult} {id : CallId} {call : Call} {result : HttpResult}
      {stage : Stage} : sc.session.requests r = some ⟨values, .calling flight⟩ →
      flight.stage = .waiting again token id → sc.session.calls id = some call →
      (result.createsNothing = true → call.created = false) → Verdict result stage →
      Move cfg sc (.receive r result) (sc.advance (sc.told id call result) r values flight stage)
  | escape {r : RequestId} {values : CreateValues} {flight : Flight} {again : Bool}
      {token : ProviderAuthResult} {id : CallId} {call : Call} {result : HttpResult} :
      sc.session.requests r = some ⟨values, .calling flight⟩ →
      flight.stage = .waiting again token id → sc.session.calls id = some call →
      (result.createsNothing = true → call.created = false) →
      Move cfg sc (.receive r result) (sc.stay ((sc.told id call result).drop r))
  | failure {r : RequestId} {values : CreateValues} {flight : Flight} {e : ProviderError}
      {now : Int} : sc.session.lock = none →
      sc.session.requests r = some ⟨values, .calling flight⟩ → flight.stage = .failed e →
      Move cfg sc (.finish r now)
        (.write (sc.row.recordFailure e now) (sc.session.drop r) (sc.session.drop r))
  | success {r : RequestId} {values : CreateValues} {flight : Flight}
      {data : ProviderMeetingResult} {token : ProviderAuthResult}
      {startUrl : Option (Stored String)} {now : Int} :
      sc.session.lock = none → sc.session.requests r = some ⟨values, .calling flight⟩ →
      flight.stage = .succeeded data token → sc.row.status.awaitsOutcome = true →
      sc.row.startUrl cfg data = .ok startUrl →
      Move cfg sc (.finish r now)
        (.write (sc.row.toReady data startUrl now) (sc.session.drop r) (sc.session.drop r))
  | remoteCreates {id : CallId} {call : Call} : sc.session.calls id = some call →
      call.created = false → call.rejected = false →
      Move cfg sc (.remoteCreates id)
        (sc.stay (sc.session.setCall id { call with created := true }))
  | upkeep {op : Operation} {row : Meeting} {done : Session} : sc.session.lock = none →
      Upkeep cfg sc.row sc.session op row done → Move cfg sc op (.write row done sc.session)

section Inversion
variable {cfg : Settings} {sc : Scene} {r : RequestId} {effect : Effect}

theorem begin_move (h : sc.begin r = some effect) : Move cfg sc (.begin r) effect := by
  unfold Scene.begin at h
  split at h
  · rename_i values hlock hrequest
    split at h
    · cases h
      exact .leave hrequest
    · rename_i hgate
      cases h
      exact .resume hlock hrequest hgate
    · rename_i retrying hgate
      cases h
      exact .allocate hlock hrequest hgate
    · cases h
      exact .leave hrequest
  · cases h

theorem reservation_never_excluded (publicId : String) (values : CreateValues) (now : Int) :
    sc.reservationExcluded cfg publicId values now = false := by
  unfold Scene.reservationExcluded
  split
  · rename_i row hrow
    have hsaved := saveReserved_of_reservedRow hrow
    unfold saveReserved at hsaved
    split at hsaved
    · rename_i hsave
      rw [hsave]
    · split at hsaved
      · cases hsaved
      · cases hsaved
    · rename_i hsave
      rw [hsave]
  · rfl

theorem activeRoom?_room? {store : Store} {publicId : String} {room : Room}
    (h : store.activeRoom? publicId = some room) : store.room? room.id = some room :=
  KeyedTable.get?_eq_some.mpr ⟨(activeRoom?_mem h).1, rfl⟩

theorem attempt_move {now : Int} (stored : sc.store.meeting? sc.row.id = some sc.row)
    (h : sc.attempt cfg r now = some effect) : Move cfg sc (.attempt r now) effect := by
  unfold Scene.attempt at h
  split at h
  · rename_i values retrying untried hrequest
    split at h
    · cases h
      exact .leave hrequest
    · rename_i publicId rest
      split at h
      · cases h
      · rename_i hfree
        split at h
        · rename_i reserved hreserved
          cases h
          obtain ⟨hrow, hreservable, _⟩ := reserveSpecificRoom_ok hreserved
          obtain ⟨slot, locked, room, hslot, hlocked, _, hroom, _, hcap, rfl⟩ :=
            reservedRow_ok hrow
          obtain ⟨_, free, below⟩ := capacityError_eq_none.mp hcap
          have hview : (sc.view now).meeting? (sc.row.toDraft now).id =
              some (sc.row.toDraft now) := Store.meeting?_putMeeting_self stored
          have hid : (sc.row.toDraft now).id = sc.row.id := rfl
          rw [← hid, hview] at hlocked
          cases hlocked
          have hactive : sc.store.activeRoom? publicId = some room := hroom
          have hunlocked : sc.roomLock room.id = none := by
            simpa [Scene.roomFree, hactive] using hfree
          exact .reserve hrequest hslot hreservable (activeRoom?_room? hactive) hunlocked free
            below
        · rename_i e _
          rw [reservation_never_excluded] at h
          cases h
          by_cases hnext : tryNextRoom e = true
          · rw [if_pos hnext]
            exact .skip hrequest
          · rw [if_neg hnext]
            exact .leave hrequest
  · cases h

theorem commit_move {now : Int} (h : sc.commit cfg r now = some effect) :
    Move cfg sc (.commit r now) effect := by
  unfold Scene.commit at h
  split at h
  · rename_i values reserved retrying hrequest
    split at h
    · rename_i row payload room hprovisioning hroom
      cases h
      obtain ⟨config, type, hconfig, rfl, rfl⟩ := provisioning_ok hprovisioning
      obtain ⟨pk, hpk, hstored⟩ := Option.bind_eq_some_iff.mp hroom
      have hid : room.id = pk := KeyedTable.get?_key hstored
      subst hid
      exact .provision hrequest hconfig hpk hstored rfl
    · cases h
      exact .leave hrequest
  · cases h

theorem TokenOutcome.result_definite {outcome : TokenOutcome} {e : ProviderError}
    (h : outcome.result = .error (.provider e)) : e.definite = true := by
  cases outcome with
  | issued token => cases h
  | refused code statusCode =>
    cases h
    rfl
  | escaped err => cases h

theorem token_move {outcome : TokenOutcome} (h : sc.token r outcome = some effect) :
    Move cfg sc (.token r outcome) effect := by
  unfold Scene.token at h
  split at h
  · rename_i values flight hrequest
    split at h
    · rename_i again hstage
      split at h
      · cases h
        exact .issued hrequest hstage
      · rename_i e he
        cases h
        exact .refused hrequest hstage (TokenOutcome.result_definite he)
      · cases h
        exact .leave hrequest
    · cases h
  · cases h

theorem send_move {id : CallId} (h : sc.send r id = some effect) :
    Move cfg sc (.send r id) effect := by
  unfold Scene.send at h
  split at h
  · rename_i values flight hrequest hfresh
    split at h
    · rename_i again token hstage
      cases h
      exact .send hrequest hstage hfresh
    · cases h
  · cases h

theorem verdict_some {again : Bool} {token : ProviderAuthResult} {result : HttpResult}
    {stage : Stage} (h : Scene.verdict cfg again token result = some stage) :
    Verdict result stage := by
  unfold Scene.verdict at h
  split at h
  · rename_i data hdata
    cases h
    exact .succeeded (startMeeting_ok hdata)
  · rename_i e he
    split at h
    · rename_i hunauthorized
      cases h
      have hstatus : e.statusCode = some 401 := by
        simpa using (Bool.and_eq_true_iff.mp hunauthorized).2
      exact .again (startMeeting_definite he (startMeeting_unauthorized he hstatus))
    · cases h
      exact .failed fun definite => startMeeting_definite he definite
  · cases h

theorem receive_move {result : HttpResult} (h : sc.receive cfg r result = some effect) :
    Move cfg sc (.receive r result) effect := by
  unfold Scene.receive at h
  split at h
  · rename_i values flight hrequest
    split at h
    · rename_i again token id hstage
      split at h
      · cases h
      · rename_i call hcall
        split at h
        · cases h
        · rename_i hpossible
          have hnone : result.createsNothing = true → call.created = false := by
            intro hnothing
            simpa [hnothing] using hpossible
          split at h
          · rename_i stage hverdict
            cases h
            exact .receive hrequest hstage hcall hnone (verdict_some hverdict)
          · cases h
            exact .escape hrequest hstage hcall hnone
    · cases h
  · cases h

theorem finish_move {now : Int} (h : sc.finish cfg r now = some effect) :
    Move cfg sc (.finish r now) effect := by
  unfold Scene.finish at h
  split at h
  · rename_i values flight hlock hrequest
    split at h
    · rename_i e hstage
      cases h
      exact .failure hlock hrequest hstage
    · rename_i data token hstage
      split at h
      · rename_i row hrow
        cases h
        obtain ⟨hawaits, startUrl, hurl, rfl⟩ := recordSuccess_ok hrow
        exact .success hlock hrequest hstage hawaits hurl
      · cases h
        exact .leave hrequest
    · cases h
  · cases h

theorem die_move (h : sc.die r = some effect) : Move cfg sc (.die r) effect := by
  unfold Scene.die at h
  split at h
  · rename_i hrequest
    cases h
    exact .leave hrequest
  · cases h

theorem remoteCreates_move {id : CallId} (h : sc.remoteCreates id = some effect) :
    Move cfg sc (.remoteCreates id) effect := by
  unfold Scene.remoteCreates at h
  split at h
  · rename_i call hcall
    split at h
    · cases h
    · rename_i hpossible
      cases h
      obtain ⟨hcreated, hrejected⟩ : call.created = false ∧ call.rejected = false := by
        simpa using hpossible
      exact .remoteCreates hcall hcreated hrejected
  · cases h

theorem save_move {op : Operation} {row : Option Meeting} {done : Session}
    (h : sc.save row done = some effect)
    (upkeep : ∀ m, row = some m → Upkeep cfg sc.row sc.session op m done) :
    Move cfg sc op effect := by
  unfold Scene.save at h
  split at h
  · rename_i m hlock
    cases h
    exact .upkeep hlock (upkeep m rfl)
  · cases h

theorem recoverRow_move {values : RecoveryValues} {now : Int}
    (h : sc.recoverRow cfg values now = some effect) :
    Move cfg sc (.recover values now) effect := by
  unfold Scene.recoverRow at h
  split at h
  · rename_i row hrow
    refine save_move h ?_
    rintro m hm
    cases hm
    rcases recover_ok hrow with ⟨hstatus, rfl⟩ |
      ⟨hstatus, hcalendar, hpanel, startUrl, hurl, rfl⟩
    · rw [if_neg hstatus]
      exact .touch hstatus
    · rw [if_pos hstatus]
      exact .recover hstatus hcalendar hpanel hurl
  · cases h

/-- Every operation is one of the moves. -/
theorem operate_move {op : Operation} (stored : sc.store.meeting? sc.row.id = some sc.row)
    (h : sc.operate cfg op = some effect) : Move cfg sc op effect := by
  cases op with
  | begin r => exact begin_move h
  | attempt r now => exact attempt_move stored h
  | commit r now => exact commit_move h
  | token r outcome => exact token_move h
  | send r call => exact send_move h
  | receive r result => exact receive_move h
  | finish r now => exact finish_move h
  | die r => exact die_move h
  | remoteCreates call => exact remoteCreates_move h
  | sweep now =>
    refine save_move h ?_
    intro m hm
    obtain ⟨hstatus, rfl⟩ := flagStaleProvisioning_some hm
    exact .sweep hstatus
  | cancel now =>
    refine save_move h ?_
    intro m hm
    cases hc : sc.row.cancel now with
    | error e =>
      rw [hc] at hm
      cases hm
    | ok row =>
      rw [hc] at hm
      cases hm
      rcases cancel_ok hc with ⟨hstatus, rfl⟩ | ⟨hstatus, rfl⟩
      · exact .cancelAgain hstatus
      · exact .cancel hstatus
  | recover values now => exact recoverRow_move h
  | confirmEnded now =>
    refine save_move h ?_
    intro m hm
    obtain ⟨hstatus, rfl⟩ := confirmProviderEnded_some hm
    exact .confirmEnded hstatus

end Inversion
end MeetingGateway
