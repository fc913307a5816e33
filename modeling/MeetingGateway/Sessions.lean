import MeetingGateway.Operations
import Mathlib.Logic.Function.Basic

/-!
# Work in progress on one meeting

A create request works on one row: its first transaction holds the row's lock from the
gate to the PROVISIONING commit, then the provider is called without a lock, and a final
transaction records the outcome. The session of a row is that work, together with the
calls it made to the provider and the history needed to state what must hold. Every
step of a request, of the sweep or of an operator is an operation on the row; it
either changes the session only or saves the row.
-/

namespace MeetingGateway

abbrev RequestId := Nat
abbrev CallId := Nat

/-- Where the provider calls stand; `again` is set after the first 401. -/
inductive Stage where
  | token (again : Bool)
  | start (again : Bool) (token : ProviderAuthResult)
  | waiting (again : Bool) (token : ProviderAuthResult) (call : CallId)
  | failed (e : ProviderError)
  | succeeded (data : ProviderMeetingResult) (token : ProviderAuthResult)

/-- What `provision` keeps between its PROVISIONING commit and its final transaction. -/
structure Flight where
  room : RoomId
  account : String
  payload : JsonObject
  retrying : Bool
  stage : Stage

/-- `reserving` holds the uncommitted row; `allocating` the rooms not tried yet. -/
inductive Phase where
  | registered
  | allocating (retrying : Bool) (untried : List String)
  | reserving (reserved : Meeting) (retrying : Bool)
  | calling (flight : Flight)

structure Request where
  values : CreateValues
  phase : Phase

/-- A start-meeting call: what it sends for whom, and whether the provider created a
meeting for it or the exchange showed that none will be. -/
structure Call where
  client : ClientId
  classId : String
  room : RoomId
  account : String
  payload : JsonObject
  rejected : Bool
  created : Bool

/-- The room, its account and the payload of a PROVISIONING commit. -/
structure Provisioned where
  room : RoomId
  account : String
  payload : JsonObject

/-- What happened to a row: the request that created it, its first PROVISIONING commit,
whether an operator confirmed its end, and whether one set its status since the last
PROVISIONING commit. -/
structure History where
  origin : Option (ClientId × CreateValues)
  provisioned : Option Provisioned
  confirmed : Bool
  operatorSet : Bool

structure Session where
  lock : Option RequestId
  requests : RequestId → Option Request
  calls : CallId → Option Call
  history : History

namespace Session

def idle : Session :=
  ⟨none, fun _ => none, fun _ => none, ⟨none, none, false, false⟩⟩

/-- The session of a row that a request has just created. -/
def opened (r : RequestId) (client : ClientId) (values : CreateValues) : Session :=
  { idle with
    requests := Function.update idle.requests r (some ⟨values, .registered⟩)
    history := ⟨some (client, values), none, false, false⟩ }

def put (s : Session) (r : RequestId) (q : Request) : Session :=
  { s with requests := Function.update s.requests r (some q) }

/-- The request ends; a transaction it has open is over. -/
def drop (s : Session) (r : RequestId) : Session :=
  { s with
    requests := Function.update s.requests r none
    lock := if s.lock = some r then none else s.lock }

def take (s : Session) (r : RequestId) (q : Request) : Session :=
  { s.put r q with lock := some r }

def release (s : Session) (r : RequestId) (q : Request) : Session :=
  { s.put r q with lock := none }

def setCall (s : Session) (id : CallId) (call : Call) : Session :=
  { s with calls := Function.update s.calls id (some call) }

def recordProvisioned (s : Session) (p : Provisioned) : Session :=
  { s with history := { s.history with
    provisioned := s.history.provisioned.or (some p)
    operatorSet := false } }

def recordConfirmed (s : Session) : Session :=
  { s with history := { s.history with confirmed := true, operatorSet := true } }

def recordOperator (s : Session) : Session :=
  { s with history := { s.history with operatorSet := true } }

end Session

/-- What an operation sees: the committed store, the room locks and the row's own state. -/
structure Scene where
  store : Store
  roomLock : RoomId → Option MeetingId
  row : Meeting
  session : Session

/-- What an operation does. `excluded` marks a reservation that the exclusion constraint
refused. A row that the database refuses to save is rolled back and leaves the session
`failed`; after a save the transaction holds no lock. -/
inductive Effect where
  | quiet (session : Session) (roomLock : RoomId → Option MeetingId) (excluded : Bool)
  | write (row : Meeting) (done failed : Session)

/-- The room locks once the transaction on the meeting is over. -/
def releaseRooms (roomLock : RoomId → Option MeetingId) (pk : MeetingId) :
    RoomId → Option MeetingId :=
  fun room => if roomLock room = some pk then none else roomLock room

def Scene.leave (sc : Scene) (r : RequestId) : Effect :=
  .quiet (sc.session.drop r)
    (if sc.session.lock = some r then releaseRooms sc.roomLock sc.row.id else sc.roomLock) false

/-- A step that changes the session only. -/
def Scene.stay (sc : Scene) (session : Session) : Effect := .quiet session sc.roomLock false

/-- The request goes on to the next stage of its provider calls. -/
def Scene.advance (sc : Scene) (session : Session) (r : RequestId) (values : CreateValues)
    (flight : Flight) (stage : Stage) : Effect :=
  sc.stay (session.put r ⟨values, .calling { flight with stage := stage }⟩)

/-- A run of `flag_stale_provisioning` is a `sweep` of each row it takes, and `recover` is a whole
change request: no step of another party comes between its load and its save. -/
inductive Operation where
  | begin (r : RequestId)
  | attempt (r : RequestId) (now : Int)
  | commit (r : RequestId) (now : Int)
  | token (r : RequestId) (outcome : TokenOutcome)
  | send (r : RequestId) (call : CallId)
  | receive (r : RequestId) (result : HttpResult)
  | finish (r : RequestId) (now : Int)
  | die (r : RequestId)
  | remoteCreates (call : CallId)
  | sweep (now : Int)
  | cancel (now : Int)
  | recover (values : RecoveryValues) (now : Int)
  | confirmEnded (now : Int)

namespace Scene

/-- The gate under the row's lock. -/
def begin (sc : Scene) (r : RequestId) : Option Effect :=
  match sc.session.lock, sc.session.requests r with
  | none, some ⟨values, .registered⟩ =>
    match provisionGate sc.row values with
    | .ok .replay => some (sc.leave r)
    | .ok .resume => some (sc.stay (sc.session.take r ⟨values, .reserving sc.row true⟩))
    | .ok (.allocate retrying) => some (sc.stay (sc.session.take r
        ⟨values, .allocating retrying (sc.store.activeRooms.map Room.publicId)⟩))
    | .error _ => some (sc.leave r)
  | _, _ => none

/-- The lock of an active room is free. -/
def roomFree (sc : Scene) (publicId : String) : Bool :=
  match sc.store.activeRoom? publicId with
  | some room => (sc.roomLock room.id).isNone
  | none => true

/-- What the open transaction sees: its own row is a draft. -/
def view (sc : Scene) (now : Int) : Store := sc.store.putMeeting (sc.row.toDraft now)

def reservation (cfg : Settings) (sc : Scene) (publicId : String) (values : CreateValues)
    (now : Int) : Except Raised Meeting :=
  reserveSpecificRoom cfg (sc.view now) sc.row.id publicId values.startAt values.endAt now

/-- The reservation passed its checks and the exclusion constraint refused it. -/
def reservationExcluded (cfg : Settings) (sc : Scene) (publicId : String)
    (values : CreateValues) (now : Int) : Bool :=
  match reservedRow cfg (sc.view now) sc.row.id publicId values.startAt values.endAt now with
  | .ok row =>
    match (sc.view now).save row with
    | .error .exclusion => true
    | _ => false
  | .error _ => false

def holdRoom (sc : Scene) (reserved : Meeting) : RoomId → Option MeetingId :=
  match reserved.room with
  | some room => Function.update sc.roomLock room (some sc.row.id)
  | none => sc.roomLock

def excludedIf (excluded : Bool) : Effect → Effect
  | .quiet session roomLock _ => .quiet session roomLock excluded
  | .write row done failed => .write row done failed

/-- One turn of the allocator's loop; it waits for the room's lock. -/
def attempt (cfg : Settings) (sc : Scene) (r : RequestId) (now : Int) : Option Effect :=
  match sc.session.requests r with
  | some ⟨values, .allocating retrying untried⟩ =>
    match untried with
    | [] => some (sc.leave r)
    | publicId :: rest =>
      if !sc.roomFree publicId then none
      else
        match sc.reservation cfg publicId values now with
        | .ok reserved => some (.quiet
            (sc.session.put r ⟨values, .reserving reserved retrying⟩) (sc.holdRoom reserved) false)
        | .error e =>
          let next := if tryNextRoom e then
            sc.stay (sc.session.put r ⟨values, .allocating retrying rest⟩) else sc.leave r
          some (excludedIf (sc.reservationExcluded cfg publicId values now) next)
  | _ => none

/-- The payload snapshot and the PROVISIONING commit. -/
def commit (cfg : Settings) (sc : Scene) (r : RequestId) (now : Int) : Option Effect :=
  match sc.session.requests r with
  | some ⟨values, .reserving reserved retrying⟩ =>
    match provisioning cfg sc.store reserved retrying now,
        reserved.room.bind sc.store.room? with
    | .ok (row, payload), some room =>
      let flight : Flight := ⟨room.id, room.username, payload, retrying, .token false⟩
      some (.write row
        ((sc.session.release r ⟨values, .calling flight⟩).recordProvisioned
          ⟨room.id, room.username, payload⟩)
        (sc.session.drop r))
    | _, _ => some (sc.leave r)
  | _ => none

/-- `get_token`; after a 401 it follows `invalidate` and is forced. -/
def token (sc : Scene) (r : RequestId) (outcome : TokenOutcome) : Option Effect :=
  match sc.session.requests r with
  | some ⟨values, .calling flight⟩ =>
    match flight.stage with
    | .token again =>
      match outcome.result with
      | .ok token => some (sc.advance sc.session r values flight (.start again token))
      | .error (.provider e) => some (sc.advance sc.session r values flight (.failed e))
      | .error _ => some (sc.leave r)
    | _ => none
  | _ => none

def newCall (sc : Scene) (flight : Flight) : Call :=
  ⟨sc.row.integrationClient, sc.row.externalClassId, flight.room, flight.account,
    flight.payload, false, false⟩

/-- `start_meeting` leaves for the provider under a new call id. -/
def send (sc : Scene) (r : RequestId) (id : CallId) : Option Effect :=
  match sc.session.requests r, sc.session.calls id with
  | some ⟨values, .calling flight⟩, none =>
    match flight.stage with
    | .start again token => some (sc.advance (sc.session.setCall id (sc.newCall flight)) r values
        flight (.waiting again token id))
    | _ => none
  | _, _ => none

/-- The stage after the adapter's verdict; `none` if an exception escapes. -/
def verdict (cfg : Settings) (again : Bool) (token : ProviderAuthResult) (result : HttpResult) :
    Option Stage :=
  match startMeeting cfg result with
  | .ok data => some (.succeeded data token)
  | .error (.provider e) =>
    if !again && decide (e.statusCode = some 401) then some (.token true) else some (.failed e)
  | .error _ => none

/-- The session once the exchange of a call is over. -/
def told (sc : Scene) (id : CallId) (call : Call) (result : HttpResult) : Session :=
  if result.createsNothing then sc.session.setCall id { call with rejected := true }
  else sc.session

/-- A result that says nothing was created is possible only if nothing was. -/
def receive (cfg : Settings) (sc : Scene) (r : RequestId) (result : HttpResult) :
    Option Effect :=
  match sc.session.requests r with
  | some ⟨values, .calling flight⟩ =>
    match flight.stage with
    | .waiting again token id =>
      match sc.session.calls id with
      | none => none
      | some call =>
        if result.createsNothing && call.created then none
        else
          match verdict cfg again token result with
          | some stage => some (sc.advance (sc.told id call result) r values flight stage)
          | none => some (sc.stay ((sc.told id call result).drop r))
    | _ => none
  | _ => none

/-- The error or success transaction, once the row's lock is free. -/
def finish (cfg : Settings) (sc : Scene) (r : RequestId) (now : Int) : Option Effect :=
  match sc.session.lock, sc.session.requests r with
  | none, some ⟨_, .calling flight⟩ =>
    match flight.stage with
    | .failed e =>
      some (.write (sc.row.recordFailure e now) (sc.session.drop r) (sc.session.drop r))
    | .succeeded data _ =>
      match sc.row.recordSuccess cfg data now with
      | .ok row => some (.write row (sc.session.drop r) (sc.session.drop r))
      | .error _ => some (sc.leave r)
    | _ => none
  | _, _ => none

def die (sc : Scene) (r : RequestId) : Option Effect :=
  match sc.session.requests r with
  | some _ => some (sc.leave r)
  | none => none

/-- The provider creates the meeting a call asked for, once and never after a rejection. -/
def remoteCreates (sc : Scene) (id : CallId) : Option Effect :=
  match sc.session.calls id with
  | some call =>
    if call.created || call.rejected then none
    else some (sc.stay (sc.session.setCall id { call with created := true }))
  | none => none

/-- A save by something other than a request: it waits for the row's lock (the sweep
skips a locked row). -/
def save (sc : Scene) (row : Option Meeting) (done : Session) : Option Effect :=
  match sc.session.lock, row with
  | none, some row => some (.write row done sc.session)
  | _, _ => none

def recoverRow (cfg : Settings) (sc : Scene) (values : RecoveryValues) (now : Int) :
    Option Effect :=
  match MeetingGateway.recover cfg sc.row values now with
  | .ok row => sc.save (some row)
      (if sc.row.status = .providerStateUnknown then sc.session.recordOperator else sc.session)
  | .error _ => none

def operate (cfg : Settings) (sc : Scene) : Operation → Option Effect
  | .begin r => sc.begin r
  | .attempt r now => sc.attempt cfg r now
  | .commit r now => sc.commit cfg r now
  | .token r outcome => sc.token r outcome
  | .send r call => sc.send r call
  | .receive r result => sc.receive cfg r result
  | .finish r now => sc.finish cfg r now
  | .die r => sc.die r
  | .remoteCreates call => sc.remoteCreates call
  | .sweep now => sc.save (flagStaleProvisioning sc.row now) sc.session
  | .cancel now => sc.save (sc.row.cancel now).toOption sc.session
  | .recover values now => sc.recoverRow cfg values now
  | .confirmEnded now => sc.save (confirmProviderEnded sc.row now) sc.session.recordConfirmed

end Scene
end MeetingGateway
