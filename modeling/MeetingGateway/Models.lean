import MeetingGateway.Configuration
import MeetingGateway.Library.KeyedTable
import MeetingGateway.Library.BoundedRange

/-!
# Rows and database constraints

The columns of meetings and rooms that the modelled code reads or writes, the
constraints PostgreSQL checks when a meeting is saved, and the committed store. Instants
are microseconds in UTC; primary keys are opaque numbers.
-/

namespace MeetingGateway

abbrev MeetingId := Nat
abbrev RoomId := Nat
abbrev ClientId := Nat

inductive Status where
  | draft
  | reserved
  | provisioning
  | ready
  | live
  | ended
  | cancelled
  | failed
  | retryableFailed
  | nonRetryableFailed
  | providerResponseInvalid
  | providerStateUnknown
  deriving DecidableEq

/-- `last_provider_error`: a provider code, or the sweep's `PROVISIONING_INTERRUPTED`. -/
inductive LastProviderError where
  | code (c : ProviderCode)
  | provisioningInterrupted
  deriving DecidableEq

structure Meeting where
  id : MeetingId
  integrationClient : ClientId
  externalClassId : String
  teacherId : String
  teacherName : String
  batchId : String
  batchName : String
  meetingTitle : String
  classDate : Int
  scheduleType : String
  startAt : Option Int
  endAt : Option Int
  room : Option RoomId
  reservation : Option (BoundedRange Int)
  reservationActive : Bool
  providerMeetingType : String
  providerCalendarId : Option String
  providerUniqueId : Option String
  providerPanelAddress : Option String
  encryptedProviderStartUrl : Option (Stored String)
  encryptedProviderPayload : Option (Stored JsonObject)
  status : Status
  providerCreatedAt : Option Int
  lastProviderError : Option LastProviderError
  updatedAt : Int
  cancelledAt : Option Int

structure Room where
  id : RoomId
  publicId : String
  username : String
  encryptedPassword : Option (Stored String)
  isActive : Bool
  priority : Int
  maxConcurrentBookings : Nat
  providerActiveMeetingLimit : Option Nat
  defaultMeetingConfig : Json

/-- `active_reservation_complete`. -/
def Meeting.activeReservationComplete (m : Meeting) : Bool :=
  !m.reservationActive ||
    (m.room.isSome && m.reservation.isSome && m.startAt.isSome && m.endAt.isSome)

/-- `positive_meeting_interval`; a comparison with NULL does not fail a check. -/
def Meeting.positiveMeetingInterval (m : Meeting) : Bool :=
  match m.startAt, m.endAt with
  | some s, some e => decide (s < e)
  | _, _ => true

/-- `reservation_range_valid` of migration 0002. -/
def Meeting.reservationRangeValid (m : Meeting) : Bool :=
  !m.reservationActive ||
    match m.reservation with
    | none => true
    | some r =>
      !r.isEmpty && r.lowerInc && !r.upperInc &&
        match r.lower, r.upper, m.startAt, m.endAt with
        | some lo, some hi, some s, some e => decide (lo ≤ s) && decide (e ≤ hi)
        | some _, some _, _, _ => true
        | _, _, _, _ => false

def Meeting.checks (m : Meeting) : Bool :=
  m.activeReservationComplete && m.positiveMeetingInterval && m.reservationRangeValid

/-- A text fits a `varchar` column; PostgreSQL takes no NUL character in any text, and the
driver can encode no lone surrogate. -/
def fitsColumn (cfg : Settings) (limit : Nat) (text : Option String) : Bool :=
  match text with
  | none => true
  | some t => decide (t.length ≤ limit) && (t.toList.all fun c => c ≠ Char.ofNat 0) &&
      cfg.encodable t

theorem fitsColumn_ascii (cfg : Settings) {limit : Nat} {text : String}
    (short : text.length ≤ limit) (plain : (text.toList.all fun c => c ≠ Char.ofNat 0) = true)
    (ascii : text.toList.all (fun c => decide (c.toNat < 128)) = true) :
    fitsColumn cfg limit (some text) = true := by
  simp only [fitsColumn, decide_eq_true short, plain, encodable_ascii cfg ascii, Bool.and_self]

def Meeting.fitsColumns (cfg : Settings) (m : Meeting) : Bool :=
  fitsColumn cfg 160 (some m.externalClassId) && fitsColumn cfg 160 (some m.teacherId) &&
    fitsColumn cfg 200 (some m.teacherName) && fitsColumn cfg 160 (some m.batchId) &&
    fitsColumn cfg 200 (some m.batchName) && fitsColumn cfg 250 (some m.meetingTitle) &&
    fitsColumn cfg 16 (some m.scheduleType) && fitsColumn cfg 16 (some m.providerMeetingType) &&
    fitsColumn cfg 200 m.providerCalendarId && fitsColumn cfg 200 m.providerUniqueId &&
    fitsColumn cfg 2000 m.providerPanelAddress

/-- The row holds an active reservation of the room that overlaps the slot. -/
def Meeting.blocks (m : Meeting) (room : RoomId) (slot : BoundedRange Int) : Bool :=
  decide (m.room = some room) && m.reservationActive &&
    match m.reservation with
    | some r => r.overlaps slot
    | none => false

/-- `exclude_overlapping_room_reservations` between a stored row and a row to be saved. -/
def Meeting.excludes (other row : Meeting) : Bool :=
  row.reservationActive &&
    match row.room, row.reservation with
    | some room, some slot => other.blocks room slot
    | _, _ => false

structure Store where
  meetings : KeyedTable MeetingId Meeting Meeting.id
  rooms : KeyedTable RoomId Room Room.id
  publicIds : (rooms.rows.map Room.publicId).Nodup
  systemPreset : Option Json
  clientPreset : ClientId → Option Json

inductive DbError where
  | check
  | exclusion
  deriving DecidableEq

namespace Store

def meeting? (s : Store) (pk : MeetingId) : Option Meeting := s.meetings.get? pk

def room? (s : Store) (pk : RoomId) : Option Room := s.rooms.get? pk

/-- Another row excludes this one. -/
def excluded (s : Store) (row : Meeting) : Bool :=
  s.meetings.rows.any fun other => decide (other.id ≠ row.id) && other.excludes row

def putMeeting (s : Store) (row : Meeting) : Store := { s with meetings := s.meetings.put row }

/-- Save a row that exists: CHECK constraints come before the exclusion constraint. -/
def save (s : Store) (row : Meeting) : Except DbError Store :=
  if !row.checks then .error .check
  else if s.excluded row then .error .exclusion
  else .ok (s.putMeeting row)

theorem meeting?_putMeeting_self {s : Store} {row old : Meeting}
    (h : s.meeting? row.id = some old) :
    (s.putMeeting row).meeting? row.id = some row := KeyedTable.get?_put_self h

theorem meeting?_putMeeting_of_ne {s : Store} {row : Meeting} {pk : MeetingId} (h : pk ≠ row.id) :
    (s.putMeeting row).meeting? pk = s.meeting? pk := KeyedTable.get?_put_of_ne h

theorem meeting?_id {s : Store} {pk : MeetingId} {m : Meeting} (h : s.meeting? pk = some m) :
    m.id = pk := KeyedTable.get?_key h

theorem save_ok {s s' : Store} {row : Meeting} (h : s.save row = .ok s') :
    row.checks = true ∧ s.excluded row = false ∧ s' = s.putMeeting row := by
  unfold save at h
  split at h
  · cases h
  · rename_i hc
    split at h
    · cases h
    · rename_i he
      cases h
      exact ⟨by simpa using hc, by simpa using he, rfl⟩

theorem save_of_not_excluded {s : Store} {row : Meeting} (hc : row.checks = true)
    (he : s.excluded row = false) : s.save row = .ok (s.putMeeting row) := by
  simp [save, hc, he]

theorem excluded_eq_false {s : Store} {row : Meeting} :
    s.excluded row = false ↔
      ∀ other ∈ s.meetings.rows, other.id ≠ row.id → other.excludes row = false := by
  simp [excluded]

end Store
end MeetingGateway
