import MeetingGateway.Library.OrderedDict
import MeetingGateway.Library.TimeZones
import Mathlib.Data.Rat.Init

/-!
# Python values the gateway handles

JSON values as `json.loads` builds them, the exceptions the code names or lets escape, the
string methods it uses, and datetimes. A Python text is a list of code points, with lone
surrogates among them; `Settings.surrogate` tells which characters stand for those. A datetime
is a wall clock, the `fold` of its reading and an optional `tzinfo`; clocks count microseconds
from the start of year 1, so the clock of a datetime Python can represent lies between 0 and
`maxWall`.
-/

namespace MeetingGateway

inductive PyFloat where
  | finite (value : Rat)
  | infinity (negative : Bool)
  | nan

inductive Json where
  | null
  | bool (value : Bool)
  | int (value : Int)
  | float (value : PyFloat)
  | str (value : String)
  | arr (items : List Json)
  | obj (fields : List (String × Json))

abbrev JsonObject := OrderedDict String Json

/-- Exceptions other than the gateway's own classes. A `UnicodeEncodeError` is a `ValueError`;
`dataError` is what the driver raises for a value that it or the database cannot store. -/
inductive PyError where
  | valueError
  | typeError
  | keyError
  | overflowError
  | recursionError
  | invalidToken
  | validationError (message : String)
  | doesNotExist
  | integrityError
  | dataError
  | redisError
  | unexpected
  deriving DecidableEq

/-- `bool(value)` for a JSON value. -/
def Json.truthy : Json → Bool
  | .null => false
  | .bool b => b
  | .int n => n ≠ 0
  | .float (.finite q) => q ≠ 0
  | .float _ => true
  | .str s => s ≠ ""
  | .arr items => !items.isEmpty
  | .obj fields => !fields.isEmpty

/-- A number; in Python a Boolean is one too. -/
def Json.isNumber : Json → Bool
  | .int _ | .float _ => true
  | _ => false

/-- `bool(text)` for a text or `None`. -/
def present : Option String → Bool
  | none => false
  | some s => s ≠ ""

/-- `str.isspace` for one character. -/
def isSpace (c : Char) : Bool :=
  let n := c.toNat
  (9 ≤ n && n ≤ 13) || (28 ≤ n && n ≤ 32) || n == 0x85 || n == 0xa0 || n == 0x1680 ||
    (0x2000 ≤ n && n ≤ 0x200a) || n == 0x2028 || n == 0x2029 || n == 0x202f || n == 0x205f ||
    n == 0x3000

/-- `str.strip()`. -/
def strip (s : String) : String :=
  String.ofList ((s.toList.dropWhile isSpace).reverse.dropWhile isSpace).reverse

/-- `str.lstrip()`. -/
def lstrip (s : String) : String := String.ofList (s.toList.dropWhile isSpace)

/-- `str.lower` of one character, exact in what is ASCII of it: two letters besides ASCII itself
have ASCII in their lower case. -/
def lowerOne (c : Char) : List Char :=
  if c.toNat < 128 then [c.toLower]
  else if c = '\u212a' then ['k']
  else if c = '\u0130' then ['i', '\u0307']
  else [c]

def lower (s : String) : String := String.ofList (s.toList.map Char.toLower)

def upper (s : String) : String := String.ofList (s.toList.map Char.toUpper)

/-- `str(n)` for an integer: CPython refuses more than 4300 digits. -/
def intText (n : Int) : Except PyError String :=
  if (Nat.toDigits 10 n.natAbs).length ≤ 4300 then .ok (toString n) else .error .valueError

/-- A `timezone` with one offset, or a `ZoneInfo`. -/
inductive TzInfo where
  | fixed (offset : Int)
  | zone (zone : TimeZone)
  deriving DecidableEq

def TzInfo.utcoffset (wall : Int) (fold : Bool) : TzInfo → Int
  | .fixed offset => offset
  | .zone z => z.localOffset wall fold

structure Datetime where
  wall : Int
  fold : Bool
  tzinfo : Option TzInfo
  deriving DecidableEq

def dayMicroseconds : Int := 86400 * 1000000

def minuteMicroseconds : Int := 60 * 1000000

/-- `datetime.max`: 9999-12-31T23:59:59.999999 is the last microsecond of day 3652059. -/
def maxWall : Int := 3652059 * dayMicroseconds - 1

namespace Datetime

def representable (wall : Int) : Bool := decide (0 ≤ wall) && decide (wall ≤ maxWall)

def isNaive (d : Datetime) : Bool := d.tzinfo.isNone

def utcoffset (d : Datetime) : Int := (d.tzinfo.map (TzInfo.utcoffset d.wall d.fold)).getD 0

/-- The UTC instant of an aware datetime. -/
def instant (d : Datetime) : Int := d.wall - d.utcoffset

/-- An instant as the database returns it. -/
def utc (instant : Int) : Datetime := ⟨instant, false, some (.fixed 0)⟩

/-- The offset depends on `fold`: the local time comes twice or is left out. -/
def ambiguous (d : Datetime) : Bool :=
  decide ({ d with fold := !d.fold }.utcoffset ≠ d.utcoffset)

/-- `d < d'`: datetimes of one `tzinfo` compare by their clocks, others by their instants. -/
def lt (d d' : Datetime) : Bool :=
  if d.tzinfo = d'.tzinfo then decide (d.wall < d'.wall) else decide (d.instant < d'.instant)

/-- `d == d'`: a local time that is ambiguous equals none of another `tzinfo`. -/
def eq (d d' : Datetime) : Bool :=
  if d.tzinfo = d'.tzinfo then decide (d.wall = d'.wall)
  else decide (d.instant = d'.instant) && !d.ambiguous && !d'.ambiguous

/-- `d.date()`, as days from the first day of year 1. -/
def date (d : Datetime) : Int := d.wall / dayMicroseconds

/-- `d + timedelta` moves the clock and forgets `fold`; `OverflowError` outside the
representable range. -/
def add (d : Datetime) (delta : Int) : Except PyError Datetime :=
  if representable (d.wall + delta) then .ok ⟨d.wall + delta, false, d.tzinfo⟩
  else .error .overflowError

/-- The clock of a zone at an instant. -/
def inZone (zone : TimeZone) (instant : Int) : Datetime :=
  ⟨instant + zone.offsetAt instant, zone.foldAt instant, some (.zone zone)⟩

/-- `d.astimezone(zone)`. -/
def astimezone (zone : TimeZone) (d : Datetime) : Except PyError Datetime :=
  if d.tzinfo = some (.zone zone) then .ok d
  else if representable d.instant && representable (inZone zone d.instant).wall then
    .ok (inZone zone d.instant)
  else .error .overflowError

@[simp] theorem instant_utc (instant : Int) : (utc instant).instant = instant := by
  simp [utc, Datetime.instant, utcoffset, TzInfo.utcoffset]

@[simp] theorem ambiguous_utc (instant : Int) : (utc instant).ambiguous = false := by
  simp [utc, ambiguous, utcoffset, TzInfo.utcoffset]

/-- A time from the database equals the instant's other readings unless they are ambiguous. -/
theorem utc_eq {instant : Int} {d : Datetime} :
    (utc instant).eq d = true ↔ instant = d.instant ∧ d.ambiguous = false := by
  unfold eq
  split
  · rename_i same
    have hfixed : d.tzinfo = some (.fixed 0) := same.symm
    simp only [Datetime.instant, ambiguous, utcoffset, hfixed, TzInfo.utcoffset, utc,
      Option.map_some, Option.getD_some, sub_zero, ne_eq, not_true_eq_false, decide_false, and_true]
    exact decide_eq_true_iff
  · simp

theorem add_ok {d d' : Datetime} {delta : Int} (h : d.add delta = .ok d') :
    d' = ⟨d.wall + delta, false, d.tzinfo⟩ := by
  unfold add at h
  split at h
  · cases h
    rfl
  · cases h

@[simp] theorem instant_inZone (zone : TimeZone) (instant : Int) :
    (inZone zone instant).instant = instant := by
  simp [inZone, Datetime.instant, utcoffset, TzInfo.utcoffset]

/-- A conversion keeps the instant. -/
theorem astimezone_ok {d d' : Datetime} {zone : TimeZone} (h : d.astimezone zone = .ok d') :
    d'.tzinfo = some (.zone zone) ∧ d'.instant = d.instant := by
  unfold astimezone at h
  split at h
  · rename_i same
    cases h
    exact ⟨same, rfl⟩
  · split at h
    · cases h
      exact ⟨rfl, instant_inZone zone d.instant⟩
    · cases h

/-- A time of another zone is converted to the zone's clock. -/
theorem astimezone_other {d d' : Datetime} {zone : TimeZone} (h : d.astimezone zone = .ok d')
    (other : d.tzinfo ≠ some (.zone zone)) : d' = inZone zone d'.instant := by
  rw [astimezone, if_neg other] at h
  split at h
  · cases h
    rw [instant_inZone]
  · cases h

end Datetime
end MeetingGateway
