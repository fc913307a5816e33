import MeetingGateway.Services
import Mathlib.Algebra.Order.Ring.Rat

/-!
# Provider tokens

`apps/convay/tokens.py` for one call: the cache entry of a room and credential version, when
a token is fresh, for how long a new one is stored, and what a call of `get_token` does with
the answers it meets. The clock and expiries are instants in microseconds.
-/

namespace MeetingGateway

/-- `total_seconds()`: a float quotient. Rounding keeps the order, and the whole seconds of
a timedelta are exact. -/
structure TotalSeconds where
  seconds : Int → Rat
  mono : ∀ a b, a ≤ b → seconds a ≤ seconds b
  whole : ∀ n : Int, seconds (n * 1000000) = n

/-- `int(x)` cuts towards zero. -/
def truncate (x : Rat) : Int := if 0 ≤ x then x.floor else x.ceil

structure TokenSettings extends Settings where
  convayTokenExpirySkewSeconds : Int
  totalSeconds : TotalSeconds

/-- A row of the rooms table with the version of its credential. -/
structure VersionedRoom extends Room where
  credentialVersion : Nat

/-- `convay:room:{pk}:v{credential_version}:access_token`. -/
structure TokenKey where
  room : RoomId
  version : Nat
  deriving DecidableEq

def tokenKey (room : VersionedRoom) : TokenKey := ⟨room.id, room.credentialVersion⟩

/-- The JSON object of an entry. -/
structure CacheItem where
  token : String
  expiry : Option Int
  deriving DecidableEq

/-- A decrypted entry: an item, or a text that raises when it is read as one. -/
inductive CacheText where
  | item (item : CacheItem)
  | unreadable (e : PyError)

def readItem (cfg : Settings) (raw : Stored CacheText) : Except PyError CacheItem :=
  match decrypt cfg.keyring raw with
  | .ok (.item item) => .ok item
  | .ok (.unreadable e) => .error e
  | .error e => .error e

/-- `except (ValueError, KeyError, TypeError)` around the reading of an entry. -/
def PyError.discards : PyError → Bool
  | .valueError | .keyError | .typeError => true
  | _ => false

namespace TokenSettings

/-- The entry may still be handed out. -/
def fresh (cfg : TokenSettings) (expiry : Option Int) (now : Int) : Bool :=
  match expiry with
  | none => true
  | some e => decide ((cfg.convayTokenExpirySkewSeconds : Rat) < cfg.totalSeconds.seconds (e - now))

def ttl (cfg : TokenSettings) (expiresAt : Option Int) (now : Int) : Int :=
  match expiresAt with
  | none => 60
  | some e => truncate (cfg.totalSeconds.seconds (e - now)) - cfg.convayTokenExpirySkewSeconds

/-- The safety window in microseconds. -/
def skew (cfg : TokenSettings) : Int := cfg.convayTokenExpirySkewSeconds * 1000000

theorem skew_lt_of_seconds {cfg : TokenSettings} {delta : Int}
    (h : (cfg.convayTokenExpirySkewSeconds : Rat) < cfg.totalSeconds.seconds delta) :
    cfg.skew < delta := by
  by_contra hle
  have hmono := cfg.totalSeconds.mono delta cfg.skew (not_lt.mp hle)
  rw [skew, cfg.totalSeconds.whole] at hmono
  exact absurd h (not_lt.mpr hmono)

end TokenSettings

/-- A truncation above `n` comes from a number above `n`. -/
theorem lt_of_lt_truncate {n : Int} {x : Rat} (h : n < truncate x) : (n : Rat) < x := by
  unfold truncate at h
  split at h
  · have hfloor : ((n + 1 : Int) : Rat) ≤ x := Rat.le_floor_iff.mp h
    have hstep : (n : Rat) < ((n + 1 : Int) : Rat) := by exact_mod_cast Int.lt_succ n
    exact lt_of_lt_of_le hstep hfloor
  · exact Rat.lt_ceil_iff.mp h

section Freshness
variable {cfg : TokenSettings} {e now : Int}

theorem skew_lt_of_fresh (h : cfg.fresh (some e) now = true) : cfg.skew < e - now :=
  TokenSettings.skew_lt_of_seconds (by simpa [TokenSettings.fresh] using h)

theorem skew_lt_of_ttl (h : 0 < cfg.ttl (some e) now) : cfg.skew < e - now := by
  apply TokenSettings.skew_lt_of_seconds
  apply lt_of_lt_truncate
  simp only [TokenSettings.ttl] at h
  omega

end Freshness

/-- `ConvayClient.authenticate`: the password is decrypted before the exchange. A room
without one raises an `AttributeError`. -/
def authenticate (cfg : Settings) (room : Room) (exchange : TokenOutcome) : TokenOutcome :=
  match room.encryptedPassword.map (decrypt cfg.keyring) with
  | none => .escaped .unexpected
  | some (.error e) => .escaped e
  | some (.ok _) => exchange

/-- What a call meets: the answers of the lock and of the cache, the clock where it is read,
and the exchange with the provider. The lock is entered and left with `false` for an error
of the lock itself, as when its lease has run out. -/
structure TokenAnswers where
  entered : Except PyError Bool
  cached : Except PyError (Option (Stored CacheText))
  comparedAt : Int
  deleted : Except PyError Unit
  exchange : TokenOutcome
  measuredAt : Int
  stored : Except PyError Unit
  left : Except PyError Bool

/-- Authenticate, and store the new token unless it is too short-lived. -/
def renew (cfg : TokenSettings) (room : Room) (answers : TokenAnswers) : TokenOutcome :=
  match authenticate cfg.toSettings room answers.exchange with
  | .issued result =>
    if cfg.ttl result.expiresAt answers.measuredAt ≤ 0 then .refused .providerTokenExpired none
    else
      match answers.stored with
      | .error e => .escaped e
      | .ok () => .issued result
  | outcome => outcome

/-- The body of `with cache.lock(...)`. -/
def underTokenLock (cfg : TokenSettings) (room : Room) (force : Bool) (answers : TokenAnswers) :
    TokenOutcome :=
  if force then renew cfg room answers
  else
    match answers.cached with
    | .error e => .escaped e
    | .ok none => renew cfg room answers
    | .ok (some raw) =>
      match readItem cfg.toSettings raw with
      | .ok item =>
        if cfg.fresh item.expiry answers.comparedAt then .issued ⟨item.token, item.expiry⟩
        else renew cfg room answers
      | .error e =>
        if e.discards then
          match answers.deleted with
          | .error e => .escaped e
          | .ok () => renew cfg room answers
        else .escaped e

/-- Leaving the lock can replace the outcome. -/
def leaveTokenLock (left : Except PyError Bool) (outcome : TokenOutcome) : TokenOutcome :=
  match left with
  | .error e => .escaped e
  | .ok false => .refused .providerAuthBusy none
  | .ok true => outcome

def getToken (cfg : TokenSettings) (room : Room) (force : Bool) (answers : TokenAnswers) :
    TokenOutcome :=
  if !room.isActive then .refused .roomInactive none
  else
    match answers.entered with
    | .error e => .escaped e
    | .ok false => .refused .providerAuthBusy none
    | .ok true => leaveTokenLock answers.left (underTokenLock cfg room force answers)

end MeetingGateway
