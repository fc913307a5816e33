import MeetingGateway.Exceptions

/-!
# Settings and encryption

The settings the modelled code reads, and `common/encryption.py`. Fernet is
authenticated encryption: a text is read back with the key it was written under and
with no other key, so a stored value is its version label, its key and its content.
The service time zone is a setting too; `Asia/Dhaka` had daylight saving time in 2009.
`encrypt` encodes its text as UTF-8 and so takes no lone surrogate.
-/

namespace MeetingGateway

/-- Encryption keys are compared only, so their text does not matter. -/
structure Keyring where
  version : String
  key : Nat
  previousKeys : String → Option Nat

/-- A stored text: one without the version prefix, or one written by Fernet. -/
inductive Stored (α : Type) where
  | malformed
  | sealed (version : String) (key : Nat) (content : α)
  deriving DecidableEq

def Keyring.keys (k : Keyring) (version : String) : Option Nat :=
  if version = k.version then some k.key else k.previousKeys version

/-- `encrypt(json.dumps(value))`; what is dumped is ASCII. -/
def encryptDumps {α : Type} (k : Keyring) (value : α) : Stored α :=
  .sealed k.version k.key value

def decrypt {α : Type} (k : Keyring) : Stored α → Except PyError α
  | .malformed => .error .valueError
  | .sealed version key content =>
    match k.keys version with
    | none => .error .keyError
    | some current => if current = key then .ok content else .error .invalidToken

@[simp] theorem decrypt_encryptDumps {α : Type} (k : Keyring) (value : α) :
    decrypt k (encryptDumps k value) = .ok value := by
  simp [encryptDumps, decrypt, Keyring.keys]

/-- `urlsplit`'s attributes of a URL. -/
structure SplitResult where
  scheme : String
  netloc : String
  hostname : Option String
  username : Option String
  password : Option String

/-- Settings, and the two library functions whose result the code only inspects. Lean has no
characters for the lone surrogates a text of `json.loads` may hold, so any characters but ASCII
may stand for them: those of `surrogate`. -/
structure Settings where
  keyring : Keyring
  roomBufferBeforeMinutes : Nat
  roomBufferAfterMinutes : Nat
  defaultProviderMeetingType : String
  convayTrustedHostSuffixes : List String
  timeZone : TimeZone
  urlsplit : String → Except PyError SplitResult
  jsonLoads : String → Except PyError Json
  surrogate : Char → Bool
  ascii : ∀ c : Char, c.toNat < 128 → surrogate c = false

/-- `text.encode()` succeeds. -/
def Settings.encodable (cfg : Settings) (text : String) : Bool :=
  text.toList.all fun c => !cfg.surrogate c

theorem encodable_ascii (cfg : Settings) {text : String}
    (ascii : text.toList.all (fun c => decide (c.toNat < 128)) = true) :
    cfg.encodable text = true := by
  simp only [List.all_eq_true, decide_eq_true_eq] at ascii
  simp only [Settings.encodable, List.all_eq_true, Bool.not_eq_true']
  intro c hc
  exact cfg.ascii c (ascii c hc)

def encrypt (cfg : Settings) (value : String) : Except PyError (Stored String) :=
  if cfg.encodable value then .ok (.sealed cfg.keyring.version cfg.keyring.key value)
  else .error .valueError

theorem decrypt_encrypt {cfg : Settings} {value : String} {stored : Stored String}
    (h : encrypt cfg value = .ok stored) : decrypt cfg.keyring stored = .ok value := by
  unfold encrypt at h
  split at h
  · cases h
    simp [decrypt, Keyring.keys]
  · cases h

/-- `Asia/Dhaka`: `+06:00` since 2010, and `+07:00` from 2009-06-19T17:00Z to
2009-12-31T17:00Z. -/
def asiaDhaka : TimeZone where
  initial := 21700 * 1000000
  transitions :=
    [(1262278800, 21600), (1245430800, 25200), (-576138600, 21600), (-862637400, 23400),
      (-872058600, 19800), (-891582800, 23400), (-2524543300, 21200)].map fun (unix, offset) =>
        ⟨(719162 * 86400 + unix) * 1000000, offset * 1000000⟩
  spaced := by decide

def Settings.before (cfg : Settings) : Int := cfg.roomBufferBeforeMinutes * minuteMicroseconds

def Settings.after (cfg : Settings) : Int := cfg.roomBufferAfterMinutes * minuteMicroseconds

end MeetingGateway
