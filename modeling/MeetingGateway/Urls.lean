import MeetingGateway.Settings
import MeetingGateway.Library.TextCuts

/-!
# Two readings of a URL

`urlsplit` of Python 3.12, and the authority that a browser finds in an `https` URL. Both drop
tabs and line ends and skip leading control characters. The browser also strips the end, skips
every slash and backslash before the authority, and ends it at a backslash.
-/

namespace MeetingGateway

open TextCuts

theorem toLower_cases (c : Char) : (¬ (65 ≤ c.toNat ∧ c.toNat ≤ 90) ∧ c.toLower = c) ∨
    (65 ≤ c.toNat ∧ c.toNat ≤ 90 ∧ c.toLower.toNat = c.toNat + 32) := by
  unfold Char.toLower
  split
  · rename_i h
    simp only [ge_iff_le, UInt32.le_iff_toNat_le] at h
    have hfirst : 65 ≤ c.toNat := h.1
    have hlast : c.toNat ≤ 90 := h.2
    refine Or.inr ⟨hfirst, hlast, ?_⟩
    have hval : c.val.toNat = c.toNat := rfl
    simp only [Char.toNat, UInt32.toNat_add]
    simp
    omega
  · rename_i h
    refine Or.inl ⟨fun hc => h ?_, rfl⟩
    simp only [ge_iff_le, UInt32.le_iff_toNat_le]
    exact hc

theorem toLower_idem (c : Char) : c.toLower.toLower = c.toLower := by
  rcases toLower_cases c with ⟨_, h⟩ | ⟨_, _, h⟩
  · rw [h, h]
  · rcases toLower_cases c.toLower with ⟨_, h'⟩ | ⟨_, _, h'⟩
    · exact h'
    · omega

/-- `str.lower` of one character. Two of them lower to ASCII letters besides ASCII itself. -/
inductive LowersChar : Char → List Char → Prop
  | ascii {c : Char} : c.toNat < 128 → LowersChar c [c.toLower]
  | kelvinSign : LowersChar '\u212a' ['k']
  | dottedI : LowersChar '\u0130' ['i', '\u0307']
  | other {c : Char} {block : List Char} : 128 ≤ c.toNat → block ≠ [] →
      (∀ x ∈ block, 128 ≤ x.toNat) → LowersChar c block

/-- What `urlsplit` takes from elsewhere in the standard library: the tests of a bracketed host
and of characters that normalise to a separator, and `str.lower`. -/
structure UrlLibrary where
  refuses : List Char → Bool
  lowerText : List Char → List Char
  lowers : ∀ text, Blockwise LowersChar text (lowerText text)

def c0ControlOrSpace (c : Char) : Bool := decide (c.toNat ≤ 32)

def unsafeUrlByte (c : Char) : Bool := c = '\t' || c = '\r' || c = '\n'

def isSchemeChar (c : Char) : Bool := c.isAlphanum || c = '+' || c = '-' || c = '.'

/-- The scheme in lower case and what follows its colon; no scheme is the empty one. -/
def splitScheme (url : List Char) : List Char × List Char :=
  let scheme := beforeFirst ':' url
  if ':' ∈ url && scheme.head?.any Char.isAlpha && scheme.all isSchemeChar then
    (scheme.map Char.toLower, afterFirst ':' url)
  else ([], url)

def endsNetloc (c : Char) : Bool := c = '/' || c = '?' || c = '#'

/-- The authority part after `//`. -/
def splitNetloc : List Char → List Char
  | '/' :: '/' :: rest => rest.takeWhile fun c => !endsNetloc c
  | _ => []

/-- The characters `urlsplit` looks at. -/
def urlChars (url : String) : List Char :=
  (url.toList.dropWhile c0ControlOrSpace).filter fun c => !unsafeUrlByte c

def netlocOf (url : String) : List Char := splitNetloc (splitScheme (urlChars url)).2

/-- The host in `SplitResult._hostinfo`. -/
def hostText (netloc : List Char) : List Char :=
  let hostinfo := afterLast '@' netloc
  if '[' ∈ hostinfo then beforeFirst ']' (afterFirst '[' hostinfo) else beforeFirst ':' hostinfo

section Split
variable (lib : UrlLibrary)

/-- `SplitResult.hostname`: the zone of a scoped address keeps its case. -/
def hostname (netloc : List Char) : Option (List Char) :=
  let host := hostText netloc
  if host = [] then none
  else some (lib.lowerText (beforeFirst '%' host) ++ host.dropWhile (· ≠ '%'))

def username (netloc : List Char) : Option (List Char) :=
  if '@' ∈ netloc then some (beforeFirst ':' (beforeLast '@' netloc)) else none

def password (netloc : List Char) : Option (List Char) :=
  let userinfo := beforeLast '@' netloc
  if '@' ∈ netloc ∧ ':' ∈ userinfo then some (afterFirst ':' userinfo) else none

def urlsplit (url : String) : Except PyError SplitResult :=
  let split := splitScheme (urlChars url)
  let netloc := splitNetloc split.2
  if decide ('[' ∈ netloc) != decide (']' ∈ netloc) || lib.refuses netloc then .error .valueError
  else
    .ok {
      scheme := String.ofList split.1
      netloc := String.ofList netloc
      hostname := (hostname lib netloc).map String.ofList
      username := (username netloc).map String.ofList
      password := (password netloc).map String.ofList }

end Split

def isSlash (c : Char) : Bool := c = '/' || c = '\\'

def endsAuthority (c : Char) : Bool := endsNetloc c || c = '\\'

def browserChars (url : String) : List Char :=
  ((url.toList.dropWhile c0ControlOrSpace).rdropWhile c0ControlOrSpace).filter
    fun c => !unsafeUrlByte c

def browserAuthority (rest : List Char) : List Char :=
  (rest.dropWhile isSlash).takeWhile fun c => !endsAuthority c

/-- A port starts at the first colon outside brackets. -/
def splitPort : Bool → List Char → List Char × Option (List Char)
  | _, [] => ([], none)
  | inside, c :: rest =>
    if c = ':' && !inside then ([], some rest)
    else
      let split := splitPort (if c = '[' then true else if c = ']' then false else inside) rest
      (c :: split.1, split.2)

def portNumber (digits : List Char) : Nat :=
  digits.foldl (fun n d => 10 * n + (d.toNat - 48)) 0

def portPasses : Option (List Char) → Bool
  | none => true
  | some digits => digits.all Char.isDigit && decide (portNumber digits ≤ 65535)

structure DnsLabel (label : List Char) : Prop where
  nonempty : label ≠ []
  chars : ∀ c ∈ label, c.isAlphanum = true ∨ c = '-'
  start : label.head? ≠ some '-'
  finish : label.getLast? ≠ some '-'

/-- Labels of letters, digits and hyphens; the top one begins with a letter. -/
inductive DnsName : List Char → Prop
  | top {label : List Char} : DnsLabel label → label.head?.any Char.isAlpha = true → DnsName label
  | sub {label name : List Char} : DnsLabel label → DnsName name → DnsName (label ++ '.' :: name)

/-- Two characters that are one letter of a domain, whatever their case. -/
def SameLetter (c x : Char) : Prop := c.toLower = x.toLower ∨ (c = '\u212a' ∧ x.toLower = 'k')

/-- Nothing, or a text up to a dot. -/
def UpToDot (text : List Char) : Prop := text = [] ∨ ∃ front, text = front ++ ['.']

/-- The host parser of a browser. It turns a domain to ASCII label by label, and a DNS name at its
end is lowered only; brackets hold an IPv6 address. -/
structure BrowserHosts where
  parseHost : List Char → Option (List Char)
  domain : ∀ {front labels name host}, DnsName name → List.Forall₂ SameLetter labels name →
    UpToDot front → '[' ∉ front → parseHost (front ++ labels) = some host →
    ∃ front', UpToDot front' ∧ host = front' ++ name.map Char.toLower
  literal : ∀ {text host}, '[' ∈ text → parseHost text = some host →
    ∃ address, text = '[' :: address ++ [']'] ∧ ':' ∈ address ∧ ']' ∉ address ∧
      ∀ front c back, address = front ++ '.' :: c :: back → c.isDigit = true

structure BrowserReading where
  userinfo : Option (List Char)
  host : List Char

section Browser
variable (browser : BrowserHosts)

/-- The host of an authority without userinfo; none if the browser refuses it. -/
def browserHost (hostport : List Char) : Option (List Char) :=
  let split := splitPort false hostport
  if split.1 ≠ [] && portPasses split.2 then browser.parseHost split.1 else none

/-- Userinfo and host of an `https` URL; none if the browser does not open it as one. -/
def browserReading (url : String) : Option BrowserReading :=
  let split := splitScheme (browserChars url)
  if split.1 = "https".toList then
    let authority := browserAuthority split.2
    if '@' ∈ authority then
      (browserHost browser (afterLast '@' authority)).map fun host =>
        ⟨some (beforeLast '@' authority), host⟩
    else (browserHost browser authority).map fun host => ⟨none, host⟩
  else none

end Browser
end MeetingGateway
