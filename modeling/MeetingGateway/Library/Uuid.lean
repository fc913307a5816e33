import Mathlib.Data.List.Basic

/-!
# UUIDs and their texts

A UUID is 32 hexadecimal digits. Its text has them in groups of 8, 4, 4, 4 and 12; the reader
takes a URN prefix, braces and all hyphens away, wants 32 characters and reads them as an
integer to the base 16. Reading a text that was written gives the UUID back, so the texts of two
UUIDs are equal only if the UUIDs are.
-/

structure Uuid where
  digits : List (Fin 16)
  size : digits.length = 32
  deriving DecidableEq

namespace Uuid

def digitChar (d : Fin 16) : Char :=
  if d.val < 10 then Char.ofNat (48 + d.val) else Char.ofNat (87 + d.val)

/-- The zeros of the decimal digits of Unicode; the other nine follow each. -/
def decimalZeros : List Nat :=
  [0x30, 0x660, 0x6f0, 0x7c0, 0x966, 0x9e6, 0xa66, 0xae6, 0xb66, 0xbe6, 0xc66, 0xce6, 0xd66,
    0xde6, 0xe50, 0xed0, 0xf20, 0x1040, 0x1090, 0x17e0, 0x1810, 0x1946, 0x19d0, 0x1a80, 0x1a90,
    0x1b50, 0x1bb0, 0x1c40, 0x1c50, 0xa620, 0xa8d0, 0xa900, 0xa9d0, 0xa9f0, 0xaa50, 0xabf0,
    0xff10, 0x104a0, 0x10d30, 0x11066, 0x110f0, 0x11136, 0x111d0, 0x112f0, 0x11450, 0x114d0,
    0x11650, 0x116c0, 0x11730, 0x118e0, 0x11950, 0x11c50, 0x11d50, 0x11da0, 0x11f50, 0x16a60,
    0x16ac0, 0x16b50, 0x1d7ce, 0x1d7d8, 0x1d7e2, 0x1d7ec, 0x1d7f6, 0x1e140, 0x1e2f0, 0x1e4f0,
    0x1e950, 0x1fbf0]

def decimal? (c : Char) : Option (Fin 16) :=
  (decimalZeros.find? fun first => decide (first ≤ c.toNat ∧ c.toNat < first + 10)).map
    fun first => ⟨(c.toNat - first) % 16, Nat.mod_lt _ (by decide)⟩

/-- The value of a digit in either case, or of a decimal digit of any script. -/
def digit? (c : Char) : Option (Fin 16) :=
  ((List.finRange 16).find? fun d => decide (digitChar d = c.toLower)).or (decimal? c)

def hex (digits : List (Fin 16)) : List Char := digits.map digitChar

/-- A hyphen after each group but the last, which takes what is left. -/
def groups : List Nat → List (Fin 16) → List Char
  | [], digits => hex digits
  | n :: rest, digits => hex (digits.take n) ++ '-' :: groups rest (digits.drop n)

/-- `str(u)`. -/
def text (u : Uuid) : String := String.ofList (groups [8, 4, 4, 4] u.digits)

/-- `replace(pattern, "")` from left to right; `skip` characters belong to a match. -/
def removeAll (pattern : List Char) : Nat → List Char → List Char
  | _, [] => []
  | skip + 1, _ :: rest => removeAll pattern skip rest
  | 0, c :: rest =>
    if pattern.isPrefixOf (c :: rest) then removeAll pattern (pattern.length - 1) rest
    else c :: removeAll pattern 0 rest

def isBrace (c : Char) : Bool := c = Char.ofNat 123 || c = Char.ofNat 125

def stripAll (p : Char → Bool) (chars : List Char) : List Char :=
  ((chars.dropWhile p).reverse.dropWhile p).reverse

def dropOne (x : Char) : List Char → List Char
  | [] => []
  | c :: rest => if c = x then rest else c :: rest

def zeroDigit : Fin 16 := ⟨0, Nat.zero_lt_succ 15⟩

/-- A `0x` goes, and an underscore after it. -/
def dropBase : List Char → List Char
  | c :: x :: rest =>
    if digit? c = some zeroDigit ∧ x.toLower = 'x' then dropOne '_' rest else c :: x :: rest
  | chars => chars

/-- Digits with single underscores between them; the flag is that a digit came last. -/
def digits? : Bool → List Char → Option (List (Fin 16))
  | afterDigit, [] => if afterDigit then some [] else none
  | afterDigit, c :: rest =>
    if c = '_' then if afterDigit then digits? false rest else none
    else
      match digit? c, digits? true rest with
      | some d, some ds => some (d :: ds)
      | _, _ => none

/-- The digits of `int(text, 16)` for a text without a minus sign. -/
def int16? (isSpace : Char → Bool) (chars : List Char) : Option (List (Fin 16)) :=
  digits? false (dropBase (dropOne '+' (stripAll isSpace chars)))

/-- Zeros stand before what is shorter than 32 digits. -/
def ofDigits? (digits : List (Fin 16)) : Option Uuid :=
  if short : digits.length ≤ 32 then
    some ⟨List.replicate (32 - digits.length) zeroDigit ++ digits, by simp [short]⟩
  else none

/-- `uuid.UUID(text)`; `none` is the `ValueError`. -/
def parse (isSpace : Char → Bool) (text : String) : Option Uuid :=
  let plain := removeAll "uuid:".toList 0 (removeAll "urn:".toList 0 text.toList)
  let chars := (stripAll isBrace plain).filter fun c => c ≠ '-'
  if chars.length = 32 then (int16? isSpace chars).bind ofDigits? else none

theorem digit?_digitChar : ∀ d, digit? (digitChar d) = some d := by decide

theorem digitChar_ne_hyphen : ∀ d, digitChar d ≠ '-' := by decide

theorem digitChar_not_brace : ∀ d, isBrace (digitChar d) = false := by decide

theorem digitChar_ne_u : ∀ d, digitChar d ≠ 'u' := by decide

theorem digitChar_ne_underscore : ∀ d, digitChar d ≠ '_' := by decide

theorem digitChar_ne_plus : ∀ d, digitChar d ≠ '+' := by decide

theorem digitChar_ne_x : ∀ d, (digitChar d).toLower ≠ 'x' := by decide

theorem mem_hex {c : Char} {digits : List (Fin 16)} (h : c ∈ hex digits) :
    ∃ d, c = digitChar d := by
  obtain ⟨d, _, rfl⟩ := List.mem_map.mp h
  exact ⟨d, rfl⟩

theorem digits?_hex (digits : List (Fin 16)) : digits? true (hex digits) = some digits := by
  induction digits with
  | nil => rfl
  | cons d rest ih =>
    simp only [hex, List.map_cons, digits?, digit?_digitChar, if_neg (digitChar_ne_underscore d)]
    rw [show digits? true (rest.map digitChar) = some rest from ih]

theorem digits?_hex_cons (d : Fin 16) (rest : List (Fin 16)) :
    digits? false (hex (d :: rest)) = some (d :: rest) := by
  simp only [hex, List.map_cons, digits?, digit?_digitChar, if_neg (digitChar_ne_underscore d)]
  rw [show digits? true (rest.map digitChar) = some rest from digits?_hex rest]

theorem mem_groups {c : Char} {sizes : List Nat} {digits : List (Fin 16)}
    (h : c ∈ groups sizes digits) : c = '-' ∨ ∃ d, c = digitChar d := by
  induction sizes generalizing digits with
  | nil =>
    obtain ⟨d, _, rfl⟩ := List.mem_map.mp h
    exact Or.inr ⟨d, rfl⟩
  | cons n rest ih =>
    rcases List.mem_append.mp h with hfirst | hrest
    · obtain ⟨d, _, rfl⟩ := List.mem_map.mp hfirst
      exact Or.inr ⟨d, rfl⟩
    · rcases List.mem_cons.mp hrest with rfl | hrest
      · exact Or.inl rfl
      · exact ih hrest

theorem filter_hex (digits : List (Fin 16)) :
    (hex digits).filter (fun c => c ≠ '-') = hex digits := by
  apply List.filter_eq_self.mpr
  intro c hc
  obtain ⟨d, _, rfl⟩ := List.mem_map.mp hc
  simpa using digitChar_ne_hyphen d

/-- Without the hyphens the groups are the digits again. -/
theorem filter_groups (sizes : List Nat) (digits : List (Fin 16)) :
    (groups sizes digits).filter (fun c => c ≠ '-') = hex digits := by
  induction sizes generalizing digits with
  | nil => exact filter_hex digits
  | cons n rest ih =>
    calc (groups (n :: rest) digits).filter (fun c => c ≠ '-')
        = hex (digits.take n) ++ hex (digits.drop n) := by
          rw [groups, List.filter_append, filter_hex, List.filter_cons_of_neg (by simp), ih]
      _ = hex digits := by rw [hex, hex, ← List.map_append, List.take_append_drop, hex]

theorem removeAll_absent {p : Char} {ps chars : List Char} (h : ∀ c ∈ chars, c ≠ p) :
    removeAll (p :: ps) 0 chars = chars := by
  induction chars with
  | nil => rfl
  | cons c rest ih =>
    have hne : ¬ (p :: ps).isPrefixOf (c :: rest) = true := by
      have hc := h c List.mem_cons_self
      simp [List.isPrefixOf, hc.symm]
    rw [removeAll, if_neg hne, ih fun x hx => h x (List.mem_cons_of_mem c hx)]

theorem dropWhile_absent {p : Char → Bool} {chars : List Char} (h : ∀ c ∈ chars, p c = false) :
    chars.dropWhile p = chars := by
  cases chars with
  | nil => rfl
  | cons c rest => simp [h c List.mem_cons_self]

theorem stripAll_absent {p : Char → Bool} {chars : List Char} (h : ∀ c ∈ chars, p c = false) :
    stripAll p chars = chars := by
  have hback : ∀ c ∈ chars.reverse, p c = false := by
    intro c hc
    exact h c (List.mem_reverse.mp hc)
  rw [stripAll, dropWhile_absent h, dropWhile_absent hback, List.reverse_reverse]

theorem dropOne_absent {x : Char} {chars : List Char} (h : ∀ c ∈ chars, c ≠ x) :
    dropOne x chars = chars := by
  cases chars with
  | nil => rfl
  | cons c rest => exact if_neg (h c List.mem_cons_self)

theorem dropBase_absent {chars : List Char} (h : ∀ c ∈ chars, c.toLower ≠ 'x') :
    dropBase chars = chars := by
  unfold dropBase
  split
  · rename_i c x rest
    exact if_neg fun base => h x (List.mem_cons_of_mem c List.mem_cons_self) base.2
  · rfl

theorem int16?_hex {isSpace : Char → Bool} (blank : ∀ d, isSpace (digitChar d) = false)
    {digits : List (Fin 16)} (nonempty : digits ≠ []) :
    int16? isSpace (hex digits) = some digits := by
  have stripped : stripAll isSpace (hex digits) = hex digits := by
    apply stripAll_absent
    intro c hc
    obtain ⟨d, rfl⟩ := mem_hex hc
    exact blank d
  have unsigned : dropOne '+' (hex digits) = hex digits := by
    apply dropOne_absent
    intro c hc
    obtain ⟨d, rfl⟩ := mem_hex hc
    exact digitChar_ne_plus d
  have bare : dropBase (hex digits) = hex digits := by
    apply dropBase_absent
    intro c hc
    obtain ⟨d, rfl⟩ := mem_hex hc
    exact digitChar_ne_x d
  rw [int16?, stripped, unsigned, bare]
  cases digits with
  | nil => exact absurd rfl nonempty
  | cons d rest => exact digits?_hex_cons d rest

theorem ofDigits?_digits (u : Uuid) : ofDigits? u.digits = some u := by
  simp [ofDigits?, u.size]

theorem parse_text {isSpace : Char → Bool} (blank : ∀ d, isSpace (digitChar d) = false)
    (u : Uuid) : parse isSpace u.text = some u := by
  have plain : ∀ c ∈ groups [8, 4, 4, 4] u.digits, c ≠ 'u' := by
    intro c hc
    rcases mem_groups hc with rfl | ⟨d, rfl⟩
    · decide
    · exact digitChar_ne_u d
  have bare : ∀ c ∈ groups [8, 4, 4, 4] u.digits, isBrace c = false := by
    intro c hc
    rcases mem_groups hc with rfl | ⟨d, rfl⟩
    · decide
    · exact digitChar_not_brace d
  have urn : removeAll "urn:".toList 0 u.text.toList = groups [8, 4, 4, 4] u.digits := by
    have written : u.text.toList = groups [8, 4, 4, 4] u.digits := String.toList_ofList
    rw [written]
    exact removeAll_absent plain
  have prefixes : removeAll "uuid:".toList 0 (groups [8, 4, 4, 4] u.digits) =
      groups [8, 4, 4, 4] u.digits := removeAll_absent plain
  have length : (hex u.digits).length = 32 := by rw [hex, List.length_map, u.size]
  have nonempty : u.digits ≠ [] := List.ne_nil_of_length_pos (by rw [u.size]; decide)
  simp only [parse, urn, prefixes, stripAll_absent bare, filter_groups, length, if_pos,
    int16?_hex blank nonempty, Option.bind_some, ofDigits?_digits]

theorem text_injective {u v : Uuid} (h : u.text = v.text) : u = v := by
  have hu := @parse_text (fun _ => false) (fun _ => rfl) u
  rw [h, @parse_text (fun _ => false) (fun _ => rfl) v] at hu
  exact (Option.some.inj hu).symm

theorem text_inj {u v : Uuid} : u.text = v.text ↔ u = v :=
  ⟨text_injective, congrArg text⟩

/-- The UUID whose digits are all `d`. -/
def all (d : Fin 16) : Uuid := ⟨List.replicate 32 d, by simp⟩

example : (all 10).text = "aaaaaaaa-aaaa-aaaa-aaaa-aaaaaaaaaaaa" := by decide

end Uuid
