/-!
# Code units of sixteen bits

A character outside the basic plane is two code units, a high surrogate and a low one. `units` lists
the code units of a text; `ofCodePoints` reads code points that escapes may have written as
surrogates one by one, joining each high surrogate to a low one that follows it. A surrogate that
stands alone is no character and is read as the replacement character.
-/

namespace Polyglot.Text

/-- The code units of one character. -/
def charUnits (c : Char) : List UInt16 :=
  let n := c.toNat
  if n < 0x10000 then [n.toUInt16]
  else [(0xd800 + (n - 0x10000) / 0x400).toUInt16, (0xdc00 + (n - 0x10000) % 0x400).toUInt16]

/-- The code units of a text. -/
def units (text : List Char) : List UInt16 :=
  text.flatMap charUnits

@[simp] theorem units_nil : units [] = [] := rfl

@[simp] theorem units_cons (c : Char) (text : List Char) :
    units (c :: text) = charUnits c ++ units text := rfl

@[simp] theorem units_append (s t : List Char) : units (s ++ t) = units s ++ units t := by
  simp [units]

/-- The code point opens a surrogate pair. -/
def isHighSurrogate (n : Nat) : Bool := 0xd800 ≤ n && n < 0xdc00

/-- The code point closes a surrogate pair. -/
def isLowSurrogate (n : Nat) : Bool := 0xdc00 ≤ n && n < 0xe000

/-- The character of a code point, or the replacement character. -/
def charOfCodePoint (n : Nat) : Char :=
  if h : n.isValidChar then Char.ofNatAux n h else '\ufffd'

/-- The characters that code points stand for, surrogate pairs joined. -/
def ofCodePoints : List Nat → List Char
  | [] => []
  | [n] => [charOfCodePoint n]
  | n :: m :: rest =>
    if isHighSurrogate n && isLowSurrogate m then
      charOfCodePoint (0x10000 + (n - 0xd800) * 0x400 + (m - 0xdc00)) :: ofCodePoints rest
    else charOfCodePoint n :: ofCodePoints (m :: rest)

@[simp] theorem charOfCodePoint_toNat (c : Char) : charOfCodePoint c.toNat = c := by
  have h : c.toNat.isValidChar := c.valid
  exact dif_pos h

theorem isHighSurrogate_toNat (c : Char) : isHighSurrogate c.toNat = false := by
  have h : c.toNat.isValidChar := c.valid
  simp only [Nat.isValidChar] at h
  simp only [isHighSurrogate, Bool.and_eq_false_iff, decide_eq_false_iff_not]
  omega

/-- Characters come back from their code points. -/
@[simp] theorem ofCodePoints_map_toNat (text : List Char) :
    ofCodePoints (text.map Char.toNat) = text := by
  induction text with
  | nil => rfl
  | cons c rest ih =>
    cases rest with
    | nil => simp [ofCodePoints]
    | cons d rest => simpa [ofCodePoints, isHighSurrogate_toNat] using ih

end Polyglot.Text
