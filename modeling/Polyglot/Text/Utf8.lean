import Polyglot.Text.Hex

/-!
# Texts as bytes

Texts are kept as bytes in UTF-8. `decodeUtf8` reads bytes one at a time: a first byte says how many
bytes follow it and within which bounds the next one lies, so that no character has two spellings
and none is a surrogate. The first place where the bytes can belong to no text is the fault: a byte
that starts no character, or the start of a character that goes wrong or breaks off.
-/

namespace Polyglot.Text

/-- The bytes of a text. -/
def encodeUtf8 (text : List Char) : List UInt8 :=
  text.flatMap String.utf8EncodeChar

/-- What is wrong with bytes that are no text. -/
inductive Utf8Cause where
  | invalidStart
  | invalidContinuation
  | unexpectedEnd
  deriving DecidableEq, Repr

/-- The wording of what is wrong. -/
def Utf8Cause.text : Utf8Cause → String
  | invalidStart => "invalid start byte"
  | invalidContinuation => "invalid continuation byte"
  | unexpectedEnd => "unexpected end of data"

/-- The first place where bytes are no text. -/
structure Utf8Fault where
  cause : Utf8Cause
  /-- The first of the faulty bytes. -/
  first : UInt8
  /-- How many bytes come before it. -/
  position : Nat
  /-- How many bytes the fault spans. -/
  length : Nat
  deriving DecidableEq, Repr

/-- The wording of a fault. -/
def Utf8Fault.message (fault : Utf8Fault) : String :=
  "'utf-8' codec can't decode " ++
    (if fault.length = 1 then
      "byte 0x" ++ String.ofList (hexPadded 2 fault.first.toNat) ++
        s!" in position {fault.position}"
    else s!"bytes in position {fault.position}-{fault.position + fault.length - 1}") ++
    ": " ++ fault.cause.text

/-- Bounds of a byte, both included. -/
structure Bounds where
  low : UInt8
  high : UInt8
  deriving DecidableEq, Repr

/-- The bounds of a byte that goes on with a character. -/
def Bounds.tail : Bounds := ⟨0x80, 0xbf⟩

/-- The bounds of the bytes that follow a first byte. -/
def bytesAfter? (first : UInt8) : Option (List Bounds) :=
  if first < 0x80 then some []
  else if first < 0xc2 then none
  else if first < 0xe0 then some [.tail]
  else if first = 0xe0 then some [⟨0xa0, 0xbf⟩, .tail]
  else if first = 0xed then some [⟨0x80, 0x9f⟩, .tail]
  else if first < 0xf0 then some [.tail, .tail]
  else if first = 0xf0 then some [⟨0x90, 0xbf⟩, .tail, .tail]
  else if first < 0xf4 then some [.tail, .tail, .tail]
  else if first = 0xf4 then some [⟨0x80, 0x8f⟩, .tail, .tail]
  else none

/-- What a first byte gives to the code point of its character. -/
def firstBits (first : UInt8) : Nat :=
  if first < 0x80 then first.toNat
  else if first < 0xe0 then first.toNat % 0x20
  else if first < 0xf0 then first.toNat % 0x10
  else first.toNat % 0x08

/-- A character of which some bytes were read. -/
structure Unfinished where
  first : UInt8
  /-- How many bytes come before it. -/
  position : Nat
  /-- How many of its bytes were read. -/
  length : Nat
  /-- The bits that were read. -/
  bits : Nat
  /-- The bounds of the next byte. -/
  next : Bounds
  /-- The bounds of the bytes after the next one. -/
  later : List Bounds

/-- The fault of a character of which some bytes were read. -/
def Unfinished.fault (read : Unfinished) (cause : Utf8Cause) : Utf8Fault :=
  ⟨cause, read.first, read.position, read.length⟩

/-- The characters of some bytes, given how many bytes were read and what is open. -/
def decodeFrom : (position : Nat) → Option Unfinished → List UInt8 → Except Utf8Fault (List Char)
  | _, none, [] => .ok []
  | _, some read, [] => .error (read.fault .unexpectedEnd)
  | position, none, byte :: rest =>
    match bytesAfter? byte with
    | none => .error ⟨.invalidStart, byte, position, 1⟩
    | some [] => (Char.ofNat byte.toNat :: ·) <$> decodeFrom (position + 1) none rest
    | some (next :: later) =>
      decodeFrom (position + 1) (some ⟨byte, position, 1, firstBits byte, next, later⟩) rest
  | position, some read, byte :: rest =>
    if read.next.low ≤ byte ∧ byte ≤ read.next.high then
      let bits := read.bits * 0x40 + byte.toNat % 0x40
      match read.later with
      | [] => (Char.ofNat bits :: ·) <$> decodeFrom (position + 1) none rest
      | next :: later =>
        decodeFrom (position + 1)
          (some { read with length := read.length + 1, bits, next, later }) rest
    else .error (read.fault .invalidContinuation)

/-- The text of some bytes, or the first place where they are none. -/
def decodeUtf8 (bytes : List UInt8) : Except Utf8Fault (List Char) :=
  decodeFrom 0 none bytes

end Polyglot.Text
