import Polyglot.Source.Template
import Polyglot.Text.Blank
import Polyglot.Text.Hex
import Polyglot.Text.Utf16

/-!
# The source text of a template

Between its backticks a template is written as plain characters, escapes and slots. `escape` writes
a text so that it reads back as itself. `Template.parse` reads a body: it cooks each escape and
ends each slot at the brace that balances its opening, where quoted strings and nested templates
inside the slot are skipped.

Faults carry the offset, in characters, of the backslash, the opening quote or the dollar sign of
what is wrong.

An escape may write half of a surrogate pair, which is a code point but no character. The pieces of
a body keep such code points. The template made of them has texts, so the halves are lost there: two
that meet become the one character of their pair, and any other becomes the replacement character.
-/

namespace Polyglot.Source

/-- What may be wrong with the body of a template. -/
inductive TemplateFault where
  | loneBackslash
  | invalidHexEscape (offset : Nat)
  | invalidUnicodeEscape (offset : Nat)
  | unicodeEscapeOutOfRange (offset : Nat)
  | unterminatedSlot (offset : Nat)
  | unterminatedString (offset : Nat)
  | emptySlot
  deriving DecidableEq, Repr

/-- The wording of a fault. -/
def TemplateFault.message : TemplateFault → String
  | loneBackslash => "Template body ends with a lone backslash"
  | invalidHexEscape offset => s!"Invalid hex escape at offset {offset}"
  | invalidUnicodeEscape offset => s!"Invalid unicode escape at offset {offset}"
  | unicodeEscapeOutOfRange offset => s!"Unicode escape out of range at offset {offset}"
  | unterminatedSlot offset =>
    s!"Unterminated $\x7b...\x7d in template body at offset {offset}"
  | unterminatedString offset => s!"Unterminated string in template expression at offset {offset}"
  | emptySlot => "Empty $\x7b\x7d in template body"

namespace TemplateText

/-- The quote that surrounds a template. -/
def backtick : Char := '\x60'

/-! ### Writing -/

/-- Write one character so that it stands for itself whatever follows. -/
def escapeChar (c : Char) : List Char :=
  if c == '\\' || c == backtick then ['\\', c]
  else if c == '\r' then ['\\', 'r']
  else [c]

/-- Write a text so that it stands for itself: a dollar sign is escaped where a brace follows. -/
def escapeChars : List Char → List Char
  | [] => []
  | '$' :: '{' :: rest => '\\' :: '$' :: '{' :: escapeChars rest
  | c :: rest => escapeChar c ++ escapeChars rest

/-- Write a text between backticks so that it stands for itself. -/
def escape (text : String) : String :=
  String.ofList (escapeChars text.toList)

@[simp] theorem escapeChars_nil : escapeChars [] = [] := rfl

@[simp] theorem escape_empty : escape "" = "" := by
  simp [escape]

/-! ### Escapes -/

/-- The character of a simple escape. -/
def simpleEscape? : Char → Option Nat
  | 'n' => some 0x0a
  | 't' => some 0x09
  | 'r' => some 0x0d
  | 'b' => some 0x08
  | 'f' => some 0x0c
  | 'v' => some 0x0b
  | '0' => some 0x00
  | _ => none

/-- A run of hexadecimal digits at the start of a text. -/
def hexRun (text : List Char) : List Char :=
  text.takeWhile fun c => (Text.hexValue? c).isSome

/-- The number of a unicode escape and how many characters write it: one to six digits in braces or
exactly four. -/
def unicodeEscape? (text : List Char) : Option (Nat × Nat) :=
  match text with
  | '{' :: rest =>
    let digits := hexRun rest
    if 1 ≤ digits.length && digits.length ≤ 6 && rest[digits.length]? == some '}' then
      (Text.hexNumber? digits).map (·, digits.length + 2)
    else none
  | a :: b :: c :: d :: _ => (Text.hexNumber? [a, b, c, d]).map (·, 4)
  | _ => none

/-- The code points of an escape and how many characters follow its backslash, given those
characters and the offset of the backslash. An escaped line end stands for nothing. -/
def readEscape (offset : Nat) : List Char → Except TemplateFault (List Nat × Nat)
  | [] => .error .loneBackslash
  | '\r' :: '\n' :: _ => .ok ([], 2)
  | 'x' :: rest =>
    match rest with
    | a :: b :: _ =>
      match Text.hexNumber? [a, b] with
      | some n => .ok ([n], 3)
      | none => .error (.invalidHexEscape offset)
    | _ => .error (.invalidHexEscape offset)
  | 'u' :: rest =>
    match unicodeEscape? rest with
    | none => .error (.invalidUnicodeEscape offset)
    | some (n, length) =>
      if n > 0x10ffff then .error (.unicodeEscapeOutOfRange offset) else .ok ([n], length + 1)
  | c :: _ =>
    match simpleEscape? c with
    | some n => .ok ([n], 1)
    | none =>
      if c == '\r' || c == '\n' || c == '\u2028' || c == '\u2029' then .ok ([], 1)
      else .ok ([c.toNat], 1)

/-! ### Slots -/

/-- A bracket that is still open inside a slot, with the offset where it opens: the slot itself or
one of a nested template, with its count of open braces, or a quoted string. -/
inductive Opening where
  | slot (depth offset : Nat)
  | quoted (mark : Char) (offset : Nat)
  deriving DecidableEq, Repr

/-- The fault of a text that ends inside a bracket. -/
def Opening.fault : Opening → TemplateFault
  | slot _ offset => .unterminatedSlot offset
  | quoted _ offset => .unterminatedString offset

/-- The character opens a quoted string. -/
def isQuote (c : Char) : Bool :=
  c == '\'' || c == '"' || c == backtick

/-- The characters up to the one that closes the outermost of some brackets, and that one. The
innermost bracket is given apart from those around it. -/
def closing (top : Opening) (around : List Opening) (offset : Nat) :
    List Char → Except TemplateFault (List Char)
  | [] => .error top.fault
  | c :: rest =>
    match top with
    | .slot depth opened =>
      if isQuote c then
        (c :: ·) <$> closing (.quoted c offset) (.slot depth opened :: around) (offset + 1) rest
      else if c == '{' then
        (c :: ·) <$> closing (.slot (depth + 1) opened) around (offset + 1) rest
      else if c == '}' then
        match depth, around with
        | depth + 1, _ => (c :: ·) <$> closing (.slot depth opened) around (offset + 1) rest
        | 0, [] => .ok [c]
        | 0, next :: around => (c :: ·) <$> closing next around (offset + 1) rest
      else (c :: ·) <$> closing top around (offset + 1) rest
    | .quoted mark opened =>
      if c == '\\' then
        match rest with
        | [] => .error top.fault
        | d :: rest => (fun read => c :: d :: read) <$> closing top around (offset + 2) rest
      else if c == mark then
        match around with
        | [] => .ok [c]
        | next :: around => (c :: ·) <$> closing next around (offset + 1) rest
      else if mark == backtick && c == '$' then
        match rest with
        | '{' :: rest =>
          (fun read => c :: '{' :: read) <$>
            closing (.slot 0 offset) (.quoted mark opened :: around) (offset + 2) rest
        | rest => (c :: ·) <$> closing top around (offset + 1) rest
      else (c :: ·) <$> closing top around (offset + 1) rest

/-- A name that may stand alone in a slot: letters, digits, underscores and dollar signs of ASCII,
the first no digit. -/
def isName : List Char → Bool
  | [] => false
  | c :: rest =>
    (c.isAlpha || c == '_' || c == '$') && rest.all fun c => c.isAlphanum || c == '_' || c == '$'

/-- The expression that the text of a slot stands for, unless it is blank. -/
def slotExpression? (text : List Char) : Option Node :=
  match Text.trim text with
  | [] => none
  | trimmed =>
    if isName trimmed then some (.identifier (String.ofList trimmed))
    else some (.rawExpression (String.ofList trimmed))

/-! ### Reading -/

/-- A piece of a template's body: a cooked code point or a slot. -/
inductive Token where
  | point (code : Nat)
  | slot (expression : Node)
  deriving Inhabited

/-- The pieces of a body, from an offset on; the first `skip` characters belong to the piece before
them. -/
def tokens (skip offset : Nat) : List Char → Except TemplateFault (List Token)
  | [] => .ok []
  | c :: rest =>
    match skip with
    | skip + 1 => tokens skip (offset + 1) rest
    | 0 =>
      if c == '\\' then do
        let (codes, length) ← readEscape offset rest
        let after ← tokens length (offset + 1) rest
        return codes.map .point ++ after
      else if c == '$' && rest.head? == some '{' then do
        let slot ← closing (.slot 0 offset) [] (offset + 2) rest.tail
        let some expression := slotExpression? slot.dropLast | throw .emptySlot
        let after ← tokens (slot.length + 1) (offset + 1) rest
        return .slot expression :: after
      else do
        let after ← tokens 0 (offset + 1) rest
        return .point c.toNat :: after

/-- The head and the slots that some pieces make up, texts still as code points. -/
def assemble : List Token → List Nat × List (Node × List Nat)
  | [] => ([], [])
  | .point code :: rest =>
    let (head, spans) := assemble rest
    (code :: head, spans)
  | .slot expression :: rest =>
    let (head, spans) := assemble rest
    ([], (expression, head) :: spans)

/-- The text of some code points; surrogates among them are lost. -/
def textOf (codes : List Nat) : String :=
  String.ofList (Text.ofCodePoints codes)

/-- The template that some pieces make up. -/
def ofTokens (pieces : List Token) : Template :=
  let (head, spans) := assemble pieces
  ⟨textOf head, spans.map fun span => ⟨span.1, textOf span.2⟩⟩

end TemplateText

/-- Read the body of a template. A surrogate that an escape writes is lost: with its other half
right behind it, it becomes the character of the pair, and else the replacement character. -/
def Template.parse (body : String) : Except TemplateFault Template :=
  TemplateText.ofTokens <$> TemplateText.tokens 0 0 body.toList

end Polyglot.Source
