import Polyglot.Text.Hex
import Polyglot.Text.Printable

/-!
# Quoted text

Two ways of quoting a text on one line.

`quoteDouble` writes between double quotes and escapes only the quote, the backslash and the control
characters below the space. `quoteSingle` writes for a reader of messages: between single quotes,
or between double quotes when the text holds a single quote and no double one, and every character
that is not printable is shown by its code point.
-/

namespace Polyglot.Text

/-- One character between double quotes. -/
def quoteDoubleChar (c : Char) : List Char :=
  match c with
  | '"' => ['\\', '"']
  | '\\' => ['\\', '\\']
  | '\n' => ['\\', 'n']
  | '\r' => ['\\', 'r']
  | '\t' => ['\\', 't']
  | '\x08' => ['\\', 'b']
  | '\x0c' => ['\\', 'f']
  | c => if c.toNat < 0x20 then '\\' :: 'u' :: hexPadded 4 c.toNat else [c]

/-- The characters of a text between double quotes. -/
def quoteDoubleChars (text : List Char) : List Char :=
  '"' :: text.flatMap quoteDoubleChar ++ ['"']

/-- A text between double quotes. -/
def quoteDouble (text : String) : String :=
  String.ofList (quoteDoubleChars text.toList)

/-- The quote that surrounds a text in messages: single, unless only double needs no escape. -/
def messageQuote (text : List Char) : Char :=
  if text.contains '\'' && !text.contains '"' then '"' else '\''

/-- One character between the quotes of a message. -/
def quoteSingleChar (mark c : Char) : List Char :=
  if c == mark || c == '\\' then ['\\', c]
  else match c with
    | '\n' => ['\\', 'n']
    | '\r' => ['\\', 'r']
    | '\t' => ['\\', 't']
    | c =>
      if isPrintable c then [c]
      else if c.toNat < 0x100 then '\\' :: 'x' :: hexPadded 2 c.toNat
      else if c.toNat < 0x10000 then '\\' :: 'u' :: hexPadded 4 c.toNat
      else '\\' :: 'U' :: hexPadded 8 c.toNat

/-- A text as messages quote it. -/
def quoteSingle (text : String) : String :=
  let chars := text.toList
  let mark := messageQuote chars
  String.ofList (mark :: chars.flatMap (quoteSingleChar mark) ++ [mark])

/-- A list of texts as messages quote it. -/
def quoteList (texts : List String) : String :=
  "[" ++ ", ".intercalate (texts.map quoteSingle) ++ "]"

end Polyglot.Text
