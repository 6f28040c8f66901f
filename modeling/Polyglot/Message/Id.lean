import Polyglot.Message.Basic
import Polyglot.Text.Hex
import Polyglot.Text.Utf16

/-!
# Message identifiers

The identifier of a message depends only on the shape of its template: the static texts between the
slots and whether it holds markup. It is a letter for the kind and the sixteen hexadecimal digits of
a hash of the texts, joined with the record separator. The hash is FNV-1a in its form for words of
sixty-four bits, taken over code units of sixteen bits.
-/

namespace Polyglot.MessageId

/-- The value of the hash before any code unit. -/
def basis : UInt64 := 0xcbf29ce484222325

/-- The factor of the hash. -/
def prime : UInt64 := 0x100000001b3

/-- Take one code unit into the hash. -/
def step (hash : UInt64) (unit : UInt16) : UInt64 :=
  (hash ^^^ unit.toUInt64) * prime

/-- The hash of some code units. -/
def hashUnits (units : List UInt16) : UInt64 :=
  units.foldl step basis

/-- The hash of a text in hexadecimal digits. -/
def fnv1a64 (text : String) : String :=
  String.ofList (Text.hexPadded 16 (hashUnits (Text.units text.toList)).toNat)

/-- The separator between the static texts of a template. -/
def separator : String := "\x1e"

/-- The text whose hash stands in the identifier of a template with these static texts. -/
def hashedText (strings : List String) : String :=
  separator.intercalate strings

/-- The letter for the kind of a template. -/
def kindLetter (isRich : Bool) : String :=
  if isRich then "h" else "s"

/-- The identifier of a template with these static texts. -/
def ofStrings (strings : List String) (isRich : Bool) : String :=
  kindLetter isRich ++ fnv1a64 (hashedText strings)

end MessageId

/-- The identifier that a message's template has by its shape, whatever the message is named. -/
def ProgramMessage.shapeId (message : ProgramMessage) : Except Source.TemplateFault String :=
  (MessageId.ofStrings · message.isRich) <$> message.contents.templateStrings

end Polyglot
