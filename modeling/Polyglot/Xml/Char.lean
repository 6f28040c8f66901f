/-!
# Characters of documents

The character classes of XML 1.0: what a document may hold at all, what counts as space, and what
names are made of. A qualified name is a name without colons, with another one and a colon in front
if it has a namespace prefix of its own.
-/

namespace Polyglot.Xml

/-- A document may hold the character: not a control other than tab and line ends, and none of the
two noncharacters at the end of the basic plane. -/
def isLegal (c : Char) : Bool :=
  let n := c.toNat
  n == 0x09 || n == 0x0a || n == 0x0d || (0x20 ≤ n && n != 0xfffe && n != 0xffff)

/-- Every character of a text may stand in a document. -/
def isLegalText (text : String) : Bool :=
  text.toList.all isLegal

/-- Space between the parts of markup. -/
def isSpace (c : Char) : Bool :=
  c == ' ' || c == '\t' || c == '\n' || c == '\r'

/-- The character may start a name without colons. -/
def isNameStart (c : Char) : Bool :=
  let n := c.toNat
  c.isAlpha || c == '_' || (0xc0 ≤ n && n ≤ 0x2ff && n != 0xd7 && n != 0xf7) ||
    (0x370 ≤ n && n ≤ 0x1fff && n != 0x37e) || n == 0x200c || n == 0x200d ||
    (0x2070 ≤ n && n ≤ 0x218f) || (0x2c00 ≤ n && n ≤ 0x2fef) || (0x3001 ≤ n && n ≤ 0xd7ff) ||
    (0xf900 ≤ n && n ≤ 0xfdcf) || (0xfdf0 ≤ n && n ≤ 0xfffd) || (0x10000 ≤ n && n ≤ 0xeffff)

/-- The character may stand in a name without colons. -/
def isNameChar (c : Char) : Bool :=
  let n := c.toNat
  isNameStart c || c.isDigit || c == '-' || c == '.' || n == 0xb7 || (0x300 ≤ n && n ≤ 0x36f) ||
    n == 0x203f || n == 0x2040

/-- The text is a name without colons. -/
def isPlainName : List Char → Bool
  | [] => false
  | c :: rest => isNameStart c && rest.all isNameChar

/-- The number of bytes of a text. -/
def byteLength (text : List Char) : Nat :=
  text.foldl (fun length c => length + c.utf8Size) 0

/-- The number of bytes that a name may have. -/
def maxNameLength : Nat := 50000

/-- The text is a mark: some characters of names, colons among them. -/
def isMark (text : List Char) : Bool :=
  !text.isEmpty && text.all fun c => isNameChar c || c == ':'

/-- The text is a name, colons and all, that is not too long. -/
def isName (text : List Char) : Bool :=
  isMark text && (text.head?.all fun c => isNameStart c || c == ':') &&
    byteLength text ≤ maxNameLength

/-- A text without the space at its ends. -/
def trimSpace (text : List Char) : List Char :=
  ((text.dropWhile isSpace).reverse.dropWhile isSpace).reverse

/-- The prefix of a name, if it has one, and the part after it. -/
def splitName (name : String) : Option String × String :=
  let chars := name.toList
  match chars.dropWhile (· != ':') with
  | [] => (none, name)
  | _ :: rest => (some (String.ofList (chars.takeWhile (· != ':'))), String.ofList rest)

/-- The part of a name after its namespace prefix. -/
def localPart (name : String) : String :=
  (splitName name).2

/-- The name is qualified correctly: a name without colons on each side of at most one colon. -/
def isQualified (name : String) : Bool :=
  match splitName name with
  | (none, whole) => isPlainName whole.toList
  | (some front, back) => isPlainName front.toList && isPlainName back.toList

end Polyglot.Xml
