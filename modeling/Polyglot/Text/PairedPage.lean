import Polyglot.Text.Table.Big5
import Polyglot.Text.Table.Gbk
import Polyglot.Text.Table.JisX0208
import Polyglot.Text.Table.KsX1001

/-!
# Paired pages

Encodings with one byte for the characters of the code of seven bits and two bytes for most others.
The first of two bytes, the lead, chooses a row of a table, and the second, the trail, a character
of the row. In a row a full stop stands for no character. Names are written in capitals.
-/

namespace Polyglot.Text

/-- An encoding with one or two bytes for each character. -/
structure PairedPage where
  names : List String
  /-- The lead bytes in the order of the rows, as ranges. -/
  leads : List (Nat × Nat)
  /-- The trail bytes in the order of the characters of a row, as ranges. -/
  trails : List (Nat × Nat)
  rows : List String
  /-- Ranges of single bytes, each with the number of its first character, that do not stand for the
  characters of the same numbers. -/
  singles : List ((Nat × Nat) × Nat) := []
  deriving Repr

namespace PairedPage

/-! ### Decoding -/

/-- The place of a number in ranges that follow each other. -/
def placeIn? : (ranges : List (Nat × Nat)) → Nat → Option Nat
  | [], _ => none
  | (first, last) :: ranges, n =>
    if first ≤ n && n ≤ last then some (n - first)
    else (placeIn? ranges n).map (· + (last + 1 - first))

/-- The character of a single byte. -/
def single? (page : PairedPage) (byte : UInt8) : Option Char :=
  let n := byte.toNat
  match page.singles.find? fun (range, _) => range.1 ≤ n && n ≤ range.2 with
  | some (range, start) => some (Char.ofNat (start + (n - range.1)))
  | none => if n < 0x80 then some (Char.ofNat n) else none

/-- The character of two bytes, given the characters of the rows. -/
def pair? (page : PairedPage) (table : Array (Array Char)) (lead trail : UInt8) : Option Char := do
  let row ← table[← placeIn? page.leads lead.toNat]?
  let c ← row[← placeIn? page.trails trail.toNat]?
  if c == '.' then none else some c

/-- The characters of some bytes, given the characters of the rows. -/
def decodeWith? (page : PairedPage) (table : Array (Array Char)) : List UInt8 → Option (List Char)
  | [] => some []
  | [byte] => (page.single? byte).map ([·])
  | byte :: trail :: bytes =>
    match page.single? byte with
    | some c => (c :: ·) <$> decodeWith? page table (trail :: bytes)
    | none => do
      let c ← page.pair? table byte trail
      return c :: (← decodeWith? page table bytes)

/-- The characters of some bytes, if all of them stand for some. -/
def decode? (page : PairedPage) (bytes : List UInt8) : Option (List Char) :=
  page.decodeWith? (page.rows.map fun row => row.toList.toArray).toArray bytes

/-! ### Rows -/

/-- A row of a given length, without characters behind its end. -/
def padded (length : Nat) (row : List Char) : List Char :=
  row ++ List.replicate (length - row.length) '.'

/-- Rows joined two by two, where a row has a given length. -/
def joinRows (length : Nat) : List String → List String
  | first :: second :: rows =>
    String.ofList (padded length first.toList ++ second.toList) :: joinRows length rows
  | rows => rows

/-- Rows of a given length from characters that follow each other. -/
def cutRows (length : Nat) : (count : Nat) → List Char → List String
  | 0, _ => []
  | count + 1, chars =>
    String.ofList (chars.take length) :: cutRows length count (chars.drop length)

/-- The rows with other characters in front of them, of which each takes a given number. -/
def frontRows (length : Nat) : (front : List Char) → List String → List String
  | _, [] => []
  | front, row :: rows =>
    String.ofList (padded length (front.take length) ++ row.toList) ::
      frontRows length (front.drop length) rows

/-- The ascending characters that are not among others, also ascending. -/
def difference : List Char → List Char → List Char
  | [], _ => []
  | chars, [] => chars
  | c :: chars, d :: others =>
    if c == d then difference chars others
    else c :: difference chars (d :: others)

/-! ### Pages -/

/-- The bytes with the highest bit, without the control characters among them. -/
def upper : Nat × Nat := (0xa1, 0xfe)

/-- The katakana of half width. -/
def halfKatakana : String :=
  String.ofList ((List.range 63).map fun n => Char.ofNat (0xff61 + n))

/-- Japanese with both bytes in the upper half. -/
def eucJp : PairedPage where
  names := ["EUC-JP", "EUCJP", "EXTENDED_UNIX_CODE_PACKED_FORMAT_FOR_JAPANESE",
    "CSEUCPKDFMTJAPANESE"]
  leads := [(0x8e, 0x8e), upper]
  trails := [upper]
  rows := halfKatakana :: jisX0208

/-- Japanese with the katakana of half width as single bytes, a yen sign and an overline. -/
def shiftJis : PairedPage where
  names := ["SHIFT_JIS", "SHIFT-JIS", "SJIS", "MS_KANJI", "CSSHIFTJIS"]
  leads := [(0x81, 0x9f), (0xe0, 0xef)]
  trails := [(0x40, 0x7e), (0x80, 0xfc)]
  rows := joinRows 94 jisX0208
  singles := [((0xa1, 0xdf), 0xff61), ((0x5c, 0x5c), 0xa5), ((0x7e, 0x7e), 0x203e)]

/-- Japanese with the katakana of half width as single bytes. -/
def windowsJapanese : PairedPage :=
  { shiftJis with names := ["CP932"], singles := [((0xa1, 0xdf), 0xff61)] }

/-- Korean with both bytes in the upper half. -/
def eucKr : PairedPage where
  names := ["EUC-KR", "EUCKR", "CSEUCKR"]
  leads := [upper]
  trails := [upper]
  rows := ksX1001

/-- The syllables that the Korean set leaves out. -/
def otherSyllables : List Char :=
  let isSyllable (c : Char) : Bool := 0xac00 ≤ c.toNat && c.toNat ≤ 0xd7a3
  difference ((List.range 11172).map fun n => Char.ofNat (0xac00 + n))
    ((ksX1001.flatMap String.toList).filter isSyllable)

/-- Korean with all syllables; those that the set leaves out come in front of its rows. -/
def unifiedHangul : PairedPage where
  names := ["CP949", "UHC"]
  leads := [(0x81, 0xfe)]
  trails := [(0x41, 0x5a), (0x61, 0x7a), (0x81, 0xfe)]
  rows := cutRows 178 32 otherSyllables ++ frontRows 84 (otherSyllables.drop (32 * 178)) ksX1001

/-- Simplified Chinese. -/
def chinese : PairedPage where
  names := ["GBK", "GB18030"]
  leads := [(0x81, 0xfe)]
  trails := [(0x40, 0x7e), (0x80, 0xfe)]
  rows := gbk

/-- Simplified Chinese with the euro as a single byte. -/
def windowsChinese : PairedPage :=
  { chinese with
    names := ["CP936", "MS936", "WINDOWS-936"], singles := [((0x80, 0x80), 0x20ac)] }

/-- Simplified Chinese with both bytes in the upper half. -/
def eucCn : PairedPage where
  names := ["EUC-CN", "EUCCN", "GB2312", "CN-GB", "CSGB2312"]
  leads := [upper]
  trails := [upper]
  rows := (gbk.drop 32).map fun row => String.ofList (row.toList.drop 96)

/-- Traditional Chinese. -/
def traditionalChinese : PairedPage where
  names := ["BIG5", "BIG-5", "BIG-FIVE", "BIGFIVE", "CN-BIG5", "CSBIG5", "CP950", "BIG5-HKSCS",
    "BIG5HKSCS"]
  leads := [(0xa1, 0xf9)]
  trails := [(0x40, 0x7e), upper]
  rows := big5

/-- All paired pages. -/
def all : List PairedPage :=
  [eucJp, shiftJis, windowsJapanese, eucKr, unifiedHangul, chinese, windowsChinese, eucCn,
   traditionalChinese]

/-- The paired page of a given name, in either case. -/
def ofName? (name : String) : Option PairedPage :=
  let name := String.ofList (name.toList.map Char.toUpper)
  all.find? fun page => page.names.contains name

end PairedPage

end Polyglot.Text
