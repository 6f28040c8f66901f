/-!
# Code pages

Encodings with one byte for each character. The bytes in front of a first one stand for the
characters of the same numbers, and the others for the characters of a table, in which a replacement
character stands for none. Names are written in capitals.
-/

namespace Polyglot.Text

/-- An encoding with one byte for each character. -/
structure CodePage where
  names : List String
  /-- The first byte of the table. -/
  first : Nat
  characters : String := ""
  deriving Repr

namespace CodePage

/-- The character of a byte, given the characters of the table. -/
def charOf? (page : CodePage) (table : Array Char) (byte : UInt8) : Option Char :=
  let n := byte.toNat
  if n < page.first then some (Char.ofNat n)
  else table[n - page.first]?.filter (· != '\ufffd')

/-- The characters of some bytes, if each of them stands for one. -/
def decode? (page : CodePage) (bytes : List UInt8) : Option (List Char) :=
  bytes.mapM (page.charOf? page.characters.toList.toArray)

/-- The code of seven bits. -/
def ascii : CodePage where
  names := ["ASCII", "US-ASCII", "US", "ISO646-US", "ISO-IR-6", "ANSI_X3.4-1968", "ANSI_X3.4-1986",
    "CP367", "IBM367", "CSASCII"]
  first := 0x80

/-- Western European letters. -/
def latin1 : CodePage where
  names := ["ISO-8859-1", "ISO_8859-1", "ISO8859-1", "ISO-IR-100", "CP819", "IBM819", "LATIN1",
    "L1", "CSISOLATIN1", "ISO-LATIN-1"]
  first := 0x100

/-- Central European letters. -/
def latin2 : CodePage where
  names := ["ISO-8859-2", "ISO_8859-2", "ISO8859-2", "ISO-IR-101", "LATIN2", "L2", "CSISOLATIN2",
    "ISO-LATIN-2"]
  first := 0xa0
  characters :=
    "\xa0Ą\u02d8Ł¤ĽŚ§\xa8ŠŞŤŹ\xadŽŻ°ą\u02dbł\xb4ľś\u02c7\xb8šşťź\u02ddžżŔÁÂĂÄĹĆÇČÉĘËĚÍÎĎĐŃŇÓÔŐ" ++
    "Ö×ŘŮÚŰÜÝŢßŕáâăäĺćçčéęëěíîďđńňóôőö÷řůúűüýţ\u02d9"

/-- South European letters. -/
def latin3 : CodePage where
  names := ["ISO-8859-3", "ISO_8859-3", "ISO8859-3", "ISO-IR-109", "LATIN3", "L3", "CSISOLATIN3"]
  first := 0xa0
  characters :=
    "\xa0Ħ\u02d8£¤\ufffdĤ§\xa8İŞĞĴ\xad\ufffdŻ°ħ²³\xb4µĥ·\xb8ışğĵ½\ufffdżÀÁÂ\ufffdÄĊĈÇÈÉÊËÌÍÎÏ" ++
    "\ufffdÑÒÓÔĠÖ×ĜÙÚÛÜŬŜßàáâ\ufffdäċĉçèéêëìíîï\ufffdñòóôġö÷ĝùúûüŭŝ\u02d9"

/-- North European letters. -/
def latin4 : CodePage where
  names := ["ISO-8859-4", "ISO_8859-4", "ISO8859-4", "ISO-IR-110", "LATIN4", "L4", "CSISOLATIN4"]
  first := 0xa0
  characters :=
    "\xa0ĄĸŖ¤ĨĻ§\xa8ŠĒĢŦ\xadŽ\xaf°ą\u02dbŗ\xb4ĩļ\u02c7\xb8šēģŧŊžŋĀÁÂÃÄÅÆĮČÉĘËĖÍÎĪĐŅŌĶÔÕÖ×ØŲÚÛÜ" ++
    "ŨŪßāáâãäåæįčéęëėíîīđņōķôõö÷øųúûüũū\u02d9"

/-- Latin and Cyrillic letters. -/
def isoCyrillic : CodePage where
  names := ["ISO-8859-5", "ISO_8859-5", "ISO8859-5", "ISO-IR-144", "CYRILLIC", "CSISOLATINCYRILLIC"]
  first := 0xa0
  characters :=
    "\xa0ЁЂЃЄЅІЇЈЉЊЋЌ\xadЎЏАБВГДЕЖЗИЙКЛМНОПРСТУФХЦЧШЩЪЫЬЭЮЯабвгдежзийклмнопрстуфхцчшщъыьэюя№ёђ" ++
    "ѓєѕіїјљњћќ§ўџ"

/-- Latin and Arabic letters. -/
def isoArabic : CodePage where
  names := ["ISO-8859-6", "ISO_8859-6", "ISO8859-6", "ISO-IR-127", "ECMA-114", "ASMO-708", "ARABIC",
    "CSISOLATINARABIC"]
  first := 0xa0
  characters :=
    "\xa0\ufffd\ufffd\ufffd¤\ufffd\ufffd\ufffd\ufffd\ufffd\ufffd\ufffd،\xad\ufffd\ufffd\ufffd" ++
    "\ufffd\ufffd\ufffd\ufffd\ufffd\ufffd\ufffd\ufffd\ufffd\ufffd\u061b\ufffd\ufffd\ufffd" ++
    "\u061f\ufffd\u0621\u0622\u0623\u0624\u0625\u0626\u0627\u0628\u0629\u062a\u062b\u062c" ++
    "\u062d\u062e\u062f\u0630\u0631\u0632\u0633\u0634\u0635\u0636\u0637\u0638\u0639\u063a" ++
    "\ufffd\ufffd\ufffd\ufffd\ufffd\u0640\u0641\u0642\u0643\u0644\u0645\u0646\u0647\u0648" ++
    "\u0649\u064a\u064b\u064c\u064d\u064e\u064f\u0650\u0651\u0652\ufffd\ufffd\ufffd\ufffd" ++
    "\ufffd\ufffd\ufffd\ufffd\ufffd\ufffd\ufffd\ufffd\ufffd"

/-- Latin and Greek letters. -/
def isoGreek : CodePage where
  names := ["ISO-8859-7", "ISO_8859-7", "ISO8859-7", "ISO-IR-126", "ECMA-118", "ELOT_928", "GREEK8",
    "GREEK", "CSISOLATINGREEK"]
  first := 0xa0
  characters :=
    "\xa0‘’£€₯¦§\xa8©\u037a«¬\xad\ufffd―°±²³\u0384\u0385Ά·ΈΉΊ»Ό½ΎΏΐΑΒΓΔΕΖΗΘΙΚΛΜΝΞΟΠΡ\ufffdΣΤΥΦ" ++
    "ΧΨΩΪΫάέήίΰαβγδεζηθικλμνξοπρςστυφχψωϊϋόύώ\ufffd"

/-- Latin and Hebrew letters. -/
def isoHebrew : CodePage where
  names := ["ISO-8859-8", "ISO_8859-8", "ISO8859-8", "ISO-IR-138", "HEBREW", "CSISOLATINHEBREW"]
  first := 0xa0
  characters :=
    "\xa0\ufffd¢£¤¥¦§\xa8©×«¬\xad®\xaf°±²³\xb4µ¶·\xb8¹÷»¼½¾\ufffd\ufffd\ufffd\ufffd\ufffd" ++
    "\ufffd\ufffd\ufffd\ufffd\ufffd\ufffd\ufffd\ufffd\ufffd\ufffd\ufffd\ufffd\ufffd\ufffd" ++
    "\ufffd\ufffd\ufffd\ufffd\ufffd\ufffd\ufffd\ufffd\ufffd\ufffd\ufffd\ufffd\ufffd‗\u05d0" ++
    "\u05d1\u05d2\u05d3\u05d4\u05d5\u05d6\u05d7\u05d8\u05d9\u05da\u05db\u05dc\u05dd\u05de" ++
    "\u05df\u05e0\u05e1\u05e2\u05e3\u05e4\u05e5\u05e6\u05e7\u05e8\u05e9\u05ea\ufffd\ufffd" ++
    "\u200e\u200f\ufffd"

/-- Turkish letters. -/
def latin5 : CodePage where
  names := ["ISO-8859-9", "ISO_8859-9", "ISO8859-9", "ISO-IR-148", "LATIN5", "L5", "CSISOLATIN5"]
  first := 0xa0
  characters :=
    "\xa0¡¢£¤¥¦§\xa8©ª«¬\xad®\xaf°±²³\xb4µ¶·\xb8¹º»¼½¾¿ÀÁÂÃÄÅÆÇÈÉÊËÌÍÎÏĞÑÒÓÔÕÖ×ØÙÚÛÜİŞßàáâãäåæ" ++
    "çèéêëìíîïğñòóôõö÷øùúûüışÿ"

/-- Nordic letters. -/
def latin6 : CodePage where
  names := ["ISO-8859-10", "ISO_8859-10", "ISO8859-10", "ISO-IR-157", "LATIN6", "L6", "CSISOLATIN6"]
  first := 0xa0
  characters :=
    "\xa0ĄĒĢĪĨĶ§ĻĐŠŦŽ\xadŪŊ°ąēģīĩķ·ļđšŧž―ūŋĀÁÂÃÄÅÆĮČÉĘËĖÍÎÏÐŅŌÓÔÕÖŨØŲÚÛÜÝÞßāáâãäåæįčéęëėíîïðņō" ++
    "óôõöũøųúûüýþĸ"

/-- Latin and Thai letters. -/
def isoThai : CodePage where
  names := ["ISO-8859-11", "ISO_8859-11", "ISO8859-11"]
  first := 0xa0
  characters :=
    "\xa0กขฃคฅฆงจฉชซฌญฎฏฐฑฒณดตถทธนบปผฝพฟภมยรฤลฦวศษสหฬอฮฯะ\u0e31าำ\u0e34\u0e35\u0e36\u0e37" ++
    "\u0e38\u0e39\u0e3a\ufffd\ufffd\ufffd\ufffd฿เแโใไๅ\u0e46\u0e47\u0e48\u0e49\u0e4a\u0e4b" ++
    "\u0e4c\u0e4d\u0e4e๏๐๑๒๓๔๕๖๗๘๙๚๛\ufffd\ufffd\ufffd\ufffd"

/-- Baltic letters. -/
def latin7 : CodePage where
  names := ["ISO-8859-13", "ISO_8859-13", "ISO8859-13", "ISO-IR-179", "LATIN7", "L7"]
  first := 0xa0
  characters :=
    "\xa0”¢£¤„¦§Ø©Ŗ«¬\xad®Æ°±²³“µ¶·ø¹ŗ»¼½¾æĄĮĀĆÄÅĘĒČÉŹĖĢĶĪĻŠŃŅÓŌÕÖ×ŲŁŚŪÜŻŽßąįāćäåęēčéźėģķīļšńņ" ++
    "óōõö÷ųłśūüżž’"

/-- Celtic letters. -/
def latin8 : CodePage where
  names := ["ISO-8859-14", "ISO_8859-14", "ISO8859-14", "ISO-IR-199", "LATIN8", "L8", "ISO-CELTIC"]
  first := 0xa0
  characters :=
    "\xa0Ḃḃ£ĊċḊ§Ẁ©ẂḋỲ\xad®ŸḞḟĠġṀṁ¶ṖẁṗẃṠỳẄẅṡÀÁÂÃÄÅÆÇÈÉÊËÌÍÎÏŴÑÒÓÔÕÖṪØÙÚÛÜÝŶßàáâãäåæçèéêëìíîïŵñò" ++
    "óôõöṫøùúûüýŷÿ"

/-- Western European letters with the euro. -/
def latin9 : CodePage where
  names := ["ISO-8859-15", "ISO_8859-15", "ISO8859-15", "ISO-IR-203", "LATIN-9"]
  first := 0xa0
  characters :=
    "\xa0¡¢£€¥Š§š©ª«¬\xad®\xaf°±²³Žµ¶·ž¹º»ŒœŸ¿ÀÁÂÃÄÅÆÇÈÉÊËÌÍÎÏÐÑÒÓÔÕÖ×ØÙÚÛÜÝÞßàáâãäåæçèéêëìíîï" ++
    "ðñòóôõö÷øùúûüýþÿ"

/-- South-eastern European letters. -/
def latin10 : CodePage where
  names := ["ISO-8859-16", "ISO_8859-16", "ISO8859-16", "ISO-IR-226", "LATIN10", "L10"]
  first := 0xa0
  characters :=
    "\xa0ĄąŁ€„Š§š©Ș«Ź\xadźŻ°±ČłŽ”¶·žčș»ŒœŸżÀÁÂĂÄĆÆÇÈÉÊËÌÍÎÏĐŃÒÓÔŐÖŚŰÙÚÛÜĘȚßàáâăäćæçèéêëìíîïđńò" ++
    "óôőöśűùúûüęțÿ"

/-- Russian letters in the order of the Latin ones. -/
def koi8R : CodePage where
  names := ["KOI8-R", "CSKOI8R"]
  first := 0x80
  characters :=
    "─│┌┐└┘├┤┬┴┼▀▄█▌▐░▒▓⌠■∙√≈≤≥\xa0⌡°²·÷═║╒ё╓╔╕╖╗╘╙╚╛╜╝╞╟╠╡Ё╢╣╤╥╦╧╨╩╪╫╬©юабцдефгхийклмнопярсту" ++
    "жвьызшэщчъЮАБЦДЕФГХИЙКЛМНОПЯРСТУЖВЬЫЗШЭЩЧЪ"

/-- Ukrainian letters in the order of the Latin ones. -/
def koi8U : CodePage where
  names := ["KOI8-U"]
  first := 0x80
  characters :=
    "─│┌┐└┘├┤┬┴┼▀▄█▌▐░▒▓⌠■∙√≈≤≥\xa0⌡°²·÷═║╒ёє╔ії╗╘╙╚╛ґ╝╞╟╠╡ЁЄ╣ІЇ╦╧╨╩╪Ґ╬©юабцдефгхийклмнопярсту" ++
    "жвьызшэщчъЮАБЦДЕФГХИЙКЛМНОПЯРСТУЖВЬЫЗШЭЩЧЪ"

/-- Tajik letters in the order of the Latin ones. -/
def koi8T : CodePage where
  names := ["KOI8-T"]
  first := 0x80
  characters :=
    "қғ‚Ғ„…†‡\ufffd‰ҳ‹ҲҷҶ\ufffdҚ‘’“”•–—\ufffd™\ufffd›\ufffd\ufffd\ufffd\ufffd\ufffdӯӮё¤ӣ¦§" ++
    "\ufffd\ufffd\ufffd«¬\xad®\ufffd°±²Ё\ufffdӢ¶·\ufffd№\ufffd»\ufffd\ufffd\ufffd©юабцдефгхийк" ++
    "лмнопярстужвьызшэщчъЮАБЦДЕФГХИЙКЛМНОПЯРСТУЖВЬЫЗШЭЩЧЪ"

/-- Central European letters with typographic marks. -/
def windowsCentral : CodePage where
  names := ["WINDOWS-1250", "CP1250", "MS-EE"]
  first := 0x80
  characters :=
    "€\ufffd‚\ufffd„…†‡\ufffd‰Š‹ŚŤŽŹ\ufffd‘’“”•–—\ufffd™š›śťžź\xa0\u02c7\u02d8Ł¤Ą¦§\xa8©Ş«¬" ++
    "\xad®Ż°±\u02dbł\xb4µ¶·\xb8ąş»Ľ\u02ddľżŔÁÂĂÄĹĆÇČÉĘËĚÍÎĎĐŃŇÓÔŐÖ×ŘŮÚŰÜÝŢßŕáâăäĺćçčéęëěíîďđńň" ++
    "óôőö÷řůúűüýţ\u02d9"

/-- Cyrillic letters with typographic marks. -/
def windowsCyrillic : CodePage where
  names := ["WINDOWS-1251", "CP1251", "MS-CYRL"]
  first := 0x80
  characters :=
    "ЂЃ‚ѓ„…†‡€‰Љ‹ЊЌЋЏђ‘’“”•–—\ufffd™љ›њќћџ\xa0ЎўЈ¤Ґ¦§Ё©Є«¬\xad®Ї°±Ііґµ¶·ё№є»јЅѕїАБВГДЕЖЗИЙКЛМН" ++
    "ОПРСТУФХЦЧШЩЪЫЬЭЮЯабвгдежзийклмнопрстуфхцчшщъыьэюя"

/-- Western European letters with typographic marks, and control characters for all other bytes. -/
def windowsWeb : CodePage where
  names := ["WINDOWS-1252"]
  first := 0x80
  characters :=
    "€\x81‚ƒ„…†‡\u02c6‰Š‹Œ\x8dŽ\x8f\x90‘’“”•–—\u02dc™š›œ\x9džŸ\xa0¡¢£¤¥¦§\xa8©ª«¬\xad®\xaf°±²³" ++
    "\xb4µ¶·\xb8¹º»¼½¾¿ÀÁÂÃÄÅÆÇÈÉÊËÌÍÎÏÐÑÒÓÔÕÖ×ØÙÚÛÜÝÞßàáâãäåæçèéêëìíîïðñòóôõö÷øùúûüýþÿ"

/-- Western European letters with typographic marks. -/
def windowsWestern : CodePage where
  names := ["CP1252", "MS-ANSI"]
  first := 0x80
  characters :=
    "€\ufffd‚ƒ„…†‡\u02c6‰Š‹Œ\ufffdŽ\ufffd\ufffd‘’“”•–—\u02dc™š›œ\ufffdžŸ\xa0¡¢£¤¥¦§\xa8©ª«¬" ++
    "\xad®\xaf°±²³\xb4µ¶·\xb8¹º»¼½¾¿ÀÁÂÃÄÅÆÇÈÉÊËÌÍÎÏÐÑÒÓÔÕÖ×ØÙÚÛÜÝÞßàáâãäåæçèéêëìíîïðñòóôõö÷øù" ++
    "úûüýþÿ"

/-- Greek letters with typographic marks. -/
def windowsGreek : CodePage where
  names := ["WINDOWS-1253", "CP1253", "MS-GREEK"]
  first := 0x80
  characters :=
    "€\ufffd‚ƒ„…†‡\ufffd‰\ufffd‹\ufffd\ufffd\ufffd\ufffd\ufffd‘’“”•–—\ufffd™\ufffd›\ufffd" ++
    "\ufffd\ufffd\ufffd\xa0\u0385Ά£¤¥¦§\xa8©\ufffd«¬\xad®―°±²³\u0384µ¶·ΈΉΊ»Ό½ΎΏΐΑΒΓΔΕΖΗΘΙΚΛΜΝΞ" ++
    "ΟΠΡ\ufffdΣΤΥΦΧΨΩΪΫάέήίΰαβγδεζηθικλμνξοπρςστυφχψωϊϋόύώ\ufffd"

/-- Turkish letters with typographic marks. -/
def windowsTurkish : CodePage where
  names := ["WINDOWS-1254", "CP1254", "MS-TURK"]
  first := 0x80
  characters :=
    "€\ufffd‚ƒ„…†‡\u02c6‰Š‹Œ\ufffd\ufffd\ufffd\ufffd‘’“”•–—\u02dc™š›œ\ufffd\ufffdŸ\xa0¡¢£¤¥¦§" ++
    "\xa8©ª«¬\xad®\xaf°±²³\xb4µ¶·\xb8¹º»¼½¾¿ÀÁÂÃÄÅÆÇÈÉÊËÌÍÎÏĞÑÒÓÔÕÖ×ØÙÚÛÜİŞßàáâãäåæçèéêëìíîïğñ" ++
    "òóôõö÷øùúûüışÿ"

/-- Hebrew letters with typographic marks. -/
def windowsHebrew : CodePage where
  names := ["WINDOWS-1255", "CP1255", "MS-HEBR"]
  first := 0x80
  characters :=
    "€\ufffd‚ƒ„…†‡\u02c6‰\ufffd‹\ufffd\ufffd\ufffd\ufffd\ufffd‘’“”•–—\u02dc™\ufffd›\ufffd" ++
    "\ufffd\ufffd\ufffd\xa0¡¢£₪¥¦§\xa8©×«¬\xad®\xaf°±²³\xb4µ¶·\xb8¹÷»¼½¾¿\u05b0\u05b1\u05b2" ++
    "\u05b3\u05b4\u05b5\u05b6\u05b7\u05b8\u05b9\ufffd\u05bb\u05bc\u05bd\u05be\u05bf\u05c0" ++
    "\u05c1\u05c2\u05c3\u05f0\u05f1\u05f2\u05f3\u05f4\ufffd\ufffd\ufffd\ufffd\ufffd\ufffd" ++
    "\ufffd\u05d0\u05d1\u05d2\u05d3\u05d4\u05d5\u05d6\u05d7\u05d8\u05d9\u05da\u05db\u05dc" ++
    "\u05dd\u05de\u05df\u05e0\u05e1\u05e2\u05e3\u05e4\u05e5\u05e6\u05e7\u05e8\u05e9\u05ea" ++
    "\ufffd\ufffd\u200e\u200f\ufffd"

/-- Arabic letters with typographic marks. -/
def windowsArabic : CodePage where
  names := ["WINDOWS-1256", "CP1256", "MS-ARAB"]
  first := 0x80
  characters :=
    "€\u067e‚ƒ„…†‡\u02c6‰\u0679‹Œ\u0686\u0698\u0688\u06af‘’“”•–—\u06a9™\u0691›œ\u200c\u200d" ++
    "\u06ba\xa0،¢£¤¥¦§\xa8©\u06be«¬\xad®\xaf°±²³\xb4µ¶·\xb8¹\u061b»¼½¾\u061f\u06c1\u0621\u0622" ++
    "\u0623\u0624\u0625\u0626\u0627\u0628\u0629\u062a\u062b\u062c\u062d\u062e\u062f\u0630" ++
    "\u0631\u0632\u0633\u0634\u0635\u0636×\u0637\u0638\u0639\u063a\u0640\u0641\u0642\u0643à" ++
    "\u0644â\u0645\u0646\u0647\u0648çèéêë\u0649\u064aîï\u064b\u064c\u064d\u064eô\u064f\u0650÷" ++
    "\u0651ù\u0652ûü\u200e\u200f\u06d2"

/-- Baltic letters with typographic marks. -/
def windowsBaltic : CodePage where
  names := ["WINDOWS-1257", "CP1257", "WINBALTRIM"]
  first := 0x80
  characters :=
    "€\ufffd‚\ufffd„…†‡\ufffd‰\ufffd‹\ufffd\xa8\u02c7\xb8\ufffd‘’“”•–—\ufffd™\ufffd›\ufffd\xaf" ++
    "\u02db\ufffd\xa0\ufffd¢£¤\ufffd¦§Ø©Ŗ«¬\xad®Æ°±²³\xb4µ¶·ø¹ŗ»¼½¾æĄĮĀĆÄÅĘĒČÉŹĖĢĶĪĻŠŃŅÓŌÕÖ×ŲŁ" ++
    "ŚŪÜŻŽßąįāćäåęēčéźėģķīļšńņóōõö÷ųłśūüżž\u02d9"

/-- Vietnamese letters with typographic marks. -/
def windowsVietnamese : CodePage where
  names := ["WINDOWS-1258", "CP1258"]
  first := 0x80
  characters :=
    "€\ufffd‚ƒ„…†‡\u02c6‰\ufffd‹Œ\ufffd\ufffd\ufffd\ufffd‘’“”•–—\u02dc™\ufffd›œ\ufffd\ufffdŸ" ++
    "\xa0¡¢£¤¥¦§\xa8©ª«¬\xad®\xaf°±²³\xb4µ¶·\xb8¹º»¼½¾¿ÀÁÂĂÄÅÆÇÈÉÊË\u0300ÍÎÏĐÑ\u0309ÓÔƠÖ×ØÙÚÛÜ" ++
    "Ư\u0303ßàáâăäåæçèéêë\u0301íîïđñ\u0323óôơö÷øùúûüư₫ÿ"

/-- Western European letters with boxes. -/
def dosWestern : CodePage where
  names := ["CP850", "IBM850", "CSPC850MULTILINGUAL"]
  first := 0x80
  characters :=
    "ÇüéâäàåçêëèïîìÄÅÉæÆôöòûùÿÖÜø£Ø×ƒáíóúñÑªº¿®¬½¼¡«»░▒▓│┤ÁÂÀ©╣║╗╝¢¥┐└┴┬├─┼ãÃ╚╔╩╦╠═╬¤ðÐÊËÈıÍÎÏ" ++
    "┘┌█▄¦Ì▀ÓßÔÒõÕµþÞÚÛÙýÝ\xaf\xb4\xad±‗¾¶§÷\xb8°\xa8·¹³²■\xa0"

/-- Hebrew letters with boxes. -/
def dosHebrew : CodePage where
  names := ["CP862", "IBM862", "CSPC862LATINHEBREW"]
  first := 0x80
  characters :=
    "\u05d0\u05d1\u05d2\u05d3\u05d4\u05d5\u05d6\u05d7\u05d8\u05d9\u05da\u05db\u05dc\u05dd" ++
    "\u05de\u05df\u05e0\u05e1\u05e2\u05e3\u05e4\u05e5\u05e6\u05e7\u05e8\u05e9\u05ea¢£¥₧ƒáíóúñÑ" ++
    "ªº¿⌐¬½¼¡«»░▒▓│┤╡╢╖╕╣║╗╝╜╛┐└┴┬├─┼╞╟╚╔╩╦╠═╬╧╨╤╥╙╘╒╓╫╪┘┌█▄▌▐▀αßΓπΣσµτΦΘΩδ∞φε∩≡±≥≤⌠⌡÷≈°∙·√" ++
    "\u207f²■\xa0"

/-- Cyrillic letters with boxes. -/
def dosCyrillic : CodePage where
  names := ["CP866", "IBM866", "CSIBM866"]
  first := 0x80
  characters :=
    "АБВГДЕЖЗИЙКЛМНОПРСТУФХЦЧШЩЪЫЬЭЮЯабвгдежзийклмноп░▒▓│┤╡╢╖╕╣║╗╝╜╛┐└┴┬├─┼╞╟╚╔╩╦╠═╬╧╨╤╥╙╘╒╓╫╪" ++
    "┘┌█▄▌▐▀рстуфхцчшщъыьэюяЁёЄєЇїЎў°∙·√№¤■\xa0"

/-- Western European letters with mathematical signs. -/
def macRoman : CodePage where
  names := ["MACINTOSH", "MACROMAN", "MAC", "CSMACINTOSH"]
  first := 0x80
  characters :=
    "ÄÅÇÉÑÖÜáàâäãåçéèêëíìîïñóòôöõúùûü†°¢£§•¶ß®©™\xb4\xa8≠ÆØ∞±≤≥¥µ∂∑∏π∫ªºΩæø¿¡¬√ƒ≈∆«»…\xa0ÀÃÕŒœ" ++
    "–—“”‘’÷◊ÿŸ⁄¤‹›ﬁﬂ‡·‚„‰ÂÊÁËÈÍÎÏÌÓÔ\ufffdÒÚÛÙı\u02c6\u02dc\xaf\u02d8\u02d9\u02da\xb8\u02dd" ++
    "\u02db\u02c7"

/-- Central European letters with mathematical signs. -/
def macCentral : CodePage where
  names := ["MACCENTRALEUROPE"]
  first := 0x80
  characters :=
    "ÄĀāÉĄÖÜáąČäčĆćéŹźĎíďĒēĖóėôöõúĚěü†°Ę£§•¶ß®©™ę\xa8≠ģĮįĪ≤≥īĶ∂∑łĻļĽľĹĺŅņŃ¬√ńŇ∆«»…\xa0ňŐÕőŌ–—“" ++
    "”‘’÷◊ōŔŕŘ‹›řŖŗŠ‚„šŚśÁŤťÍŽžŪÓÔūŮÚůŰűŲųÝýķŻŁżĢ\u02c7"

/-- Icelandic letters with mathematical signs. -/
def macIceland : CodePage where
  names := ["MACICELAND"]
  first := 0x80
  characters :=
    "ÄÅÇÉÑÖÜáàâäãåçéèêëíìîïñóòôöõúùûüÝ°¢£§•¶ß®©™\xb4\xa8≠ÆØ∞±≤≥¥µ∂∑∏π∫ªºΩæø¿¡¬√ƒ≈∆«»…\xa0ÀÃÕŒœ" ++
    "–—“”‘’÷◊ÿŸ⁄€ÐðÞþý·‚„‰ÂÊÁËÈÍÎÏÌÓÔ\ufffdÒÚÛÙı\u02c6\u02dc\xaf\u02d8\u02d9\u02da\xb8\u02dd" ++
    "\u02db\u02c7"

/-- Croatian letters with mathematical signs. -/
def macCroatian : CodePage where
  names := ["MACCROATIAN"]
  first := 0x80
  characters :=
    "ÄÅÇÉÑÖÜáàâäãåçéèêëíìîïñóòôöõúùûü†°¢£§•¶ß®Š™\xb4\xa8≠ŽØ∞±≤≥∆µ∂∑∏š∫ªºΩžø¿¡¬√ƒ≈Ć«Č…\xa0ÀÃÕŒœ" ++
    "Đ—“”‘’÷◊\ufffd©⁄€‹›Æ»–·‚„‰ÂćÁčÈÍÎÏÌÓÔđÒÚÛÙı\u02c6\u02dc\xafπË\u02da\xb8Êæ\u02c7"

/-- Romanian letters with mathematical signs. -/
def macRomania : CodePage where
  names := ["MACROMANIA"]
  first := 0x80
  characters :=
    "ÄÅÇÉÑÖÜáàâäãåçéèêëíìîïñóòôöõúùûü†°¢£§•¶ß®©™\xb4\xa8≠ĂȘ∞±≤≥¥µ∂∑∏π∫ªºΩăș¿¡¬√ƒ≈∆«»…\xa0ÀÃÕŒœ" ++
    "–—“”‘’÷◊ÿŸ⁄€‹›Țț‡·‚„‰ÂÊÁËÈÍÎÏÌÓÔ\ufffdÒÚÛÙı\u02c6\u02dc\xaf\u02d8\u02d9\u02da\xb8\u02dd" ++
    "\u02db\u02c7"

/-- Cyrillic letters with mathematical signs. -/
def macCyrillic : CodePage where
  names := ["MACCYRILLIC"]
  first := 0x80
  characters :=
    "АБВГДЕЖЗИЙКЛМНОПРСТУФХЦЧШЩЪЫЬЭЮЯ†°Ґ£§•¶І®©™Ђђ≠Ѓѓ∞±≤≥іµґЈЄєЇїЉљЊњјЅ¬√ƒ≈∆«»…\xa0ЋћЌќѕ–—“”‘’" ++
    "÷„ЎўЏџ№Ёёяабвгдежзийклмнопрстуфхцчшщъыьэю€"

/-- Greek letters with mathematical signs. -/
def macGreek : CodePage where
  names := ["MACGREEK"]
  first := 0x80
  characters :=
    "Ä¹²É³ÖÜ\u0385àâä\u0384\xa8çéèêë£™îï•½‰ôö¦€ùûü†ΓΔΘΛΞΠß®©ΣΪ§≠°·Α±≤≥¥ΒΕΖΗΙΚΜΦΫΨΩάΝ¬ΟΡ≈Τ«»…" ++
    "\xa0ΥΧΆΈœ–―“”‘’÷ΉΊΌΎέήίόΏύαβψδεφγηιξκλμνοπώρστθωςχυζϊϋΐΰ\xad"

/-- Turkish letters with mathematical signs. -/
def macTurkish : CodePage where
  names := ["MACTURKISH"]
  first := 0x80
  characters :=
    "ÄÅÇÉÑÖÜáàâäãåçéèêëíìîïñóòôöõúùûü†°¢£§•¶ß®©™\xb4\xa8≠ÆØ∞±≤≥¥µ∂∑∏π∫ªºΩæø¿¡¬√ƒ≈∆«»…\xa0ÀÃÕŒœ" ++
    "–—“”‘’÷◊ÿŸĞğİıŞş‡·‚„‰ÂÊÁËÈÍÎÏÌÓÔ\ufffdÒÚÛÙ\ufffd\u02c6\u02dc\xaf\u02d8\u02d9\u02da\xb8" ++
    "\u02dd\u02db\u02c7"

/-- Western European letters of printers. -/
def hpRoman8 : CodePage where
  names := ["HP-ROMAN8", "ROMAN8", "R8", "CSHPROMAN8"]
  first := 0x80
  characters :=
    "\x80\x81\x82\x83\x84\x85\x86\x87\x88\x89\x8a\x8b\x8c\x8d\x8e\x8f\x90\x91\x92\x93\x94\x95" ++
    "\x96\x97\x98\x99\x9a\x9b\x9c\x9d\x9e\x9f\xa0ÀÂÈÊËÎÏ\xb4\u02cb\u02c6\xa8\u02dcÙÛ₤\xafÝý°Çç" ++
    "Ññ¡¿¤£¥§ƒ¢âêôûáéóúàèòùäëöüÅîØÆåíøæÄìÖÜÉïßÔÁÃãÐðÍÌÓÒÕõŠšÚŸÿÞþ·µ¶¾—¼½ªº«■»±\ufffd"

/-- Cyrillic letters of Asian languages. -/
def pt154 : CodePage where
  names := ["PT154", "PTCP154", "CP154", "CYRILLIC-ASIAN", "CSPTCP154"]
  first := 0x80
  characters :=
    "ҖҒӮғ„…ҶҮҲүҠӢҢҚҺҸҗ‘’“”•–—ҳҷҡӣңқһҹ\xa0ЎўЈӨҘҰ§Ё©Ә«¬ӯ®Ҝ°ұІіҙө¶·ё№ә»јҪҫҝАБВГДЕЖЗИЙКЛМНОПРСТУФХ" ++
    "ЦЧШЩЪЫЬЭЮЯабвгдежзийклмнопрстуфхцчшщъыьэюя"

/-- Kazakh letters. -/
def kz1048 : CodePage where
  names := ["KZ-1048", "RK1048", "STRK1048-2002", "CSKZ1048"]
  first := 0x80
  characters :=
    "ЂЃ‚ѓ„…†‡€‰Љ‹ЊҚҺЏђ‘’“”•–—\ufffd™љ›њқһџ\xa0ҰұӘ¤Ө¦§Ё©Ғ«¬\xad®Ү°±Ііөµ¶·ё№ғ»әҢңүАБВГДЕЖЗИЙКЛМН" ++
    "ОПРСТУФХЦЧШЩЪЫЬЭЮЯабвгдежзийклмнопрстуфхцчшщъыьэюя"

/-- Thai letters. -/
def tis620 : CodePage where
  names := ["TIS-620", "TIS620", "TIS620-0", "TIS620.2529-1", "TIS620.2533-0", "TIS620.2533-1",
    "ISO-IR-166"]
  first := 0x80
  characters :=
    "\ufffd\ufffd\ufffd\ufffd\ufffd\ufffd\ufffd\ufffd\ufffd\ufffd\ufffd\ufffd\ufffd\ufffd" ++
    "\ufffd\ufffd\ufffd\ufffd\ufffd\ufffd\ufffd\ufffd\ufffd\ufffd\ufffd\ufffd\ufffd\ufffd" ++
    "\ufffd\ufffd\ufffd\ufffd\ufffdกขฃคฅฆงจฉชซฌญฎฏฐฑฒณดตถทธนบปผฝพฟภมยรฤลฦวศษสหฬอฮฯะ\u0e31าำ" ++
    "\u0e34\u0e35\u0e36\u0e37\u0e38\u0e39\u0e3a\ufffd\ufffd\ufffd\ufffd฿เแโใไๅ\u0e46\u0e47" ++
    "\u0e48\u0e49\u0e4a\u0e4b\u0e4c\u0e4d\u0e4e๏๐๑๒๓๔๕๖๗๘๙๚๛\ufffd\ufffd\ufffd\ufffd"

/-- Thai letters with typographic marks. -/
def windowsThai : CodePage where
  names := ["CP874", "WINDOWS-874"]
  first := 0x80
  characters :=
    "€\ufffd\ufffd\ufffd\ufffd…\ufffd\ufffd\ufffd\ufffd\ufffd\ufffd\ufffd\ufffd\ufffd\ufffd" ++
    "\ufffd‘’“”•–—\ufffd\ufffd\ufffd\ufffd\ufffd\ufffd\ufffd\ufffd\xa0กขฃคฅฆงจฉชซฌญฎฏฐฑฒณดตถทธ" ++
    "นบปผฝพฟภมยรฤลฦวศษสหฬอฮฯะ\u0e31าำ\u0e34\u0e35\u0e36\u0e37\u0e38\u0e39\u0e3a\ufffd\ufffd" ++
    "\ufffd\ufffd฿เแโใไๅ\u0e46\u0e47\u0e48\u0e49\u0e4a\u0e4b\u0e4c\u0e4d\u0e4e๏๐๑๒๓๔๕๖๗๘๙๚๛" ++
    "\ufffd\ufffd\ufffd\ufffd"

/-- Encodings that add more to the code of seven bits, of which only that code is read. -/
def extended : CodePage where
  names := ["UTF-7", "UNICODE-1-1-UTF-7", "CSUNICODE11UTF7", "ISO-2022-JP", "CSISO2022JP",
    "ISO-2022-JP-1", "ISO-2022-JP-2", "CSISO2022JP2", "ISO-2022-CN", "CSISO2022CN",
    "ISO-2022-CN-EXT", "ISO-2022-KR", "CSISO2022KR", "EUC-TW", "EUCTW", "CSEUCTW", "ARMSCII-8",
    "GEORGIAN-ACADEMY", "GEORGIAN-PS", "KOI8-RU", "CP1131", "CP1133", "IBM-CP1133", "MULELAO-1",
    "VISCII", "VISCII1.1-1", "CSVISCII", "TCVN", "TCVN-5712", "TCVN5712-1", "NEXTSTEP",
    "MACUKRAINE", "MACHEBREW", "MACARABIC", "MACTHAI"]
  first := 0x80

/-- All code pages. -/
def all : List CodePage :=
  [ascii, latin1, latin2, latin3, latin4, isoCyrillic, isoArabic, isoGreek, isoHebrew, latin5,
   latin6, isoThai, latin7, latin8, latin9, latin10, koi8R, koi8U, koi8T, windowsCentral,
   windowsCyrillic, windowsWeb, windowsWestern, windowsGreek, windowsTurkish, windowsHebrew,
   windowsArabic, windowsBaltic, windowsVietnamese, dosWestern, dosHebrew, dosCyrillic, macRoman,
   macCentral, macIceland, macCroatian, macRomania, macCyrillic, macGreek, macTurkish, hpRoman8,
   pt154, kz1048, tis620, windowsThai, extended]

/-- The code page of a given name, in either case. -/
def ofName? (name : String) : Option CodePage :=
  let name := String.ofList (name.toList.map Char.toUpper)
  all.find? fun page => page.names.contains name

end CodePage

end Polyglot.Text
