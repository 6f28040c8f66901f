import Polyglot.Failure

/-!
# Locale codes

A locale code is a language of two or three letters with any number of subtags, each of one to eight
letters or digits behind a hyphen or an underscore: `en`, `es-419`, `zh_CN`. Letters and digits are
those of ASCII. One line feed at the end is passed over.

Whether a locale is one that people use is a question for locale data, which a project may do
without.
-/

namespace Polyglot.Locale

/-- The character stands between the parts of a code. -/
def isSeparator (c : Char) : Bool :=
  c == '-' || c == '_'

/-- The part names a language. -/
def isLanguage (part : List Char) : Bool :=
  (part.length == 2 || part.length == 3) && part.all Char.isAlpha

/-- The part may follow the language. -/
def isSubtag (part : List Char) : Bool :=
  1 ≤ part.length && part.length ≤ 8 && part.all Char.isAlphanum

/-- A text without a line feed at its end. -/
def dropFinalNewline (text : List Char) : List Char :=
  if text.getLast? = some '\n' then text.dropLast else text

/-- The parts make a code: a language, then subtags. -/
def areParts : List (List Char) → Bool
  | [] => false
  | language :: subtags => isLanguage language && subtags.all isSubtag

/-- The text is a locale code. -/
def isCode (text : String) : Bool :=
  areParts ((dropFinalNewline text.toList).splitOnP isSeparator)

/-- A code with underscores between its parts. -/
def normalize (code : String) : String :=
  String.ofList (code.toList.map fun c => if c == '-' then '_' else c)

/-- A text that is a locale code, and a failure otherwise. -/
def check (text : String) : Except Failure String :=
  if isCode text then .ok text else .error (.configuration (.localeInvalid text))

/-! ### Locale data -/

/-- Locale data: the locales that it knows, each with underscores between its parts. -/
structure Data where
  knows : String → Bool

/-- Locale data is at hand. -/
def hasData (data : Option Data := none) : Bool :=
  data.isSome

/-- Insist on locale data for the sake of a feature. -/
def requireData (feature : String) (data : Option Data := none) : Except Failure Unit :=
  if hasData data then .ok () else .error (.localeDataMissing feature)

/-- Whether locale data knows a locale, if there is any. -/
def isKnown? (code : String) (data : Option Data := none) : Option Bool :=
  data.map fun data => data.knows (normalize code)

theorem check_eq_ok_iff {text code : String} :
    check text = .ok code ↔ isCode text = true ∧ code = text := by
  unfold check
  by_cases h : isCode text = true
  · simpa [h] using eq_comm
  · simp [h]

end Polyglot.Locale
