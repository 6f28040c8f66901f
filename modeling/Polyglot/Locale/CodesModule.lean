import Polyglot.Text.Sorted

/-!
# The module of locale codes

A generated source module that exports the source locale, the target locales and all locales of an
application. Both lists are sorted and free of repetitions, so that the text depends only on which
locales there are.
-/

namespace Polyglot.Locale

/-- A code as a literal of the module. -/
def literal (code : String) : String :=
  "\x60" ++ code ++ "\x60"

/-- The declaration of a list of codes, one to a line. -/
def declareList (name comment : String) (codes : List String) : String :=
  "/**\n * " ++ comment ++ "\n */\nexport const " ++ name ++ " = [\n" ++
    String.join (codes.map fun code => "  " ++ literal code ++ ",\n") ++ "] as const;\n"

/-- The text of the module. -/
def codesModule (source : String) (targets : List String) : String :=
  "// Do not modify this file by hand!\n" ++
  "// Re-generate this file by running localeweaver.\n\n" ++
  "/**\n * The locale code that templates in this source code are written in.\n */\n" ++
  "export const sourceLocale = " ++ literal source ++ ";\n\n" ++
  declareList "targetLocales"
    ("The other locale codes that this application is localized into. Sorted\n" ++
      " * lexicographically.") (Text.sortedSet targets) ++
  "\n" ++
  declareList "allLocales" "All valid project locale codes. Sorted lexicographically."
    (Text.sortedSet (source :: targets))

end Polyglot.Locale
