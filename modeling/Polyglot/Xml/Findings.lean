/-!
# Findings

A document that breaks the grammar cannot be read. Less than that is a finding: a fault where a rule
about names, namespaces or declarations is broken, or a warning. The last finding decides: a
document is accepted unless that is a fault. Of each kind only the first hundred count.
-/

namespace Polyglot.Xml

/-- What is noted about a document that can still be read. -/
inductive Finding where
  /-- Something that should not be there. -/
  | warning
  /-- Something that breaks a rule. -/
  | fault
  deriving DecidableEq, Repr

/-- What the findings in a document come to. -/
structure Findings where
  warnings : Nat := 0
  faults : Nat := 0
  /-- The last finding that counts. -/
  last : Option Finding := none
  deriving DecidableEq, Repr

namespace Findings

/-- The number of findings of each kind that count. -/
def limit : Nat := 100

/-- The findings with another one behind them. -/
def add (findings : Findings) : Finding → Findings
  | .warning =>
    if findings.warnings < limit then
      { findings with warnings := findings.warnings + 1, last := some .warning }
    else findings
  | .fault =>
    if findings.faults < limit then
      { findings with faults := findings.faults + 1, last := some .fault }
    else findings

/-- A document with these findings is accepted. -/
def isAcceptable (findings : Findings) : Bool :=
  findings.last != some .fault

/-- What is found about the target of a processing instruction. -/
def ofTarget (target : String) : List Finding :=
  let isReserved := (target.toList.take 3).map Char.toLower == "xml".toList &&
    target != "xml-stylesheet" && target != "xml-model"
  (if isReserved then [.warning] else []) ++ if target.toList.contains ':' then [.fault] else []

end Findings

end Polyglot.Xml
