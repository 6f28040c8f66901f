/-!
# Sorted texts

Texts in the order of their code points, with or without repetitions. `sortedSet` depends only on
which texts there are: neither their order nor how often each occurs matters.
-/

namespace Polyglot.Text

/-- Texts in the order of their code points. -/
def sorted (texts : List String) : List String :=
  texts.mergeSort fun s t => decide (s ≤ t)

/-- Each text once, in the order of their code points. -/
def sortedSet (texts : List String) : List String :=
  sorted texts.eraseDups

end Polyglot.Text
