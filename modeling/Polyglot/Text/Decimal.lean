/-!
# Decimal digits

The number that decimal digits write, leading zeros or not.
-/

namespace Polyglot.Text

/-- The number that some decimal digits write, when all of them are digits. -/
def decimalNumber? (digits : List Char) : Option Nat :=
  if digits.all Char.isDigit then
    some (digits.foldl (fun value c => value * 10 + (c.toNat - 48)) 0)
  else none

@[simp] theorem decimalNumber?_nil : decimalNumber? [] = some 0 := rfl

end Polyglot.Text
