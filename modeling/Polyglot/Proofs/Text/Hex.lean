import Polyglot.Text.Hex
import Mathlib.Algebra.Ring.Nat
import Mathlib.Tactic.Common

/-!
# Numbers come back from their digits

A number that fits into a fixed count of hexadecimal digits is read back from them, so no two such
numbers are written alike.
-/

namespace Polyglot.Text

theorem hexValue?_hexDigit : ∀ n < 16, hexValue? (hexDigit n) = some n := by
  decide

theorem hexNumber?_append_singleton (digits : List Char) (c : Char) :
    hexNumber? (digits ++ [c]) = do return (← hexNumber? digits) * 16 + (← hexValue? c) := by
  simp [hexNumber?, List.foldl_append]

/-- A number that fits is read back from its digits. -/
theorem hexNumber?_hexPadded {width n : Nat} (h : n < 16 ^ width) :
    hexNumber? (hexPadded width n) = some n := by
  induction width generalizing n with
  | zero =>
    obtain rfl : n = 0 := Nat.lt_one_iff.1 h
    rfl
  | succ width ih =>
    have hq : n / 16 < 16 ^ width := Nat.div_lt_of_lt_mul (by rwa [Nat.pow_succ'] at h)
    have hr : n % 16 < 16 := Nat.mod_lt n (by decide)
    rw [hexPadded, hexNumber?_append_singleton, ih hq, hexValue?_hexDigit _ hr]
    exact congrArg some (Nat.div_add_mod' n 16)

theorem hexPadded_inj {width n m : Nat} (hn : n < 16 ^ width) (hm : m < 16 ^ width) :
    hexPadded width n = hexPadded width m ↔ n = m := by
  refine ⟨fun h => ?_, congrArg _⟩
  have hd := congrArg hexNumber? h
  rw [hexNumber?_hexPadded hn, hexNumber?_hexPadded hm] at hd
  exact Option.some.inj hd

end Polyglot.Text
