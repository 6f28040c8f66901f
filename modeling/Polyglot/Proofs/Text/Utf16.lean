import Polyglot.Text.Utf16
import Mathlib.Tactic.Common

/-!
# Texts come back from their code units

The code units of a character tell where it ends: a high surrogate opens a pair, and any other unit
is a character of its own. So no two texts have the same code units.

Code points become characters without a loss just where all of them are characters. A surrogate is
none: alone it becomes the replacement character, and two that make a pair become one character.
-/

namespace Polyglot.Text

theorem toUInt16_inj {n m : Nat} (hn : n < 0x10000) (hm : m < 0x10000) :
    n.toUInt16 = m.toUInt16 ↔ n = m := by
  rw [← UInt16.toNat_inj, UInt16.toNat_ofNat', UInt16.toNat_ofNat', Nat.mod_eq_of_lt hn,
    Nat.mod_eq_of_lt hm]

/-- A character is no surrogate and stands in one of the planes. -/
theorem toNat_lt_or (c : Char) : c.toNat < 0xd800 ∨ 0xe000 ≤ c.toNat ∧ c.toNat < 0x110000 :=
  c.valid

/-- Where a character ends can be told from its code units. -/
theorem charUnits_append_inj {c d : Char} {s t : List UInt16} :
    charUnits c ++ s = charUnits d ++ t ↔ c = d ∧ s = t := by
  refine ⟨fun h => ?_, fun ⟨hc, hs⟩ => by rw [hc, hs]⟩
  have hc := toNat_lt_or c
  have hd := toNat_lt_or d
  rw [← Char.toNat_inj]
  rw [charUnits, charUnits] at h
  split_ifs at h with hl hm hm
  · obtain ⟨hu, rfl⟩ := List.cons.inj h
    exact ⟨(toUInt16_inj hl hm).1 hu, rfl⟩
  · -- a character of the basic plane is no high surrogate
    have hu := (toUInt16_inj hl (by omega)).1 (List.cons.inj h).1
    omega
  · have hu := (toUInt16_inj (by omega) hm).1 (List.cons.inj h).1
    omega
  · obtain ⟨hu, h⟩ := List.cons.inj h
    obtain ⟨hv, rfl⟩ := List.cons.inj h
    have hq := (toUInt16_inj (by omega) (by omega)).1 hu
    have hr := (toUInt16_inj (by omega) (by omega)).1 hv
    exact ⟨by omega, rfl⟩

theorem charUnits_ne_nil (c : Char) : charUnits c ≠ [] := by
  rw [charUnits]
  split_ifs <;> exact List.cons_ne_nil _ _

/-- No two texts have the same code units. -/
theorem units_inj {s t : List Char} : units s = units t ↔ s = t := by
  refine ⟨fun h => ?_, congrArg units⟩
  induction s generalizing t with
  | nil =>
    cases t with
    | nil => rfl
    | cons d t => exact absurd (List.append_eq_nil_iff.1 h.symm).1 (charUnits_ne_nil d)
  | cons c s ih =>
    cases t with
    | nil => exact absurd (List.append_eq_nil_iff.1 h).1 (charUnits_ne_nil c)
    | cons d t =>
      obtain ⟨rfl, hs⟩ := charUnits_append_inj.1 h
      rw [ih hs]

/-! ### Code points -/

theorem toNat_charOfCodePoint {n : Nat} (h : n.isValidChar) : (charOfCodePoint n).toNat = n := by
  rw [charOfCodePoint, dif_pos h]
  rfl

/-- Code points come back from their characters unless there is a surrogate among them. -/
theorem map_toNat_ofCodePoints_eq_iff {codes : List Nat} :
    (ofCodePoints codes).map Char.toNat = codes ↔ ∀ code ∈ codes, code.isValidChar := by
  constructor
  · intro h code hc
    rw [← h] at hc
    obtain ⟨c, -, rfl⟩ := List.mem_map.1 hc
    exact c.valid
  · intro h
    have hcodes : (codes.map charOfCodePoint).map Char.toNat = codes := by
      rw [List.map_map]
      exact (List.map_congr_left fun code hc => toNat_charOfCodePoint (h code hc)).trans
        (List.map_id codes)
    rw [← hcodes, ofCodePoints_map_toNat]

end Polyglot.Text
