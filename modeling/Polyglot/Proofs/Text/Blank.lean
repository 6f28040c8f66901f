import Polyglot.Text.Blank
import Mathlib.Tactic.Common

/-!
# Trimmed text

Trimming keeps everything from the first character that is no blank to the last one, so a trimmed
text is trimmed already, and nothing is left just of a blank text.
-/

namespace Polyglot.Text

variable {c : Char} {text rest : List Char}

theorem trimEnd_cons (h : isBlank c = false) : trimEnd (c :: text) = c :: trimEnd text := by
  rw [trimEnd]
  cases trimEnd text <;> simp [h]

theorem trimEnd_append_cons (front : List Char) (h : isBlank c = false) :
    trimEnd (front ++ c :: rest) = front ++ c :: trimEnd rest := by
  induction front with
  | nil => exact trimEnd_cons h
  | cons d front ih =>
    rw [List.cons_append, trimEnd, ih]
    cases front <;> rfl

@[simp] theorem trimEnd_trimEnd (text : List Char) : trimEnd (trimEnd text) = trimEnd text := by
  induction text with
  | nil => rfl
  | cons c text ih =>
    rw [trimEnd]
    cases ht : trimEnd text with
    | nil => by_cases hc : isBlank c <;> simp [hc, trimEnd]
    | cons d kept =>
      rw [ht] at ih
      change trimEnd (c :: d :: kept) = c :: d :: kept
      rw [trimEnd, ih]

theorem dropWhile_eq_nil_or_cons (text : List Char) :
    text.dropWhile isBlank = [] ∨
      ∃ c rest, isBlank c = false ∧ text.dropWhile isBlank = c :: rest := by
  induction text with
  | nil => exact .inl rfl
  | cons c text ih =>
    by_cases h : isBlank c
    · simpa [List.dropWhile_cons, h] using ih
    · exact .inr ⟨c, text, by simpa using h, by simp [h]⟩

@[simp] theorem trim_trim (text : List Char) : trim (trim text) = trim text := by
  rcases dropWhile_eq_nil_or_cons text with h | ⟨c, rest, hc, h⟩
  · simp [trim, h, trimEnd]
  · simp [trim, h, trimEnd_cons hc, hc]

theorem trim_eq_self (h : ∀ c ∈ text, isBlank c = false) : trim text = text := by
  have hd : text.dropWhile isBlank = text := by
    cases text with
    | nil => rfl
    | cons c rest => simp [h c]
  rw [trim, hd]
  clear hd
  induction text with
  | nil => rfl
  | cons c rest ih =>
    rw [trimEnd_cons (h c List.mem_cons_self), ih fun d hd => h d (List.mem_cons_of_mem c hd)]

theorem trimEnd_eq_nil_iff : trimEnd text = [] ↔ ∀ c ∈ text, isBlank c := by
  induction text with
  | nil => simp [trimEnd]
  | cons c text ih =>
    rw [trimEnd, List.forall_mem_cons, ← ih]
    cases trimEnd text <;> simp

/-- Nothing is left just of blank texts. -/
theorem trim_eq_nil_iff : trim text = [] ↔ ∀ c ∈ text, isBlank c := by
  rw [trim, trimEnd_eq_nil_iff]
  induction text with
  | nil => simp
  | cons c text ih =>
    by_cases hc : isBlank c
    · simpa [hc] using ih
    · simp [hc]

end Polyglot.Text
