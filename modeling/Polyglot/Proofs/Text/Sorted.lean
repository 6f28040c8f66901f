import Polyglot.Text.Sorted
import Mathlib.Data.List.Sort
import Mathlib.Data.String.Basic

/-!
# Sorted texts

Sorting keeps each text as often as it was there. `sortedSet` keeps each text once, so that it is
strictly ascending; it depends only on which texts there are: `sortedSet_eq_iff`.
-/

namespace Polyglot.Text

variable {texts others : List String} {text : String}

theorem sorted_perm : (sorted texts).Perm texts :=
  List.mergeSort_perm texts _

theorem pairwise_sorted : (sorted texts).Pairwise (· ≤ ·) := by
  have h : (sorted texts).Pairwise fun s t => decide (s ≤ t) = true :=
    @List.pairwise_mergeSort String (fun s t => decide (s ≤ t))
      (fun a b c hab hbc => decide_eq_true
        (String.le_trans (of_decide_eq_true hab) (of_decide_eq_true hbc)))
      (fun a b => by simpa using String.le_total a b) texts
  exact h.imp of_decide_eq_true

theorem nodup_eraseDups : (texts : List String) → texts.eraseDups.Nodup
  | [] => List.nodup_nil
  | text :: rest => by
    rw [List.eraseDups_cons, List.nodup_cons, List.mem_eraseDups, List.mem_filter]
    exact ⟨by simp, nodup_eraseDups (rest.filter fun other => !other == text)⟩
termination_by texts => texts.length
decreasing_by exact Nat.lt_succ_of_le (List.length_filter_le _ rest)

@[simp] theorem mem_sortedSet : text ∈ sortedSet texts ↔ text ∈ texts := by
  rw [sortedSet, sorted_perm.mem_iff, List.mem_eraseDups]

theorem pairwise_sortedSet : (sortedSet texts).Pairwise (· < ·) := by
  have hnodup : (sortedSet texts).Nodup := sorted_perm.nodup_iff.2 (nodup_eraseDups texts)
  exact (List.pairwise_and_iff.2 ⟨pairwise_sorted, hnodup⟩).imp fun ⟨hle, hne⟩ =>
    lt_of_le_of_ne hle hne

/-- Which texts there are is all that counts. -/
theorem sortedSet_eq_iff :
    sortedSet texts = sortedSet others ↔ ∀ text, text ∈ texts ↔ text ∈ others := by
  constructor
  · intro h text
    rw [← mem_sortedSet, h, mem_sortedSet]
  · intro h
    exact pairwise_sortedSet.eq_of_mem_iff pairwise_sortedSet fun text => by simp [h]

end Polyglot.Text
