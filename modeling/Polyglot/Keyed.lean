/-!
# Keyed lists

A list of pairs in which each key counts once. A key keeps the place where it first stood and takes
the value that it was given last.
-/

namespace Polyglot.Keyed

/-- A value under a key, in the place of an earlier value of the key or at the end. -/
def put {α : Type} (key : String) (value : α) : List (String × α) → List (String × α)
  | [] => [(key, value)]
  | (other, old) :: rest =>
    if other == key then (key, value) :: rest else (other, old) :: put key value rest

/-- The keyed list of some pairs, given one after the other. -/
def ofPairs {α : Type} (pairs : List (String × α)) : List (String × α) :=
  pairs.foldl (fun table pair => put pair.1 pair.2 table) []

theorem mem_keys_put {α : Type} {k key : String} {value : α} {table : List (String × α)} :
    k ∈ (put key value table).map Prod.fst ↔ k = key ∨ k ∈ table.map Prod.fst := by
  induction table with
  | nil => simp [put]
  | cons entry rest ih =>
    obtain ⟨other, old⟩ := entry
    by_cases h : other = key
    · subst h; simp [put]
    · simp only [put, beq_iff_eq, h, if_false, List.map_cons, List.mem_cons, ih]
      exact or_left_comm

theorem nodup_keys_put {α : Type} {key : String} {value : α} {table : List (String × α)}
    (h : (table.map Prod.fst).Nodup) : ((put key value table).map Prod.fst).Nodup := by
  induction table with
  | nil => simp [put]
  | cons entry rest ih =>
    obtain ⟨other, old⟩ := entry
    simp only [List.map_cons, List.nodup_cons] at h
    by_cases hk : other = key
    · subst hk; simpa [put] using h
    · simp only [put, beq_iff_eq, hk, if_false, List.map_cons, List.nodup_cons]
      exact ⟨fun hm => (mem_keys_put.1 hm).elim hk h.1, ih h.2⟩

/-- No key of a keyed list occurs twice. -/
theorem nodup_keys_ofPairs {α : Type} (pairs : List (String × α)) :
    ((ofPairs pairs).map Prod.fst).Nodup := by
  suffices ∀ table : List (String × α), (table.map Prod.fst).Nodup →
      ((pairs.foldl (fun table pair => put pair.1 pair.2 table) table).map Prod.fst).Nodup from
    this [] List.nodup_nil
  induction pairs with
  | nil => exact fun _ h => h
  | cons pair rest ih => exact fun table h => ih _ (nodup_keys_put h)

end Polyglot.Keyed
