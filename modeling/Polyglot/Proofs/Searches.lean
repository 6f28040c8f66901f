import Polyglot.Proofs.Results

/-!
# Searches

What is found in a list where several entries fit: the first of them, or the last if the list is
searched from its end.

A search along a chain goes from state to state, one step at a time and a bounded number of times,
until it comes to a state that gives an answer. `Follows.eq_some_iff` says that it answers just
where a chain of steps within the bound ends in such a state. Nothing is answered where a chain gets
stuck (`Follows.eq_none_of_stuck`), where it is as long as the bound (`Follows.eq_none_of_le`), and
so where it comes back to where it was (`Follows.eq_none_of_returns`).
-/

namespace Polyglot

variable {α β : Type}

/-! ### In a list -/

section List

variable {fits : α → Prop} {p : α → Bool} {l : List α} {a : α}

/-- The first of the entries that fit. -/
def IsFirst (fits : α → Prop) (l : List α) (a : α) : Prop :=
  fits a ∧ ∃ before after, l = before ++ a :: after ∧ ∀ b ∈ before, ¬fits b

/-- The last of the entries that fit. -/
def IsLast (fits : α → Prop) (l : List α) (a : α) : Prop :=
  fits a ∧ ∃ before after, l = before ++ a :: after ∧ ∀ b ∈ after, ¬fits b

theorem IsFirst.mem (h : IsFirst fits l a) : a ∈ l := by
  obtain ⟨-, before, after, rfl, -⟩ := h
  simp

theorem IsLast.mem (h : IsLast fits l a) : a ∈ l := by
  obtain ⟨-, before, after, rfl, -⟩ := h
  simp

theorem isFirst_reverse_iff : IsFirst fits l.reverse a ↔ IsLast fits l a := by
  refine and_congr_right fun _ => ?_
  constructor
  · rintro ⟨before, after, hl, hb⟩
    refine ⟨after.reverse, before.reverse, ?_, by simpa using hb⟩
    simpa using congrArg List.reverse hl
  · rintro ⟨before, after, rfl, ha⟩
    exact ⟨after.reverse, before.reverse, by simp, by simpa using ha⟩

theorem find?_eq_some_iff_isFirst : l.find? p = some a ↔ IsFirst (p · = true) l a := by
  simp [IsFirst, List.find?_eq_some_iff_append]

theorem find?_reverse_eq_some_iff : l.reverse.find? p = some a ↔ IsLast (p · = true) l a :=
  find?_eq_some_iff_isFirst.trans isFirst_reverse_iff

/-- What the first of the entries gives that give something. -/
theorem IsFirst.findSome?_eq {g : α → Option β} (hg : ∀ b, fits b ↔ (g b).isSome)
    (h : IsFirst fits l a) : l.findSome? g = g a := by
  obtain ⟨ha, before, after, rfl, hb⟩ := h
  obtain ⟨e, he⟩ := Option.isSome_iff_exists.1 ((hg a).1 ha)
  rw [he, List.findSome?_eq_some_iff]
  refine ⟨before, a, after, rfl, he, fun b hmem => ?_⟩
  simpa [hg] using hb b hmem

theorem findSome?_eq_some_iff_isFirst {g : α → Option β} {e : β}
    (hg : ∀ b, fits b ↔ (g b).isSome) :
    l.findSome? g = some e ↔ ∃ a, IsFirst fits l a ∧ g a = some e := by
  constructor
  · intro h
    obtain ⟨before, a, after, rfl, ha, hb⟩ := List.findSome?_eq_some_iff.1 h
    refine ⟨a, ⟨(hg a).2 (by simp [ha]), before, after, rfl, fun b hmem => ?_⟩, ha⟩
    simp [hg, hb b hmem]
  · rintro ⟨a, hf, ha⟩
    exact (hf.findSome?_eq hg).trans ha

section Lookup

variable {κ : Type} [BEq κ] [LawfulBEq κ] {entries : List (κ × α)} {key : κ}

theorem mem_of_lookup (h : entries.lookup key = some a) : (key, a) ∈ entries := by
  obtain ⟨before, after, rfl, _⟩ := List.lookup_eq_some_iff.1 h
  simp

/-- Where no key occurs twice, every entry is the one that is found. -/
theorem lookup_eq_some_iff_of_nodup (hn : (entries.map Prod.fst).Nodup) :
    entries.lookup key = some a ↔ (key, a) ∈ entries := by
  refine ⟨mem_of_lookup, fun h => ?_⟩
  obtain ⟨before, after, rfl⟩ := List.append_of_mem h
  rw [List.map_append, List.map_cons] at hn
  refine List.lookup_eq_some_iff.2 ⟨before, after, rfl, fun entry he => bne_iff_ne.2 ?_⟩
  rintro rfl
  exact (List.nodup_append.1 hn).2.2 _ (List.mem_map_of_mem he) _ List.mem_cons_self rfl

theorem lookup_map_snd (f : κ → α → β) (entries : List (κ × α)) (key : κ) :
    (entries.map fun entry => (entry.1, f entry.1 entry.2)).lookup key =
      (entries.lookup key).map (f key) := by
  induction entries with
  | nil => rfl
  | cons entry entries ih =>
    rw [List.map_cons, List.lookup_cons, List.lookup_cons]
    cases hk : key == entry.1 with
    | false => exact ih
    | true => rw [eq_of_beq hk]; rfl

end Lookup

/-- The last entry of a key is found by searching from the end. -/
theorem lookup_reverse_eq_some_iff {l : List (String × α)} {key : String} :
    l.reverse.lookup key = some a ↔ IsLast (·.1 = key) l (key, a) := by
  rw [← isFirst_reverse_iff, List.lookup_eq_some_iff, IsFirst]
  simp only [bne_iff_ne, ne_eq, true_and, eq_comm (a := key)]

theorem pairwise_zip_of_nodup {keys : List String} (values : List α) (hn : keys.Nodup) :
    (keys.zip values).Pairwise (·.1 ≠ ·.1) := by
  induction keys generalizing values with
  | nil => exact .nil
  | cons key keys ih =>
    cases values with
    | nil => exact .nil
    | cons value values =>
      obtain ⟨hk, hn⟩ := List.nodup_cons.1 hn
      refine .cons (fun entry he => ?_) (ih values hn)
      rintro rfl
      exact hk (List.of_mem_zip he).1

/-- Of distinct keys each has the value at its own place. -/
theorem lookup_reverse_zip_iff {keys : List String} {values : List α}
    (hn : keys.Nodup) {key : String} {value : α} :
    (keys.zip values).reverse.lookup key = some value ↔
      ∃ i : Nat, keys[i]? = some key ∧ values[i]? = some value := by
  have hm : (key, value) ∈ keys.zip values ↔
      ∃ i : Nat, keys[i]? = some key ∧ values[i]? = some value := by
    simp only [List.mem_iff_getElem?, List.getElem?_zip_eq_some]
  rw [lookup_reverse_eq_some_iff, ← hm]
  refine ⟨IsLast.mem, fun h => ⟨rfl, ?_⟩⟩
  have hp := pairwise_zip_of_nodup values hn
  obtain ⟨before, after, heq⟩ := List.append_of_mem h
  rw [heq, List.pairwise_append, List.pairwise_cons] at hp
  exact ⟨before, after, heq, fun entry he => (hp.2.1.1 entry he).symm⟩

/-- Steps in a row end with the first failure. -/
theorem mapM_eq_error_of_isFirst {ε : Type} {f : α → Except ε β} {e : ε} (h : IsFirst fits l a)
    (ha : f a = .error e) (hf : ∀ b, ¬fits b → ∃ c, f b = .ok c) : l.mapM f = .error e := by
  obtain ⟨-, before, after, rfl, hb⟩ := h
  induction before with
  | nil =>
    rw [List.nil_append, List.mapM_cons, ha]
    rfl
  | cons b before ih =>
    rw [List.forall_mem_cons] at hb
    obtain ⟨c, hc⟩ := hf b hb.1
    rw [List.cons_append, List.mapM_cons, hc, bind_ok, ih hb.2]
    rfl

end List

/-! ### Along a chain -/

variable {move : α → α → Prop} {gives : α → β → Prop} {follow : Nat → α → Option β}
  {a b c : α} {e : β} {n m fuel : Nat}

/-- A state leads to another one in a number of steps. -/
inductive Leads (move : α → α → Prop) : Nat → α → α → Prop
  | refl (a : α) : Leads move 0 a a
  | head {n : Nat} {a b c : α} (h : move a b) (hl : Leads move n b c) : Leads move (n + 1) a c

/-- A bounded search moves from state to state until one gives an answer. -/
structure Follows (move : α → α → Prop) (gives : α → β → Prop) (follow : Nat → α → Option β) :
    Prop where
  zero (a : α) : follow 0 a = none
  next {fuel : Nat} {a b : α} (h : move a b) : follow (fuel + 1) a = follow fuel b
  answer {fuel : Nat} {a : α} {e : β} (h : gives a e) : follow (fuel + 1) a = some e
  cases {fuel : Nat} {a : α} {e : β} (h : follow (fuel + 1) a = some e) :
    gives a e ∨ ∃ b, move a b

theorem Leads.trans (h : Leads move n a b) (hb : Leads move m b c) : Leads move (n + m) a c := by
  induction h with
  | refl => rwa [Nat.zero_add]
  | @head n _ _ _ h _ ih =>
    rw [Nat.add_right_comm]
    exact .head h (ih hb)

/-- Where every state of a kind leads to another one of it, chains go on for as long as one likes.
-/
theorem Leads.exists_of_returns {kind : α → Prop}
    (hk : ∀ b, kind b → ∃ n c, Leads move (n + 1) b c ∧ kind c) (hb : kind b) (n : Nat) :
    ∃ m c, n ≤ m ∧ Leads move m b c := by
  -- every return makes the chain longer by a step at least
  induction n generalizing b with
  | zero => exact ⟨0, b, Nat.le_refl 0, .refl b⟩
  | succ n ih =>
    obtain ⟨k, c, hl, hc⟩ := hk b hb
    obtain ⟨m, d, hm, hd⟩ := ih hc
    exact ⟨k + 1 + m, d, by omega, hl.trans hd⟩

namespace Follows

variable (h : Follows move gives follow)

include h

/-- A search goes on from where a chain leads, with the steps that are left. -/
theorem add_eq (hl : Leads move n a b) : follow (fuel + n) a = follow fuel b := by
  induction hl with
  | refl => rfl
  | head hm _ ih => rw [← Nat.add_assoc, h.next hm, ih]

theorem eq_none_of_le (hl : Leads move n a b) (hn : fuel ≤ n) : follow fuel a = none := by
  induction hl generalizing fuel with
  | refl a => rw [Nat.le_zero.1 hn, h.zero]
  | head hm _ ih =>
    cases fuel with
    | zero => exact h.zero _
    | succ fuel => rw [h.next hm, ih (Nat.le_of_succ_le_succ hn)]

/-- A search answers just where a chain within its bound ends in a state that gives the answer. -/
theorem eq_some_iff :
    follow fuel a = some e ↔ ∃ n < fuel, ∃ b, Leads move n a b ∧ gives b e := by
  constructor
  · intro hf
    induction fuel generalizing a with
    | zero =>
      rw [h.zero] at hf
      cases hf
    | succ fuel ih =>
      rcases h.cases hf with hg | ⟨b, hm⟩
      · exact ⟨0, Nat.succ_pos fuel, a, .refl a, hg⟩
      · obtain ⟨n, hn, c, hl, hg⟩ := ih ((h.next hm).symm.trans hf)
        exact ⟨n + 1, Nat.succ_lt_succ hn, c, .head hm hl, hg⟩
  · rintro ⟨n, hn, b, hl, hg⟩
    obtain ⟨fuel, rfl⟩ : ∃ left, fuel = left + 1 + n := ⟨fuel - n - 1, by omega⟩
    rw [h.add_eq hl, h.answer hg]

/-- Nothing is found where a chain ends in a state that leads nowhere and gives no answer. -/
theorem eq_none_of_stuck (hl : Leads move n a b) (hm : ∀ c, ¬move b c) (hg : ∀ e, ¬gives b e) :
    follow fuel a = none := by
  rcases Nat.lt_or_ge n fuel with hn | hn
  · obtain ⟨fuel, rfl⟩ : ∃ left, fuel = left + 1 + n := ⟨fuel - n - 1, by omega⟩
    rw [h.add_eq hl, Option.eq_none_iff_forall_ne_some]
    intro e hf
    rcases h.cases hf with he | ⟨c, hc⟩
    · exact hg e he
    · exact hm c hc
  · exact h.eq_none_of_le hl hn

/-- Nothing is found where a chain comes to a state from which it always comes back to one of the
same kind. -/
theorem eq_none_of_returns {kind : α → Prop}
    (hk : ∀ b, kind b → ∃ n c, Leads move (n + 1) b c ∧ kind c) (hl : Leads move n a b)
    (hb : kind b) : follow fuel a = none := by
  obtain ⟨m, c, hm, hc⟩ := Leads.exists_of_returns hk hb fuel
  exact h.eq_none_of_le (hl.trans hc) (by omega)

/-- Nothing is found where a chain comes back to the same state. -/
theorem eq_none_of_cycle (hl : Leads move n a b) (hc : Leads move (m + 1) b b) :
    follow fuel a = none := by
  have hback : ∀ c, c = b → ∃ n d, Leads move (n + 1) c d ∧ d = b := by
    rintro c rfl
    exact ⟨m, c, hc, rfl⟩
  exact h.eq_none_of_returns hback hl rfl

end Follows

end Polyglot
