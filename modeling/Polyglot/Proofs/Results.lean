import Mathlib.Data.List.Forall2
import Mathlib.Data.List.Perm.Basic
import Mathlib.Data.Option.Basic
import Mathlib.Tactic.Common

/-!
# Results of steps

What it means that a sequence of steps succeeds, for steps that may fail with a cause.
-/

namespace Polyglot

variable {ε α β : Type}

theorem map_eq_ok_iff {f : α → β} {x : Except ε α} {b : β} :
    f <$> x = .ok b ↔ ∃ a, x = .ok a ∧ f a = b := by
  cases x <;> simp [Functor.map, Except.map]

@[simp] theorem map_ok (f : α → β) (a : α) : f <$> (.ok a : Except ε α) = .ok (f a) := rfl

theorem exists_of_isOk {x : Except ε α} (h : x.isOk) : ∃ a, x = .ok a := by
  cases x with
  | error => cases h
  | ok a => exact ⟨a, rfl⟩

theorem isOk_map (f : α → β) (x : Except ε α) : (f <$> x).isOk = x.isOk := by
  cases x <;> rfl

theorem bind_eq_ok_iff {f : α → Except ε β} {x : Except ε α} {b : β} :
    x >>= f = .ok b ↔ ∃ a, x = .ok a ∧ f a = .ok b := by
  cases x <;> simp [bind, Except.bind]

@[simp] theorem bind_ok (a : α) (f : α → Except ε β) : (.ok a : Except ε α) >>= f = f a := rfl

/-- Steps that succeed under a condition, each with one answer, succeed one after the other where
all conditions hold. -/
theorem mapM_eq_ok_iff {f : α → Except ε β} {g : α → β} {p : α → Prop} {l : List α} {out : List β}
    (h : ∀ a ∈ l, ∀ b, f a = .ok b ↔ p a ∧ b = g a) :
    l.mapM f = .ok out ↔ (∀ a ∈ l, p a) ∧ out = l.map g := by
  induction l generalizing out with
  | nil => simp [pure, Except.pure, eq_comm]
  | cons a l ih =>
    rw [List.forall_mem_cons] at h
    rw [List.mapM_cons, bind_eq_ok_iff, List.forall_mem_cons, List.map_cons]
    constructor
    · rintro ⟨b, hb, hm⟩
      obtain ⟨bs, hbs, ho⟩ := bind_eq_ok_iff.1 hm
      obtain ⟨hp, rfl⟩ := (h.1 b).1 hb
      obtain ⟨hl, rfl⟩ := (ih h.2).1 hbs
      exact ⟨⟨hp, hl⟩, (Except.ok.inj ho).symm⟩
    · rintro ⟨⟨hp, hl⟩, rfl⟩
      refine ⟨g a, (h.1 _).2 ⟨hp, rfl⟩, ?_⟩
      rw [(ih h.2).2 ⟨hl, rfl⟩]
      rfl

/-- What steps answer one after the other is what each of them answers. -/
theorem exists_of_mem_mapM {f : α → Except ε β} {l : List α} {out : List β}
    (h : l.mapM f = .ok out) {b : β} (hb : b ∈ out) : ∃ a ∈ l, f a = .ok b := by
  induction l generalizing out with
  | nil =>
    cases h
    cases hb
  | cons a l ih =>
    rw [List.mapM_cons] at h
    obtain ⟨first, hf, h⟩ := bind_eq_ok_iff.1 h
    obtain ⟨rest, hr, h⟩ := bind_eq_ok_iff.1 h
    obtain rfl := Except.ok.inj h
    rcases List.mem_cons.1 hb with rfl | hb
    · exact ⟨a, List.mem_cons_self, hf⟩
    · obtain ⟨other, ho, hb⟩ := ih hr hb
      exact ⟨other, List.mem_cons_of_mem a ho, hb⟩

/-- Steps in a row succeed just where each of them does, with the answers of each. -/
theorem mapM_eq_ok_iff_forall₂ {f : α → Except ε β} {l : List α} {out : List β} :
    l.mapM f = .ok out ↔ List.Forall₂ (fun a b => f a = .ok b) l out := by
  induction l generalizing out with
  | nil => simp [pure, Except.pure, eq_comm]
  | cons a l ih =>
    rw [List.mapM_cons, bind_eq_ok_iff, List.forall₂_cons_left_iff]
    constructor
    · rintro ⟨b, hb, h⟩
      obtain ⟨bs, hbs, h⟩ := bind_eq_ok_iff.1 h
      exact ⟨b, bs, hb, ih.1 hbs, (Except.ok.inj h).symm⟩
    · rintro ⟨b, bs, hb, hbs, rfl⟩
      refine ⟨b, hb, ?_⟩
      rw [ih.2 hbs]
      rfl

/-- Steps in a row succeed where each of them does, and what they answer is related as each of them
says. -/
theorem exists_mapM_eq_ok {f : α → Except ε β} {related : α → β → Prop} {l : List α}
    (h : ∀ a ∈ l, ∃ b, related a b ∧ f a = .ok b) :
    ∃ out, List.Forall₂ related l out ∧ l.mapM f = .ok out := by
  induction l with
  | nil => exact ⟨[], .nil, rfl⟩
  | cons a l ih =>
    rw [List.forall_mem_cons] at h
    obtain ⟨b, hb, ha⟩ := h.1
    obtain ⟨out, ho, hl⟩ := ih h.2
    refine ⟨b :: out, .cons hb ho, ?_⟩
    rw [List.mapM_cons, ha, bind_ok, hl]
    rfl

/-- What holds of each thing and its answer holds along the row. -/
theorem forall₂_of_mapM {f : α → Except ε β} {related : α → β → Prop} {l : List α} {out : List β}
    (h : l.mapM f = .ok out) (hr : ∀ a ∈ l, ∀ b, f a = .ok b → related a b) :
    List.Forall₂ related l out :=
  ((List.forall₂_and_left _ _).2 ⟨hr, mapM_eq_ok_iff_forall₂.1 h⟩).imp fun _ b h => h.1 b h.2

/-- Steps that succeed where others do give the others' answers. -/
theorem mapM_ok_of_mapM_ok {f g : α → Except ε β} {l : List α} {out : List β}
    (hfg : ∀ a b, f a = .ok b → g a = .ok b) (h : l.mapM f = .ok out) : l.mapM g = .ok out :=
  mapM_eq_ok_iff_forall₂.2 ((mapM_eq_ok_iff_forall₂.1 h).imp hfg)

/-- Steps in a row succeed where each of them does. -/
theorem isOk_mapM (f : α → Except ε β) (l : List α) :
    (l.mapM f).isOk = l.all fun a => (f a).isOk := by
  induction l with
  | nil => rfl
  | cons a l ih =>
    rw [List.mapM_cons, List.all_cons, ← ih]
    cases f a with
    | error e => rfl
    | ok b => cases l.mapM f <;> rfl

/-- The same steps in another order give the same answers in another order. -/
theorem perm_of_mapM {f : α → Except ε β} {l m : List α} {out later : List β} (hp : l.Perm m)
    (hl : l.mapM f = .ok out) (hm : m.mapM f = .ok later) : out.Perm later := by
  obtain ⟨other, ho, hq⟩ := List.perm_comp_forall₂ hp (mapM_eq_ok_iff_forall₂.1 hm)
  have he : l.mapM f = .ok other := mapM_eq_ok_iff_forall₂.2 ho
  rw [hl] at he
  cases he
  exact hq

/-- Steps on related things that do the same are the same in a row. -/
theorem mapM_congr_of_forall₂ {γ : Type} {f : α → Except ε γ} {g : β → Except ε γ}
    {related : α → β → Prop} {l : List α} {m : List β} (h : List.Forall₂ related l m)
    (hfg : ∀ a b, related a b → f a = g b) : l.mapM f = m.mapM g := by
  induction h with
  | nil => rfl
  | cons hr _ ih => rw [List.mapM_cons, List.mapM_cons, hfg _ _ hr, ih]

/-- Steps that do the same are the same in a row. -/
theorem forM_congr {m : Type → Type} [Monad m] {f g : α → m PUnit} {l : List α}
    (h : ∀ a ∈ l, f a = g a) : l.forM f = l.forM g := by
  induction l with
  | nil => rfl
  | cons a l ih =>
    rw [List.forall_mem_cons] at h
    show (do f a; l.forM f) = do g a; l.forM g
    rw [h.1, ih h.2]

/-! ### How steps fail -/

/-- Whatever a step fails with has a property. -/
def FailsWith (good : ε → Prop) (x : Except ε α) : Prop :=
  ∀ failure, x = .error failure → good failure

namespace FailsWith

variable {good : ε → Prop} {x : Except ε α}

theorem ok (a : α) : FailsWith good (.ok a) :=
  fun _ h => nomatch h

theorem error {failure : ε} (h : good failure) : FailsWith good (.error failure : Except ε α) :=
  fun _ he => Except.error.inj he ▸ h

theorem bind {f : α → Except ε β} (h : FailsWith good x)
    (hf : ∀ a, FailsWith good (f a)) : FailsWith good (x >>= f) := by
  cases x with
  | error failure => exact error (h failure rfl)
  | ok a => exact hf a

theorem map {f : α → β} (h : FailsWith good x) : FailsWith good (f <$> x) := by
  cases x with
  | error failure => exact error (h failure rfl)
  | ok a => exact ok (f a)

theorem mapM {f : α → Except ε β} {l : List α} (h : ∀ a ∈ l, FailsWith good (f a)) :
    FailsWith good (l.mapM f) := by
  induction l with
  | nil => exact ok []
  | cons a l ih =>
    rw [List.forall_mem_cons] at h
    rw [List.mapM_cons]
    exact h.1.bind fun _ => (ih h.2).bind fun _ => ok _

end FailsWith

/-! ### Steps that fail in one way at most -/

/-- The only failure of a step, if it fails. -/
def FailsOnlyWith (failure : ε) (x : Except ε α) : Prop :=
  ∀ other, x = .error other → other = failure

theorem FailsOnlyWith.ok_or_error {failure : ε} {x : Except ε α} (h : FailsOnlyWith failure x) :
    (∃ a, x = .ok a) ∨ x = .error failure := by
  cases x with
  | error other => exact .inr (congrArg _ (h other rfl))
  | ok a => exact .inl ⟨a, rfl⟩

/-- A step succeeds under a condition, and else it fails in one way. -/
def SucceedsIff (p : Prop) (failure : ε) (x : Except ε α) : Prop :=
  p ∧ (∃ a, x = .ok a) ∨ ¬p ∧ x = .error failure

namespace SucceedsIff

variable {p q : Prop} {failure : ε} {x : Except ε α}

theorem ok (a : α) : SucceedsIff True failure (.ok a) :=
  .inl ⟨trivial, a, rfl⟩

theorem error : SucceedsIff False failure (.error failure : Except ε α) :=
  .inr ⟨id, rfl⟩

theorem bind {f : α → Except ε β} (h : SucceedsIff p failure x)
    (hf : ∀ a, SucceedsIff q failure (f a)) : SucceedsIff (p ∧ q) failure (x >>= f) := by
  obtain ⟨hp, a, rfl⟩ | ⟨hp, rfl⟩ := h
  · obtain ⟨hq, b, hb⟩ | ⟨hq, hb⟩ := hf a
    · exact .inl ⟨⟨hp, hq⟩, b, hb⟩
    · exact .inr ⟨fun h => hq h.2, hb⟩
  · exact .inr ⟨fun h => hp h.1, rfl⟩

/-- What follows a step does not fail. -/
theorem bind_ok {f : α → Except ε β} {g : α → β} (h : SucceedsIff p failure x)
    (hf : ∀ a, f a = .ok (g a)) : SucceedsIff p failure (x >>= f) := by
  obtain ⟨hp, a, rfl⟩ | ⟨hp, rfl⟩ := h
  · exact .inl ⟨hp, g a, hf a⟩
  · exact .inr ⟨hp, rfl⟩

theorem map {f : α → β} (h : SucceedsIff p failure x) : SucceedsIff p failure (f <$> x) :=
  h.bind_ok fun _ => rfl

theorem congr (h : SucceedsIff p failure x) (hp : p ↔ q) : SucceedsIff q failure x := by
  rwa [← propext hp]

theorem mapM {f : α → Except ε β} {good : α → Prop} {l : List α}
    (h : ∀ a ∈ l, SucceedsIff (good a) failure (f a)) :
    SucceedsIff (∀ a ∈ l, good a) failure (l.mapM f) := by
  induction l with
  | nil => exact (ok []).congr (by simp)
  | cons a l ih =>
    rw [List.forall_mem_cons] at h
    rw [List.mapM_cons]
    exact (h.1.bind fun _ => (ih h.2).bind_ok fun _ => rfl).congr List.forall_mem_cons.symm

theorem failsOnlyWith (h : SucceedsIff p failure x) : FailsOnlyWith failure x := by
  rintro other rfl
  obtain ⟨_, a, ha⟩ | ⟨_, ho⟩ := h
  · cases ha
  · exact Except.error.inj ho

end SucceedsIff

section Forall₂

variable {related : α → β → Prop} {as : List α} {bs : List β}

/-- Each entry of the second of two related lists belongs to one of the first. -/
theorem exists_left_of_forall₂ (h : List.Forall₂ related as bs) {b : β} (hb : b ∈ bs) :
    ∃ a ∈ as, related a b := by
  induction h with
  | nil => cases hb
  | cons hr _ ih =>
    rcases List.mem_cons.1 hb with rfl | hb
    · exact ⟨_, List.mem_cons_self, hr⟩
    · obtain ⟨a, ha, hr⟩ := ih hb
      exact ⟨a, List.mem_cons_of_mem _ ha, hr⟩

/-- Each entry of the first of two related lists belongs to one of the second. -/
theorem exists_right_of_forall₂ (h : List.Forall₂ related as bs) {a : α} (ha : a ∈ as) :
    ∃ b ∈ bs, related a b :=
  exists_left_of_forall₂ (List.Forall₂.flip (R := fun b a => related a b) h) ha

end Forall₂

section Option

variable {σ : Type} {p : Prop} [Decidable p] {s : σ}

@[simp] theorem run_guard :
    (guard p : StateT σ Option Unit).run s = if p then some ((), s) else none := by
  unfold guard
  split_ifs <;> rfl

variable {l : List α}

theorem forall_mem_of_mapM {f : α → Option β} {good : β → Prop} {out : List β}
    (hf : ∀ a ∈ l, ∀ b ∈ f a, good b) (h : l.mapM f = some out) : ∀ b ∈ out, good b := by
  induction l generalizing out with
  | nil =>
    cases h
    simp
  | cons a l ih =>
    rw [List.forall_mem_cons] at hf
    rw [List.mapM_cons] at h
    obtain ⟨b, hb, h⟩ := Option.bind_eq_some_iff.1 h
    obtain ⟨bs, hbs, h⟩ := Option.bind_eq_some_iff.1 h
    obtain rfl := Option.some.inj h
    exact List.forall_mem_cons.2 ⟨hf.1 b hb, ih hf.2 hbs⟩

/-- Steps that leave the state as it is answer one by one. -/
theorem run_mapM_of_run {f : α → StateT σ Option β} {g : α → β}
    (h : ∀ a ∈ l, (f a).run s = some (g a, s)) : (l.mapM f).run s = some (l.map g, s) := by
  induction l with
  | nil => rfl
  | cons a l ih =>
    rw [List.forall_mem_cons] at h
    simp [List.mapM_cons, h.1, ih h.2]

theorem run_forM_of_run {f : α → StateT σ Option PUnit}
    (h : ∀ a ∈ l, (f a).run s = some (⟨⟩, s)) : (forM l f).run s = some (⟨⟩, s) := by
  induction l with
  | nil => rfl
  | cons a l ih =>
    rw [List.forall_mem_cons] at h
    rw [List.forM_cons, StateT.run_bind, h.1]
    exact ih h.2

end Option

end Polyglot
