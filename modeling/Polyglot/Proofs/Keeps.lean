import Mathlib.Tactic.Common

/-!
# What steps keep

A step over a state may fail. `Keeps inv good step` says that a step which succeeds leads from
states with a property to states with it, and that its answer is good. Sequences, choices and loops
keep what their parts keep.
-/

namespace Polyglot

variable {σ α β : Type} {inv : σ → Prop} {good : α → Prop} {better : β → Prop}

/-- From a state with a property a step leads to a state with it, and its answer is good. -/
def Keeps (inv : σ → Prop) (good : α → Prop) (step : StateT σ Option α) : Prop :=
  ∀ s, inv s → ∀ a later, step.run s = some (a, later) → inv later ∧ good a

namespace Keeps

variable {step : StateT σ Option α} {next : α → StateT σ Option β}

theorem pure {a : α} (h : good a) : Keeps inv good (pure a) := by
  rintro s hs b later hr
  obtain ⟨rfl, rfl⟩ := Prod.mk.inj (Option.some.inj hr)
  exact ⟨hs, h⟩

theorem failure : Keeps inv good (failure : StateT σ Option α) :=
  fun _ _ _ _ hr => nomatch hr

theorem bind (h : Keeps inv good step) (hn : ∀ a, good a → Keeps inv better (next a)) :
    Keeps inv better (step >>= next) := by
  intro s hs b later hr
  rw [StateT.run_bind] at hr
  obtain ⟨⟨a, middle⟩, ha, hb⟩ := Option.bind_eq_some_iff.1 hr
  obtain ⟨hm, hg⟩ := h s hs a middle ha
  exact hn a hg middle hm b later hb

/-- A step in front of which the answer does not matter. -/
theorem andThen (h : Keeps inv good step) (hn : ∀ a, Keeps inv better (next a)) :
    Keeps inv better (step >>= next) :=
  h.bind fun a _ => hn a

theorem mono {other : α → Prop} (h : Keeps inv good step) (hg : ∀ a, good a → other a) :
    Keeps inv other step := by
  intro s hs a later hr
  obtain ⟨hl, ha⟩ := h s hs a later hr
  exact ⟨hl, hg a ha⟩

theorem trivial (h : Keeps inv good step) : Keeps inv (fun _ => True) step :=
  h.mono fun _ _ => True.intro

/-- Any step keeps what all states have. -/
theorem any : Keeps (fun _ => True) (fun _ => True) step :=
  fun _ _ _ _ _ => ⟨True.intro, True.intro⟩

theorem ite {p : Prop} [Decidable p] {other : StateT σ Option α} (h : p → Keeps inv good step)
    (ho : ¬p → Keeps inv good other) : Keeps inv good (if p then step else other) := by
  split_ifs with hp
  · exact h hp
  · exact ho hp

/-- Behind a guard its condition holds. -/
theorem ofGuard {p : Prop} [Decidable p] :
    Keeps inv (fun _ => p) (guard p : StateT σ Option Unit) := by
  unfold guard
  exact ite (fun hp => pure hp) fun _ => failure

theorem ofOption {option : Option α} (h : ∀ a ∈ option, good a) :
    Keeps inv good (liftM option : StateT σ Option α) := by
  intro s hs a later hr
  cases option with
  | none => cases hr
  | some b =>
    obtain ⟨rfl, rfl⟩ := Prod.mk.inj (Option.some.inj hr)
    exact ⟨hs, h _ rfl⟩

/-! ### The state -/

theorem get : Keeps inv inv (get : StateT σ Option σ) := by
  intro s hs a later hr
  obtain ⟨rfl, rfl⟩ := Prod.mk.inj (Option.some.inj hr)
  exact ⟨hs, hs⟩

theorem set {s : σ} (h : inv s) : Keeps inv (fun _ => True) (set s : StateT σ Option PUnit) := by
  intro _ _ a later hr
  obtain ⟨-, rfl⟩ := Prod.mk.inj (Option.some.inj hr)
  exact ⟨h, True.intro⟩

/-! ### Loops -/

theorem mapM {f : α → StateT σ Option β} {l : List α} (h : ∀ a ∈ l, Keeps inv better (f a)) :
    Keeps inv (fun bs => ∀ b ∈ bs, better b) (l.mapM f) := by
  induction l with
  | nil => exact pure (by simp)
  | cons a l ih =>
    rw [List.forall_mem_cons] at h
    rw [List.mapM_cons]
    refine h.1.bind fun b hb => (ih h.2).bind fun bs hbs => pure ?_
    exact List.forall_mem_cons.2 ⟨hb, hbs⟩

theorem forIn {f : α → β → StateT σ Option (ForInStep β)} {l : List α} {b : β}
    (h : ∀ a b, Keeps inv (fun _ => True) (f a b)) : Keeps inv (fun _ => True) (forIn l b f) := by
  induction l generalizing b with
  | nil => exact pure True.intro
  | cons a l ih =>
    rw [List.forIn_cons]
    refine (h a b).andThen fun step => ?_
    cases step with
    | done => exact pure True.intro
    | yield => exact ih

end Keeps

end Polyglot
