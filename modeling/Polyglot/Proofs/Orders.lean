import Polyglot.Proofs.Families
import Polyglot.Proofs.Results

/-!
# Operations that succeed more often

An operation is below another one if the other one succeeds wherever it does, in the same way; one
that fails is below any other. Sequences of operations that are below each other are so too:
`IsSuccessOrder` collects these laws, from which the others follow. `Result.Below` is such an order
of results, and `Stateful.Below` one of operations that also have a state, in which the states agree
after a success.
-/

namespace Polyglot

open Source

/-- A reflexive relation of operations that is kept by sequences and in which failures are least. -/
structure IsSuccessOrder (m : Type → Type) [Monad m] [MonadExceptOf Failure m]
    (below : ∀ {α : Type}, m α → m α → Prop) : Prop where
  refl {α : Type} (run : m α) : below run run
  throw {α : Type} (failure : Failure) (run : m α) : below (MonadExcept.throw failure) run
  bind {α β : Type} {run other : m α} {next later : α → m β} :
    below run other → (∀ a, below (next a) (later a)) → below (run >>= next) (other >>= later)

namespace IsSuccessOrder

variable {m : Type → Type} [Monad m] [MonadExceptOf Failure m] {α β : Type}
  {below : ∀ {α : Type}, m α → m α → Prop} (ho : IsSuccessOrder m below)

include ho

/-- The order as a property of pairs of operations. -/
theorem isSequential :
    IsSequential m fun (runs : Bool → m _) => below (runs false) (runs true) :=
  ⟨fun a => ho.refl (Pure.pure a), ho.bind⟩

theorem forM {f g : α → m Unit} {l : List α} (h : ∀ a ∈ l, below (f a) (g a)) :
    below (l.forM f) (l.forM g) := by
  induction l with
  | nil => exact ho.refl _
  | cons a l ih =>
    rw [List.forall_mem_cons] at h
    exact ho.bind h.1 fun _ => ih h.2

variable [LawfulMonad m]

theorem map {run other : m α} {f : α → β} (h : below run other) :
    below (f <$> run) (f <$> other) := by
  rw [map_eq_pure_bind, map_eq_pure_bind]
  exact ho.bind h fun a => ho.refl _

theorem mapM {f g : α → m β} {l : List α} (h : ∀ a ∈ l, below (f a) (g a)) :
    below (l.mapM f) (l.mapM g) := by
  induction l with
  | nil => exact ho.refl _
  | cons a l ih =>
    rw [List.forall_mem_cons] at h
    rw [List.mapM_cons, List.mapM_cons]
    exact ho.bind h.1 fun _ => ho.bind (ih h.2) fun _ => ho.refl _

theorem traverse {f g : Node → m Node} (h : ∀ node, below (f node) (g node)) (node : Node) :
    below (node.traverse f) (node.traverse g) :=
  ho.isSequential.traverse (fun later : Bool => bif later then g else f) h node

end IsSuccessOrder

/-- What succeeds in the first result does so in the second one. -/
def Result.Below {α : Type} (result other : Except Failure α) : Prop :=
  ∀ a, result = .ok a → other = .ok a

theorem Result.isSuccessOrder : IsSuccessOrder (Except Failure) Result.Below where
  refl _ _ h := h
  throw _ _ _ h := nomatch h
  bind h hn b hb := by
    obtain ⟨a, ha, hb⟩ := bind_eq_ok_iff.1 hb
    exact bind_eq_ok_iff.2 ⟨a, h a ha, hn a b hb⟩

/-- From any state, what succeeds in the first operation does so in the second one and ends in the
same state. -/
def Stateful.Below {σ α : Type} (run other : ExceptT Failure (StateM σ) α) : Prop :=
  ∀ before a after, StateT.run (ExceptT.run run) before = (.ok a, after) →
    StateT.run (ExceptT.run other) before = (.ok a, after)

theorem Stateful.isSuccessOrder {σ : Type} :
    IsSuccessOrder (ExceptT Failure (StateM σ)) Stateful.Below where
  refl _ _ _ _ h := h
  throw _ _ _ _ _ h := nomatch congrArg Prod.fst h
  bind {_ _ run _ _ _} h hn before b after hb := by
    rw [Run.run_bind] at hb ⊢
    cases hr : StateT.run (ExceptT.run run) before with
    | mk result middle =>
      rw [hr] at hb
      cases result with
      | error => cases congrArg Prod.fst hb
      | ok a =>
        rw [h before a middle hr]
        exact hn a middle b after hb

end Polyglot
