import Polyglot.Proofs.Runs

/-!
# Families of operations

The same operation in several settings at once, one setting for each index. What is to be shown of
such a family is often kept by sequences: if it holds of the first step, and of what follows for
each answer of it, it holds of the whole. `IsSequential` says that a property of families is of this
kind; it is then enough to look at the steps in which the settings matter. `Run.IsCompositional`
says so of operations that may fail and report.

`Run.SameResult` is such a property: the operations end alike, whatever they report.
-/

namespace Polyglot

/-! ### Properties that sequences keep -/

/-- A property of families of operations is kept by sequences. -/
structure IsSequential {ι : Type} (m : Type → Type) [Monad m]
    (keeps : ∀ {α : Type}, (ι → m α) → Prop) : Prop where
  pure {α : Type} (a : α) : keeps fun _ => Pure.pure a
  bind {α β : Type} {runs : ι → m α} {nexts : ι → α → m β} :
    keeps runs → (∀ a, keeps fun i => nexts i a) → keeps fun i => runs i >>= nexts i

namespace IsSequential

open Source

variable {ι : Type} {m : Type → Type} [Monad m] {keeps : ∀ {α : Type}, (ι → m α) → Prop}
  (hk : IsSequential m keeps) {answers : ι → Node → m Node}

include hk

theorem traverseList (ha : ∀ node, keeps fun i => answers i node) (nodes : List Node) :
    keeps fun i => Node.traverseList (answers i) nodes := by
  induction nodes with
  | nil => exact hk.pure _
  | cons node nodes ih => exact hk.bind (ha _) fun answer => hk.bind ih fun rest => hk.pure _

variable [LawfulMonad m]

theorem map {α β : Type} {runs : ι → m α} {f : α → β} (h : keeps runs) :
    keeps fun i => f <$> runs i := by
  simp only [map_eq_pure_bind]
  exact hk.bind h fun a => hk.pure (f a)

variable (ha : ∀ node, keeps fun i => answers i node)

include ha

theorem traverseOption (node : Option Node) :
    keeps fun i => Node.traverseOption (answers i) node := by
  cases node with
  | none => exact hk.pure _
  | some node => exact hk.map (ha node)

variable (answers) in
/-- A node is rebuilt from answers in sequence. -/
theorem traverse (node : Node) : keeps fun i => node.traverse (answers i) := by
  cases node with
  | templateSpan | propertyAccess | arrowFunction | propertyAssignment | expressionStatement =>
    exact hk.bind (ha _) fun answer => hk.pure _
  | templateLiteral | objectLiteral | arrayLiteral | methodDeclaration | sourceFile =>
    exact hk.bind (hk.traverseList ha _) fun answers => hk.pure _
  | taggedTemplate => exact hk.bind (ha _) fun tag => hk.bind (ha _) fun literal => hk.pure _
  | callExpression =>
    exact hk.bind (ha _) fun callee => hk.bind (hk.traverseList ha _) fun others => hk.pure _
  | variableDeclaration | returnStatement =>
    exact hk.bind (hk.traverseOption ha _) fun answer => hk.pure _
  | classDeclaration =>
    exact hk.bind (hk.traverseOption ha _) fun heritage =>
      hk.bind (hk.traverseList ha _) fun members => hk.pure _
  | _ => exact hk.pure _

end IsSequential

namespace Run

variable {α β ι : Type} {run other : Run α} {next later : α → Run β}

/-! ### Results that are the same -/

/-- Two operations end with the same answer or the same failure, whatever was reported before. -/
def SameResult (run other : Run α) : Prop :=
  ∀ before earlier,
    (StateT.run (ExceptT.run run) before).1 = (StateT.run (ExceptT.run other) earlier).1

namespace SameResult

theorem pure (a : α) : (pure a : Run α).SameResult (Pure.pure a) :=
  fun _ _ => rfl

theorem symm (h : run.SameResult other) : other.SameResult run :=
  fun before earlier => (h earlier before).symm

theorem trans {third : Run α} (h : run.SameResult other) (ho : other.SameResult third) :
    run.SameResult third :=
  fun before earlier => (h before before).trans (ho before earlier)

theorem perform_eq (h : run.SameResult other) : run.perform.1 = other.perform.1 :=
  h [] []

theorem bind (h : run.SameResult other) (hn : ∀ a, (next a).SameResult (later a)) :
    (run >>= next).SameResult (other >>= later) := by
  intro before earlier
  have hr := h before earlier
  rw [run_bind, run_bind]
  cases hx : StateT.run (ExceptT.run run) before with
  | mk result after =>
    cases hy : StateT.run (ExceptT.run other) earlier with
    | mk answer last =>
      rw [hx, hy] at hr
      obtain rfl : result = answer := hr
      cases result with
      | error => rfl
      | ok a => exact hn a after last

theorem map {f : α → β} (h : run.SameResult other) : (f <$> run).SameResult (f <$> other) := by
  rw [map_eq_pure_bind, map_eq_pure_bind]
  exact h.bind fun _ => pure _

/-- Reports do not change a result. -/
theorem reportAll (events others : List Event) :
    (liftM (Polyglot.reportAll events) : Run Unit).SameResult
      (liftM (Polyglot.reportAll others)) :=
  fun _ _ => rfl

end SameResult

/-! ### Properties of operations that fail and report -/

/-- A property of families of operations that may fail and report is kept by sequences. -/
structure IsCompositional (keeps : ∀ {α : Type}, (ι → Run α) → Prop) : Prop where
  pure {α : Type} (a : α) : keeps fun _ => Pure.pure a
  throw {α : Type} (failure : Failure) : keeps fun _ => (MonadExcept.throw failure : Run α)
  reportAll (events : List Event) : keeps fun _ => (liftM (Polyglot.reportAll events) : Run Unit)
  bind {α β : Type} {runs : ι → Run α} {nexts : ι → α → Run β} :
    keeps runs → (∀ a, keeps fun i => nexts i a) → keeps fun i => runs i >>= nexts i

namespace IsCompositional

variable {keeps : ∀ {α : Type}, (ι → Run α) → Prop} {runs : ι → Run α}

theorem isSequential (hk : IsCompositional keeps) : IsSequential Run keeps :=
  ⟨hk.pure, hk.bind⟩

theorem map (hk : IsCompositional keeps) {f : α → β} (h : keeps runs) :
    keeps fun i => f <$> runs i :=
  hk.isSequential.map h

theorem ofExcept (hk : IsCompositional keeps) (result : Except Failure α) :
    keeps fun _ => Run.ofExcept result := by
  cases result with
  | error failure => exact hk.throw failure
  | ok a => exact hk.pure a

end IsCompositional

theorem isCompositional_sameResult :
    @IsCompositional ι fun runs => ∀ i j, (runs i).SameResult (runs j) where
  pure a _ _ := .pure a
  throw _ _ _ _ _ := rfl
  reportAll events _ _ := .reportAll events events
  bind h hn i j := (h i j).bind fun a => hn a i j

end Run

end Polyglot
