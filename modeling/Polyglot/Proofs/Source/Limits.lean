import Polyglot.Proofs.Orders
import Polyglot.Proofs.Source.Printer
import Polyglot.Source.Traversal

/-!
# More levels of depth

Work that succeeds within some levels of depth succeeds within more levels in the same way. This
holds of printing and of traversals whose hooks do not make up for a failure of the step that they
are given, such as those that note nodes and those that go by rules.
-/

namespace Polyglot

/-- A higher limit stays higher when both are lowered to the ceiling. -/
theorem Depth.clamp_le_clamp {reserve requested further : Int} (h : requested ≤ further) :
    clamp reserve requested ≤ clamp reserve further := by
  unfold clamp
  omega

theorem Depth.toNat_clamp_le_toNat_clamp {reserve requested further : Int}
    (h : requested ≤ further) :
    (clamp reserve requested).toNat ≤ (clamp reserve further).toNat :=
  Int.toNat_le_toNat (clamp_le_clamp h)

namespace Source

/-! ### Traversals -/

section Traversals

variable {m : Type → Type} [Monad m] [MonadExceptOf Failure m] {α : Type}
  {below : ∀ {α : Type}, m α → m α → Prop} {limit bound : Int} {room more : Nat}

/-- A hook is below the same hook with a step that is above its own. -/
def Hooks.IsSteady (below : ∀ {α : Type}, m α → m α → Prop) (hooks : Hooks m α) : Prop :=
  ∀ kind, ∀ hook ∈ hooks kind, ∀ step next : Node → m α, (∀ node, below (step node) (next node)) →
    ∀ node, below (hook step node) (hook next node)

omit [Monad m] [MonadExceptOf Failure m] in
theorem Hooks.IsSteady.run {hooks : Hooks m α} (hs : hooks.IsSteady below)
    {step next : Node → m α} (h : ∀ node, below (step node) (next node)) (node : Node) :
    below (hooks.run step node) (hooks.run next node) := by
  unfold Hooks.run
  cases hk : node.kind?.bind hooks with
  | none => exact h node
  | some hook =>
    obtain ⟨kind, -, hh⟩ := Option.bind_eq_some_iff.1 hk
    exact hs kind hook hh step next h node

theorem below_visit (ho : IsSuccessOrder m below) {hooks : Hooks m Unit}
    (hs : hooks.IsSteady below) (hr : room ≤ more) (tree : Node) :
    below (visit hooks limit room tree) (visit hooks bound more tree) := by
  induction room generalizing more tree with
  | zero =>
    cases more with
    | zero | succ more => exact hs.run (fun _ => ho.throw _ _) tree
  | succ room ih =>
    obtain ⟨more, rfl⟩ := Nat.exists_eq_succ_of_ne_zero (Nat.ne_zero_of_lt hr)
    exact hs.run (fun node => ho.forM fun child _ => ih (Nat.le_of_succ_le_succ hr) child) tree

theorem below_rebuild [LawfulMonad m] (ho : IsSuccessOrder m below) {hooks : Hooks m Node}
    (hs : hooks.IsSteady below) (hr : room ≤ more) (tree : Node) :
    below (rebuild hooks limit room tree) (rebuild hooks bound more tree) := by
  induction room generalizing more tree with
  | zero =>
    cases more with
    | zero | succ more => exact hs.run (fun _ => ho.throw _ _) tree
  | succ room ih =>
    obtain ⟨more, rfl⟩ := Nat.exists_eq_succ_of_ne_zero (Nat.ne_zero_of_lt hr)
    exact hs.run (ho.traverse (ih (Nat.le_of_succ_le_succ hr))) tree

end Traversals

theorem isSteady_recordHooks (listed stopping : Kind → Bool) :
    (recordHooks listed stopping).IsSteady Stateful.Below := by
  intro kind hook hk step next h node
  unfold recordHooks at hk
  split_ifs at hk with hs hl
  · cases hk
    exact Stateful.isSuccessOrder.refl _
  · cases hk
    exact Stateful.isSuccessOrder.bind (Stateful.isSuccessOrder.refl _) fun _ => h node
  · cases hk

theorem isSteady_hook (rules : Rules) : Hooks.IsSteady Result.Below rules.hook := by
  intro kind hook hk step next h node
  unfold Rules.hook at hk
  split at hk
  · cases hk
    exact Result.isSuccessOrder.refl _
  · cases hk
    exact Result.isSuccessOrder.bind (h node) fun _ => Result.isSuccessOrder.refl _
  · split_ifs at hk
    · cases hk
      cases node with
      | identifier => exact Result.isSuccessOrder.refl _
      | _ => exact h _
    · cases hk

/-! ### Printing -/

namespace Printer

variable {limit bound : Int} {room more level : Nat} {node : Node}

theorem below_printExpression (hr : room ≤ more) :
    Result.Below (printExpression limit room node) (printExpression bound more node) :=
  fun _ => printExpression_mono hr

theorem below_printStatement_of (hr : room ≤ more)
    (hm : ∀ inner further, room = inner + 1 → more = further + 1 → ∀ level node,
      Result.Below (printMethod limit inner level node) (printMethod bound further level node)) :
    Result.Below (printStatement limit room level node) (printStatement bound more level node) := by
  have ho := Result.isSuccessOrder
  cases node with
  | expressionStatement =>
    rw [printStatement, printStatement]
    exact ho.map (ho.bind (below_printExpression hr) fun _ => ho.refl _)
  | variableDeclaration name initializer keyword exported =>
    rw [printStatement, printStatement]
    refine ho.map ?_
    cases initializer with
    | none => exact ho.refl _
    | some value => exact ho.bind (ho.map (below_printExpression hr)) fun _ => ho.refl _
  | returnStatement expression =>
    cases expression with
    | none =>
      rw [printStatement, printStatement]
      exact ho.refl _
    | some expression =>
      rw [printStatement, printStatement]
      exact ho.map (ho.bind (below_printExpression hr) fun _ => ho.refl _)
  | classDeclaration name heritage members exported =>
    rw [printStatement, printStatement]
    extract_lets front back
    have hfront (base : String) : Result.Below (front base) (back base) := by
      cases members with
      | nil => exact ho.refl _
      | cons member members =>
        cases room with
        | zero => exact ho.throw (.depth limit) _
        | succ room =>
          obtain ⟨more, rfl⟩ := Nat.exists_eq_succ_of_ne_zero (Nat.ne_zero_of_lt hr)
          refine ho.bind (ho.map (ho.mapM fun method _ => ?_)) fun _ => ho.refl _
          exact hm room more rfl rfl _ method
    refine ho.map ?_
    cases heritage with
    | none => exact hfront ""
    | some base => exact ho.bind (ho.map (below_printExpression hr)) hfront
  | _ =>
    rw [printStatement.eq_def, printStatement.eq_def]
    exact ho.refl _

theorem below_printMethod_of (hr : room ≤ more)
    (hs : ∀ inner further, room = inner + 1 → more = further + 1 → ∀ level node, Result.Below
      (printStatement limit inner level node) (printStatement bound further level node)) :
    Result.Below (printMethod limit room level node) (printMethod bound more level node) := by
  have ho := Result.isSuccessOrder
  rw [printMethod.eq_def, printMethod.eq_def]
  cases node with
  | methodDeclaration name parameters body =>
    cases body with
    | nil => exact ho.refl _
    | cons statement body =>
      cases room with
      | zero => exact ho.throw (.depth limit) _
      | succ room =>
        obtain ⟨more, rfl⟩ := Nat.exists_eq_succ_of_ne_zero (Nat.ne_zero_of_lt hr)
        refine ho.bind (ho.map (ho.mapM fun statement _ => ?_)) fun _ => ho.refl _
        exact hs room more rfl rfl _ statement
  | _ => exact ho.refl _

theorem below_printStatement_and_printMethod (limit bound : Int) {room more : Nat}
    (hr : room ≤ more) :
    (∀ level node, Result.Below
      (printStatement limit room level node) (printStatement bound more level node)) ∧
    ∀ level node, Result.Below
      (printMethod limit room level node) (printMethod bound more level node) := by
  induction room generalizing more with
  | zero =>
    exact ⟨fun level node =>
        below_printStatement_of hr fun _ _ h => absurd h (Nat.succ_ne_zero _).symm,
      fun level node => below_printMethod_of hr fun _ _ h => absurd h (Nat.succ_ne_zero _).symm⟩
  | succ room ih =>
    refine ⟨fun level node => below_printStatement_of hr fun inner further h hf => ?_,
      fun level node => below_printMethod_of hr fun inner further h hf => ?_⟩
    · cases h
      exact (ih (by omega)).2
    · cases h
      exact (ih (by omega)).1

theorem below_printNode (limit bound : Int) (hr : room ≤ more) (node : Node) :
    Result.Below (printNode limit room node) (printNode bound more node) := by
  have hs := (below_printStatement_and_printMethod limit bound hr).1
  cases node with
  | sourceFile statements fileName =>
    have ho := Result.isSuccessOrder
    exact ho.bind (ho.mapM fun statement _ => hs 0 statement) fun _ => ho.refl _
  | importDeclaration | expressionStatement | variableDeclaration | returnStatement
  | classDeclaration => exact hs 0 _
  | _ => exact below_printExpression hr

end Printer

end Source

end Polyglot
