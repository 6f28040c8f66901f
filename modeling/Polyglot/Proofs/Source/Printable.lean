import Polyglot.Proofs.Results
import Polyglot.Proofs.Source.Nesting
import Polyglot.Proofs.Source.WellTyped
import Polyglot.Source.Printer

/-!
# Well-typed trees print

The printer refuses a node that stands where its kind may not. In a well-typed tree there is none,
so that the tree prints just where the levels that it takes are no more than there are, and else
fails at the limit: `succeedsIff_printExpression`, `succeedsIff_printStatement` and
`SourceFile.IsWellTyped.succeedsIff_printWithin`.
-/

namespace Polyglot.Source

namespace Printer

variable {limit : Int} {room level : Nat} {node : Node} {nodes : List Node}

/-! ### Expressions -/

section Parts

variable {failure : Failure} {print : Node → Except Failure String}
  (hp : ∀ e : Node, e.fits .expression → SucceedsIff (e.nesting ≤ room) failure (print e))

include hp

theorem succeedsIff_printAll (h : Node.fitsAll .expression nodes) :
    SucceedsIff (Node.nestingAll nodes ≤ room) failure (nodes.mapM print) :=
  (SucceedsIff.mapM fun node hm => hp node (Node.fitsAll_iff.1 h node hm)).congr
    Node.nestingAll_le_iff.symm

theorem succeedsIff_printSlots (h : Node.fitsAll .span nodes) :
    SucceedsIff (Node.nestingAll nodes ≤ room) failure (printSlots print nodes) := by
  refine SucceedsIff.congr (.mapM fun span hm => ?_) Node.nestingAll_le_iff.symm
  have hf := Node.fitsAll_iff.1 h span hm
  cases span with
  | templateSpan expression literal =>
    rw [Node.nesting]
    exact (hp expression hf).bind_ok fun _ => rfl
  | _ => simp [Node.fits] at hf

theorem succeedsIff_printTemplate {head : String} (h : Node.fitsAll .span nodes) :
    SucceedsIff (Node.nestingAll nodes ≤ room) failure
      (printTemplate print (.templateLiteral head nodes)) :=
  (succeedsIff_printSlots hp h).bind_ok fun _ => rfl

theorem succeedsIff_printProperty (h : node.fits .property) :
    SucceedsIff (node.nesting ≤ room) failure (printProperty print node) := by
  cases node with
  | propertyAssignment name value =>
    rw [Node.nesting]
    exact (hp value h).bind_ok fun _ => rfl
  | _ => simp [Node.fits] at h

end Parts

theorem nesting_pos_of_fits (h : node.fits .expression) : ¬node.nesting ≤ 0 := by
  cases node with
  | taggedTemplate tag template =>
    cases template with
    | templateLiteral => simp [Node.nesting]
    | _ => simp [Node.fits] at h
  | identifier | stringLiteral | numericLiteral | rawExpression | templateLiteral | callExpression
  | propertyAccess | arrowFunction | objectLiteral | arrayLiteral => simp [Node.nesting]
  | _ => simp [Node.fits] at h

/-- An expression prints just where there are the levels that it takes. -/
theorem succeedsIff_printExpression (h : node.fits .expression) :
    SucceedsIff (node.nesting ≤ room) (.depth limit) (printExpression limit room node) := by
  induction room generalizing node with
  | zero => exact SucceedsIff.error.congr (iff_of_false id (nesting_pos_of_fits h))
  | succ room ih =>
    have hp (e : Node) (h : e.fits .expression) :
        SucceedsIff (e.nesting ≤ room) (.depth limit) (printExpression limit room e) := ih h
    rw [printExpression.eq_def]
    cases node with
    | identifier | stringLiteral | numericLiteral | rawExpression =>
      exact (SucceedsIff.ok _).congr (by simp [Node.nesting])
    | templateLiteral head spans =>
      rw [Node.nesting, Nat.add_le_add_iff_right]
      exact succeedsIff_printTemplate hp h
    | taggedTemplate tag template =>
      obtain ⟨ht, hl⟩ := Bool.and_eq_true_iff.1 h
      cases template with
      | templateLiteral head spans =>
        rw [Node.nesting, Nat.add_le_add_iff_right, Nat.max_le]
        exact (hp tag ht).map.bind fun _ =>
          (succeedsIff_printTemplate hp hl).bind_ok fun _ => rfl
      | _ => simp [Node.fits] at hl
    | callExpression callee arguments =>
      obtain ⟨hc, ha⟩ := Bool.and_eq_true_iff.1 h
      rw [Node.nesting, Nat.add_le_add_iff_right, Nat.max_le]
      exact (hp callee hc).map.bind fun _ => (succeedsIff_printAll hp ha).bind_ok fun _ => rfl
    | propertyAccess expression name =>
      rw [Node.nesting, Nat.add_le_add_iff_right]
      exact (hp expression h).map.bind_ok fun _ => rfl
    | arrowFunction parameters body =>
      rw [Node.nesting, Nat.add_le_add_iff_right]
      exact (hp body h).bind_ok fun _ => rfl
    | objectLiteral properties =>
      rw [Node.nesting, Nat.add_le_add_iff_right, Node.nestingAll_le_iff]
      refine SucceedsIff.bind_ok (.mapM fun node hm => ?_) fun _ => rfl
      exact succeedsIff_printProperty hp (Node.fitsAll_iff.1 h node hm)
    | arrayLiteral elements =>
      rw [Node.nesting, Nat.add_le_add_iff_right]
      exact (succeedsIff_printAll hp h).bind_ok fun _ => rfl
    | _ => simp [Node.fits] at h

/-- An expression prints unless it is too high. -/
theorem failsOnlyWith_printExpression (h : node.fits .expression) :
    FailsOnlyWith (.depth limit) (printExpression limit room node) :=
  (succeedsIff_printExpression h).failsOnlyWith

/-! ### Statements -/

/-- A statement prints just where there are the levels that it takes, if the methods in it do one
level below. -/
theorem succeedsIff_printStatement_of (hm : ∀ inner, room = inner + 1 → ∀ level (node : Node),
      node.fits .member →
        SucceedsIff (node.nesting ≤ inner) (.depth limit) (printMethod limit inner level node))
    (h : node.fits .statement) :
    SucceedsIff (node.nesting ≤ room) (.depth limit) (printStatement limit room level node) := by
  cases node with
  | importDeclaration =>
    rw [printStatement]
    exact (SucceedsIff.ok _).map.congr (by simp [Node.nesting])
  | expressionStatement expression =>
    rw [printStatement, Node.nesting]
    exact .map ((succeedsIff_printExpression h).bind_ok fun _ => rfl)
  | variableDeclaration name initializer keyword exported =>
    rw [printStatement, Node.nesting]
    refine .map ?_
    cases initializer with
    | none => exact (SucceedsIff.ok _).congr (by simp [Node.nestingOption])
    | some value => exact .bind_ok (succeedsIff_printExpression h).map fun _ => rfl
  | returnStatement expression =>
    cases expression with
    | none =>
      rw [printStatement]
      exact (SucceedsIff.ok _).map.congr (by simp [Node.nesting, Node.nestingOption])
    | some expression =>
      rw [printStatement, Node.nesting]
      exact .map ((succeedsIff_printExpression h).bind_ok fun _ => rfl)
  | classDeclaration name heritage members exported =>
    obtain ⟨hh, hall⟩ := Bool.and_eq_true_iff.1 h
    rw [printStatement, Node.nesting, Nat.max_le]
    extract_lets front
    have hfront (base : String) :
        SucceedsIff (Node.nestingBody members ≤ room) (.depth limit) (front base) := by
      cases members with
      | nil => exact (SucceedsIff.ok _).congr (by simp [Node.nestingBody])
      | cons member members =>
        cases room with
        | zero => exact SucceedsIff.error.congr (by simp [Node.nestingBody])
        | succ room =>
          rw [Node.nestingBody_cons_le_iff]
          refine .bind_ok (.map (.mapM fun method hmem => ?_)) fun _ => rfl
          exact hm room rfl _ method (Node.fitsAll_iff.1 hall method hmem)
    refine .map ?_
    cases heritage with
    | none => exact (hfront "").congr (by simp [Node.nestingOption])
    | some base => exact .bind (succeedsIff_printExpression hh).map hfront
  | _ => simp [Node.fits] at h

/-- A method prints just where there are the levels that it takes, if the statements in it do one
level below. -/
theorem succeedsIff_printMethod_of (hs : ∀ inner, room = inner + 1 → ∀ level (node : Node),
      node.fits .statement →
        SucceedsIff (node.nesting ≤ inner) (.depth limit) (printStatement limit inner level node))
    (h : node.fits .member) :
    SucceedsIff (node.nesting ≤ room) (.depth limit) (printMethod limit room level node) := by
  cases node with
  | methodDeclaration name parameters body =>
    rw [printMethod.eq_def, Node.nesting]
    cases body with
    | nil => exact (SucceedsIff.ok _).congr (by simp [Node.nestingBody])
    | cons statement body =>
      cases room with
      | zero => exact SucceedsIff.error.congr (by simp [Node.nestingBody])
      | succ room =>
        rw [Node.nestingBody_cons_le_iff]
        refine .bind_ok (.map (.mapM fun statement hmem => ?_)) fun _ => rfl
        exact hs room rfl _ statement (Node.fitsAll_iff.1 h statement hmem)
  | _ => simp [Node.fits] at h

theorem succeedsIff_printStatement_and_printMethod (limit : Int) (room : Nat) :
    (∀ level (node : Node), node.fits .statement →
      SucceedsIff (node.nesting ≤ room) (.depth limit) (printStatement limit room level node)) ∧
    ∀ level (node : Node), node.fits .member →
      SucceedsIff (node.nesting ≤ room) (.depth limit) (printMethod limit room level node) := by
  induction room with
  | zero =>
    exact ⟨fun level node =>
        succeedsIff_printStatement_of fun _ h => absurd h (Nat.succ_ne_zero _).symm,
      fun level node => succeedsIff_printMethod_of fun _ h => absurd h (Nat.succ_ne_zero _).symm⟩
  | succ room ih =>
    refine ⟨fun level node => succeedsIff_printStatement_of fun inner h => ?_,
      fun level node => succeedsIff_printMethod_of fun inner h => ?_⟩
    · exact Nat.succ.inj h ▸ ih.2
    · exact Nat.succ.inj h ▸ ih.1

end Printer

variable {node : Node}

/-- An expression by itself prints as it does inside another one. -/
theorem Node.printWithin_of_fits (h : node.fits .expression) (requested : Int) :
    node.printWithin requested =
      Printer.printExpression (Depth.clamp Depth.standardReserve requested)
        (Depth.clamp Depth.standardReserve requested).toNat node := by
  cases node with
  | identifier | stringLiteral | numericLiteral | rawExpression | templateLiteral | taggedTemplate
  | callExpression | propertyAccess | arrowFunction | objectLiteral | arrayLiteral => rfl
  | _ => simp [fits] at h

theorem Node.succeedsIff_printWithin_of_expression (h : node.fits .expression) (requested : Int) :
    SucceedsIff (node.nesting ≤ (Depth.clamp Depth.standardReserve requested).toNat)
      (.depth (Depth.clamp Depth.standardReserve requested)) (node.printWithin requested) := by
  rw [Node.printWithin_of_fits h]
  exact Printer.succeedsIff_printExpression h

theorem Node.succeedsIff_printWithin_of_statement (h : node.fits .statement) (requested : Int) :
    SucceedsIff (node.nesting ≤ (Depth.clamp Depth.standardReserve requested).toNat)
      (.depth (Depth.clamp Depth.standardReserve requested)) (node.printWithin requested) := by
  have hprinted := (Printer.succeedsIff_printStatement_and_printMethod
    (Depth.clamp Depth.standardReserve requested)
    (Depth.clamp Depth.standardReserve requested).toNat).1 0 node h
  cases node with
  | importDeclaration | expressionStatement | variableDeclaration | returnStatement
  | classDeclaration => exact hprinted
  | _ => simp [fits] at h

/-- A well-typed file prints just where there are the levels that it takes. -/
theorem SourceFile.IsWellTyped.succeedsIff_printWithin {file : SourceFile}
    (hw : file.IsWellTyped) (requested : Int) :
    SucceedsIff (file.toNode.nesting ≤ (Depth.clamp Depth.standardReserve requested).toNat)
      (.depth (Depth.clamp Depth.standardReserve requested))
      (file.toNode.printWithin requested) := by
  rw [SourceFile.toNode, Node.nesting, Node.nestingAll_le_iff]
  refine SucceedsIff.bind_ok (.mapM fun statement hm => ?_) fun _ => rfl
  exact (Printer.succeedsIff_printStatement_and_printMethod _ _).1 0 statement
    (Node.fitsAll_iff.1 hw statement hm)

/-- A well-typed file prints unless it is too high. -/
theorem SourceFile.IsWellTyped.failsOnlyWith_printWithin {file : SourceFile}
    (hw : file.IsWellTyped) (requested : Int) :
    FailsOnlyWith (.depth (Depth.clamp Depth.standardReserve requested))
      (file.toNode.printWithin requested) :=
  (hw.succeedsIff_printWithin requested).failsOnlyWith

end Polyglot.Source
