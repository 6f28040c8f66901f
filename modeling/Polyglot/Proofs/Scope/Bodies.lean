import Polyglot.Proofs.Scope.Stands
import Polyglot.Proofs.Source.Within
import Polyglot.Proofs.Source.WellTyped

/-!
# Bodies

The statements of a file stand in its bodies: the file itself and the bodies of the methods of its
classes, each with a scope of its own. `stands_toNode_iff` says that nothing else is there: whatever
stands in an expression of a well-typed file stands in an expression of one of its bodies.
-/

namespace Polyglot

open Source

/-- The expressions that a statement itself holds. -/
def Source.Node.ownExpressions : Node → List Node
  | .expressionStatement expression => [expression]
  | .variableDeclaration _ initializer _ _ => initializer.toList
  | .returnStatement expression => expression.toList
  | .classDeclaration _ heritage _ _ => heritage.toList
  | _ => []

namespace Scope

/-- The statements of a file or of a method, and the scope in which they stand. -/
structure Body where
  scope : Scope
  statements : List Node

/-- The expressions that the statements of a body hold. -/
def Body.expressions (body : Body) : List Node :=
  body.statements.flatMap Node.ownExpressions

mutual

/-- The bodies of the methods in a class or of a method and the classes in it, in reading order. -/
def bodiesIn (scope : Scope) : Node → List Body
  | .classDeclaration _ _ members _ => bodiesInAll scope members
  | .methodDeclaration _ parameters body =>
    ⟨scope.child parameters body, body⟩ :: bodiesInAll (scope.child parameters body) body
  | _ => []

/-- The bodies in a list of nodes. -/
def bodiesInAll (scope : Scope) : List Node → List Body
  | [] => []
  | node :: rest => bodiesIn scope node ++ bodiesInAll scope rest

end

/-- The bodies of a file, the file's own first. -/
def bodies (program : Program) (file : SourceFile) : List Body :=
  ⟨.ofFile program file, file.statements⟩ :: bodiesInAll (.ofFile program file) file.statements

variable {scope inner : Scope} {program : Program} {file : SourceFile} {node place : Node}
  {nodes others : List Node} {body : Body}

theorem mem_bodiesInAll :
    body ∈ bodiesInAll scope nodes ↔ ∃ node ∈ nodes, body ∈ bodiesIn scope node := by
  induction nodes with
  | nil => simp [bodiesInAll]
  | cons node nodes ih => simp [bodiesInAll, ih]

/-- A node stands in an expression of a body. -/
def Body.Holds (body : Body) (inner : Scope) (place : Node) : Prop :=
  ∃ e ∈ body.expressions, Stands inner place body.scope e

theorem Body.holds_iff : body.Holds inner place ↔ ∃ statement ∈ body.statements,
    ∃ e ∈ statement.ownExpressions, Stands inner place body.scope e := by
  simp only [Body.Holds, Body.expressions, List.mem_flatMap]
  constructor
  · rintro ⟨e, ⟨statement, hs, he⟩, h⟩
    exact ⟨statement, hs, e, he, h⟩
  · rintro ⟨statement, hs, e, he, h⟩
    exact ⟨e, ⟨statement, hs, he⟩, h⟩

/-- What stands in a statement stands in its own expressions or in a body in it; what stands in a
method stands in a body. -/
theorem cases_of_stands (h : Stands inner place scope node) (hi : place.isInner) :
    (node.fits .statement → (∃ e ∈ node.ownExpressions, Stands inner place scope e) ∨
      ∃ body ∈ bodiesIn scope node, body.Holds inner place) ∧
    (node.fits .member → ∃ body ∈ bodiesIn scope node, body.Holds inner place) := by
  induction h with
  | here =>
    exact ⟨fun hf => absurd hi (Node.not_isInner_of_fits (by decide) hf),
      fun hf => absurd hi (Node.not_isInner_of_fits (by decide) hf)⟩
  | @inside scope node child hc h ih =>
    cases node with
    | expressionStatement | variableDeclaration | returnStatement =>
      exact ⟨fun _ => .inl ⟨child, hc, h⟩, fun hf => by simp [Node.fits] at hf⟩
    | classDeclaration name heritage members exported =>
      refine ⟨fun hf => ?_, fun hf => by simp [Node.fits] at hf⟩
      rcases List.mem_append.1 hc with hc | hc
      · exact .inl ⟨child, hc, h⟩
      · have hm := Node.fitsAll_iff.1 (Bool.and_eq_true_iff.1 hf).2 child hc
        obtain ⟨body, hb, h⟩ := ih.2 hm
        exact .inr ⟨body, mem_bodiesInAll.2 ⟨child, hc, hb⟩, h⟩
    | methodDeclaration name parameters statements =>
      refine ⟨fun hf => by simp [Node.fits] at hf, fun hf => ?_⟩
      rcases ih.1 (Node.fitsAll_iff.1 hf child hc) with he | ⟨body, hb, h⟩
      · exact ⟨_, List.mem_cons_self, Body.holds_iff.2 ⟨child, hc, he⟩⟩
      · exact ⟨body, List.mem_cons_of_mem _ (mem_bodiesInAll.2 ⟨child, hc, hb⟩), h⟩
    | importDeclaration => cases hc
    | _ => exact ⟨fun hf => by simp [Node.fits] at hf, fun hf => by simp [Node.fits] at hf⟩

theorem stands_of_mem_ownExpressions {e : Node} (he : e ∈ node.ownExpressions)
    (h : Stands inner place scope e) : Stands inner place scope node := by
  cases node with
  | expressionStatement | variableDeclaration | returnStatement => exact .inside he h
  | classDeclaration => exact .inside (List.mem_append_left _ he) h
  | _ => cases he

/-! ### From the statements of a body to the file -/

/-- A property passes from the members of a class to the class and from the statements of a method
to the method. -/
structure Climbs (reaches : Scope → Node → Prop) : Prop where
  member {scope : Scope} {name : String} {heritage : Option Node} {members : List Node}
    {exported : Bool} {node : Node} : node ∈ members → reaches scope node →
      reaches scope (.classDeclaration name heritage members exported)
  statement {scope : Scope} {name : String} {parameters : List Parameter} {statements : List Node}
    {node : Node} : node ∈ statements → reaches (scope.child parameters statements) node →
      reaches scope (.methodDeclaration name parameters statements)

variable {reaches : Scope → Node → Prop} {statement : Node}

mutual

theorem Climbs.of_mem_bodiesIn {node : Node} {scope : Scope} (hr : Climbs reaches)
    (hb : body ∈ bodiesIn scope node) (hs : statement ∈ body.statements)
    (h : reaches body.scope statement) : reaches scope node := by
  cases node with
  | classDeclaration =>
    obtain ⟨member, hm, h⟩ := hr.of_mem_bodiesInAll hb hs h
    exact hr.member hm h
  | methodDeclaration =>
    rcases List.mem_cons.1 hb with rfl | hb
    · exact hr.statement hs h
    · obtain ⟨outer, hm, h⟩ := hr.of_mem_bodiesInAll hb hs h
      exact hr.statement hm h
  | _ => cases hb

theorem Climbs.of_mem_bodiesInAll {nodes : List Node} {scope : Scope} (hr : Climbs reaches)
    (hb : body ∈ bodiesInAll scope nodes) (hs : statement ∈ body.statements)
    (h : reaches body.scope statement) : ∃ node ∈ nodes, reaches scope node := by
  cases nodes with
  | nil => cases hb
  | cons node rest =>
    rcases List.mem_append.1 hb with hb | hb
    · exact ⟨node, List.mem_cons_self, hr.of_mem_bodiesIn hb hs h⟩
    · obtain ⟨other, ho, h⟩ := hr.of_mem_bodiesInAll hb hs h
      exact ⟨other, List.mem_cons_of_mem _ ho, h⟩

end

theorem Climbs.of_mem_bodies (hr : Climbs reaches) (hb : body ∈ bodies program file)
    (hs : statement ∈ body.statements) (h : reaches body.scope statement) :
    ∃ node ∈ file.statements, reaches (.ofFile program file) node := by
  rcases List.mem_cons.1 hb with rfl | hb
  · exact ⟨statement, hs, h⟩
  · exact hr.of_mem_bodiesInAll hb hs h

theorem climbs_stands : Climbs (Stands inner place) where
  member hm h := .inside (List.mem_append_right _ hm) h
  statement hm h := .inside hm h

/-- What stands in an expression of a file stands in an expression of one of its bodies. -/
theorem stands_toNode_iff (hw : file.IsWellTyped) (hi : place.isInner) :
    Stands inner place (.ofFile program file) file.toNode ↔
      ∃ body ∈ bodies program file, body.Holds inner place := by
  constructor
  · intro h
    cases h with
    | here => cases hi
    | inside hc h =>
      rcases (cases_of_stands h hi).1 (Node.fitsAll_iff.1 hw _ hc) with he | ⟨body, hb, h⟩
      · exact ⟨_, List.mem_cons_self, Body.holds_iff.2 ⟨_, hc, he⟩⟩
      · exact ⟨body, List.mem_cons_of_mem _ (mem_bodiesInAll.2 ⟨_, hc, hb⟩), h⟩
  · rintro ⟨body, hb, h⟩
    obtain ⟨statement, hs, e, he, h⟩ := Body.holds_iff.1 h
    obtain ⟨node, hn, h⟩ := climbs_stands.of_mem_bodies hb hs (stands_of_mem_ownExpressions he h)
    exact .inside hn h

theorem stands_toNode_of_mem {statement e : Node} (hw : file.IsWellTyped)
    (hb : body ∈ bodies program file) (hs : statement ∈ body.statements)
    (he : e ∈ statement.ownExpressions) (hi : place.isInner)
    (h : Stands inner place body.scope e) :
    Stands inner place (.ofFile program file) file.toNode :=
  (stands_toNode_iff hw hi).2 ⟨body, hb, Body.holds_iff.2 ⟨statement, hs, e, he, h⟩⟩

/-! ### What holds in all bodies -/

mutual

theorem fits_of_mem_bodiesIn {node : Node} {scope : Scope} (hb : body ∈ bodiesIn scope node)
    (hf : node.fits .statement ∨ node.fits .member) : Node.fitsAll .statement body.statements := by
  cases node with
  | classDeclaration name heritage members exported =>
    rcases hf with hf | hf
    · have hm := Node.fitsAll_iff.1 (Bool.and_eq_true_iff.1 hf).2
      exact fits_of_mem_bodiesInAll hb fun node hn => .inr (hm node hn)
    · simp [Node.fits] at hf
  | methodDeclaration name parameters statements =>
    rcases hf with hf | hf
    · simp [Node.fits] at hf
    · rcases List.mem_cons.1 hb with rfl | hb
      · exact hf
      · exact fits_of_mem_bodiesInAll hb fun node hn => .inl (Node.fitsAll_iff.1 hf node hn)
  | _ => cases hb

theorem fits_of_mem_bodiesInAll {nodes : List Node} {scope : Scope}
    (hb : body ∈ bodiesInAll scope nodes)
    (hf : ∀ node ∈ nodes, node.fits .statement ∨ node.fits .member) :
    Node.fitsAll .statement body.statements := by
  cases nodes with
  | nil => cases hb
  | cons node rest =>
    rw [List.forall_mem_cons] at hf
    rcases List.mem_append.1 hb with hb | hb
    · exact fits_of_mem_bodiesIn hb hf.1
    · exact fits_of_mem_bodiesInAll hb hf.2

end

theorem fits_of_mem_bodies (hw : file.IsWellTyped) (hb : body ∈ bodies program file) :
    Node.fitsAll .statement body.statements := by
  rcases List.mem_cons.1 hb with rfl | hb
  · exact hw
  · exact fits_of_mem_bodiesInAll hb fun node hn => .inl (Node.fitsAll_iff.1 hw node hn)

theorem fits_of_mem_ownExpressions {e : Node} (hf : node.fits .statement)
    (he : e ∈ node.ownExpressions) : e.fits .expression := by
  have hoption {expression : Option Node} (h : Node.fitsOption .expression expression)
      (he : e ∈ expression.toList) : e.fits .expression :=
    Node.fitsOption_iff.1 h e (Option.mem_toList.1 he)
  cases node with
  | expressionStatement =>
    rw [List.mem_singleton.1 he]
    exact hf
  | variableDeclaration | returnStatement => exact hoption hf he
  | classDeclaration => exact hoption (Bool.and_eq_true_iff.1 hf).1 he
  | _ => cases he

mutual

theorem program_of_mem_bodiesIn {node : Node} {scope : Scope} (hb : body ∈ bodiesIn scope node) :
    body.scope.program = scope.program := by
  cases node with
  | classDeclaration => exact program_of_mem_bodiesInAll hb
  | methodDeclaration name parameters statements =>
    rcases List.mem_cons.1 hb with rfl | hb
    · rfl
    · exact (program_of_mem_bodiesInAll hb : _ = (scope.child parameters statements).program)
  | _ => cases hb

theorem program_of_mem_bodiesInAll {nodes : List Node} {scope : Scope}
    (hb : body ∈ bodiesInAll scope nodes) : body.scope.program = scope.program := by
  cases nodes with
  | nil => cases hb
  | cons node rest =>
    rcases List.mem_append.1 hb with hb | hb
    · exact program_of_mem_bodiesIn hb
    · exact program_of_mem_bodiesInAll hb

end

theorem program_of_mem_bodies (hb : body ∈ bodies program file) : body.scope.program = program := by
  rcases List.mem_cons.1 hb with rfl | hb
  · rfl
  · exact program_of_mem_bodiesInAll hb

/-- No statement stands within an expression. -/
theorem not_within_of_fits {inner : Place} (h : Node.Within place node)
    (hs : place.fits .statement) (hi : inner.isInner) (hn : node.fits inner) : False := by
  induction h generalizing inner with
  | here => exact Node.not_isInner_of_fits (by decide) hs (Node.isInner_of_fits hi hn)
  | inside hc _ ih =>
    obtain ⟨inner, hi, hn⟩ := Node.exists_fits_child hi hn hc
    exact ih hi hn

/-- A statement that stands in a statement is that statement or one of a body in it; one that
stands in a method is one of a body in it. -/
theorem cases_of_within (scope : Scope) (h : Node.Within place node)
    (hs : place.fits .statement) :
    (node.fits .statement → place = node ∨
      ∃ body ∈ bodiesIn scope node, place ∈ body.statements) ∧
    (node.fits .member → ∃ body ∈ bodiesIn scope node, place ∈ body.statements) := by
  induction h generalizing scope with
  | here =>
    refine ⟨fun _ => .inl rfl, fun hm => ?_⟩
    cases place <;> simp [Node.fits] at hs hm
  | @inside node child hc h ih =>
    cases node with
    | expressionStatement =>
      rw [List.mem_singleton.1 hc] at h
      exact ⟨fun hf => (not_within_of_fits h hs rfl hf).elim, fun hf => by simp [Node.fits] at hf⟩
    | variableDeclaration | returnStatement =>
      have hinit {e : Option Node} (he : child ∈ e.toList) (hf : Node.fitsOption .expression e) :
          child.fits .expression := Node.fitsOption_iff.1 hf child (Option.mem_toList.1 he)
      exact ⟨fun hf => (not_within_of_fits h hs rfl (hinit hc hf)).elim,
        fun hf => by simp [Node.fits] at hf⟩
    | classDeclaration name heritage members exported =>
      refine ⟨fun hf => .inr ?_, fun hf => by simp [Node.fits] at hf⟩
      obtain ⟨hh, hm⟩ := Bool.and_eq_true_iff.1 hf
      rcases List.mem_append.1 hc with hc | hc
      · have he := Node.fitsOption_iff.1 hh child (Option.mem_toList.1 hc)
        exact (not_within_of_fits h hs rfl he).elim
      · obtain ⟨body, hb, hp⟩ := (ih scope).2 (Node.fitsAll_iff.1 hm child hc)
        exact ⟨body, mem_bodiesInAll.2 ⟨child, hc, hb⟩, hp⟩
    | methodDeclaration name parameters statements =>
      refine ⟨fun hf => by simp [Node.fits] at hf, fun hf => ?_⟩
      rcases (ih (scope.child parameters statements)).1
        (Node.fitsAll_iff.1 hf child hc) with rfl | ⟨body, hb, hp⟩
      · exact ⟨_, List.mem_cons_self, hc⟩
      · exact ⟨body, List.mem_cons_of_mem _ (mem_bodiesInAll.2 ⟨child, hc, hb⟩), hp⟩
    | importDeclaration => cases hc
    | _ => exact ⟨fun hf => by simp [Node.fits] at hf, fun hf => by simp [Node.fits] at hf⟩

/-- The statements within a file are those of its bodies. -/
theorem exists_body_of_within (program : Program) (hw : file.IsWellTyped)
    (h : Node.Within place file.toNode) (hs : place.fits .statement) :
    ∃ body ∈ bodies program file, place ∈ body.statements := by
  cases h with
  | here => simp [SourceFile.toNode, Node.fits] at hs
  | inside hc h =>
    rcases (cases_of_within (.ofFile program file) h hs).1
      (Node.fitsAll_iff.1 hw _ hc) with rfl | ⟨body, hb, hp⟩
    · exact ⟨_, List.mem_cons_self, hc⟩
    · exact ⟨body, List.mem_cons_of_mem _ (mem_bodiesInAll.2 ⟨_, hc, hb⟩), hp⟩

end Scope

end Polyglot
