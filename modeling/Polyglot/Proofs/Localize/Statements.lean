import Polyglot.Proofs.Localize.Invariant
import Polyglot.Proofs.Scope.Bodies

/-!
# Copies of statements

The copy of a body leaves out the imports of the localization library and the other names for its
exports, and states every other statement again with the copies of its expressions, in order. So the
bodies of the copy of a file belong to the bodies of the file one by one: `exists_of_localizeFile`
is all that later proofs have to know about the copies of files.
-/

namespace Polyglot.Localize

open Source Scope

/-- The statement stays in the copy of a body. -/
def stays (scope : Scope) : Node → Bool
  | .importDeclaration d => !scope.importsLocalizeModule d
  | node => !isRoleRename scope node

/-- A statement is stated again with expressions in the places of its own. -/
inductive Restated (copied : Node → Node → Prop) : Node → Node → Prop
  | importDeclaration {d : ImportDeclaration} :
      Restated copied (.importDeclaration d) (.importDeclaration d)
  | expressionStatement {e later : Node} (h : copied e later) :
      Restated copied (.expressionStatement e) (.expressionStatement later)
  | variableDeclaration {name keyword : String} {exported : Bool} {e later : Option Node}
      (h : Option.Rel copied e later) :
      Restated copied (.variableDeclaration name e keyword exported)
        (.variableDeclaration name later keyword exported)
  | returnStatement {e later : Option Node} (h : Option.Rel copied e later) :
      Restated copied (.returnStatement e) (.returnStatement later)
  | classDeclaration {name : String} {exported : Bool} {e later : Option Node}
      {members others : List Node} (h : Option.Rel copied e later) :
      Restated copied (.classDeclaration name e members exported)
        (.classDeclaration name later others exported)

/-- One expression is the copy of another. -/
def IsCopy (context : Context) (scope : Scope) (e later : Node) : Prop :=
  ∃ room, (copyNode context scope room e).Returns later

/-- The statements of a body that stay are stated again in order. -/
def Restates (context : Context) (scope : Scope) (statements copies : List Node) : Prop :=
  List.Forall₂ (Restated (IsCopy context scope)) (statements.filter (stays scope)) copies

/-- A scope of the copy of a file belongs to a scope of the file. -/
inductive ScopeCopied (context : Context) : Scope → Scope → Prop
  | file {program : Program} {statements copies : List Node} (fileName : String)
      (h : Restates context (.ofFile program ⟨statements, fileName⟩) statements copies) :
      ScopeCopied context (.ofFile program ⟨statements, fileName⟩)
        (.ofFile program ⟨copies, fileName⟩)
  | child {scope other : Scope} {parameters : List Parameter} {statements copies : List Node}
      (hs : ScopeCopied context scope other)
      (h : Restates context (scope.child parameters statements) statements copies) :
      ScopeCopied context (scope.child parameters statements) (other.child parameters copies)

/-- A body of the copy of a file belongs to a body of the file. -/
def BodyCopied (context : Context) (own copy : Body) : Prop :=
  Restates context own.scope own.statements copy.statements ∧
    ScopeCopied context own.scope copy.scope

variable {context : Context} {scope other : Scope} {room : Nat} {node answer : Node}
  {nodes copies : List Node}

/-! ### Statements -/

theorem invariant_true : Invariant context (fun _ _ => True) fun _ _ => True := by
  constructor <;> intros <;> trivial

/-- Copies of expressions may stand where the expressions stood. -/
theorem fits_of_copyNode {place : Place} (hp : place.isInner) (hn : node.fits place)
    (h : (copyNode context scope room node).Returns answer) : answer.fits place :=
  (invariant_true.copyNode hp hn trivial h).1

theorem nodeStep_of_copyNode {taken : Node}
    (hn : ∀ callee arguments, node ≠ .callExpression callee arguments)
    (h : (copyNode context scope room node).Returns taken) :
    ∃ s, (nodeStep context scope node).Returns s ∧ Ends context scope room s taken := by
  obtain ⟨base, s, hp, hs, he⟩ := ends_of_copyNode h
  cases hp with
  | done => exact ⟨s, hs, he⟩
  | call => exact absurd rfl (hn _ _)

/-- A statement is left out, or it is rebuilt, an import as it is. -/
theorem cases_of_statement (hf : node.fits .statement)
    (h : (copyNode context scope room node).Returns answer) :
    stays scope node = false ∧ answer = .several [] ∨
      stays scope node = true ∧ ((∃ d, node = .importDeclaration d ∧ answer = node) ∨
        ∃ inner, room = inner + 1 ∧
          (node.traverse (copyNode context scope inner)).Returns answer) := by
  have hrebuilt {node : Node} (he : Ends context scope room (.inside scope node) answer) :
      ∃ inner, room = inner + 1 ∧
        (node.traverse (copyNode context scope inner)).Returns answer := by
    cases he with
    | inside h => exact ⟨_, rfl, h⟩
  cases node with
  | importDeclaration d =>
    obtain ⟨taken, hs, he⟩ := nodeStep_of_copyNode (by simp) h
    rw [nodeStep] at hs
    cases hl : scope.importsLocalizeModule d with
    | true =>
      rw [if_pos hl] at hs
      cases Run.Returns.of_pure (Run.Returns.of_report hs)
      cases he
      exact .inl ⟨by simp [stays, hl], rfl⟩
    | false =>
      rw [if_neg (by simp [hl])] at hs
      cases Run.Returns.of_pure hs
      cases he
      exact .inr ⟨by simp [stays, hl], .inl ⟨d, rfl, rfl⟩⟩
  | variableDeclaration name initializer keyword exported =>
    obtain ⟨taken, hs, he⟩ := nodeStep_of_copyNode (by simp) h
    rw [nodeStep] at hs
    cases Run.Returns.of_pure hs
    split_ifs at he with hr
    · cases he
      exact .inl ⟨by simp [stays, hr], rfl⟩
    · exact .inr ⟨by simp [stays, hr], .inr (hrebuilt he)⟩
  | expressionStatement | returnStatement | classDeclaration =>
    obtain ⟨taken, hs, he⟩ := nodeStep_of_copyNode (by simp) h
    cases Run.Returns.of_pure hs
    exact .inr ⟨rfl, .inr (hrebuilt he)⟩
  | _ => simp [Node.fits] at hf

/-! ### Bodies -/

theorem Restated.exists_of_mem {copied : Node → Node → Prop} {later : Node}
    (h : Restated copied node answer) (hl : later ∈ answer.ownExpressions) :
    ∃ e ∈ node.ownExpressions, copied e later := by
  have hoption {own given : Option Node} (h : Option.Rel copied own given)
      (hl : later ∈ given.toList) : ∃ e ∈ own.toList, copied e later := by
    cases h with
    | none => cases hl
    | some h =>
      rw [List.mem_singleton.1 hl]
      exact ⟨_, List.mem_singleton_self _, h⟩
  cases h with
  | importDeclaration => cases hl
  | expressionStatement h =>
    rw [List.mem_singleton.1 hl]
    exact ⟨_, List.mem_singleton_self _, h⟩
  | variableDeclaration h | returnStatement h | classDeclaration h => exact hoption h hl

/-- An expression of a body's copy is the copy of one in a statement that stays. -/
theorem BodyCopied.exists_of_mem {own copy : Body} {later : Node} (h : BodyCopied context own copy)
    (hl : later ∈ copy.expressions) :
    ∃ statement ∈ own.statements, stays own.scope statement ∧
      ∃ e ∈ statement.ownExpressions, IsCopy context own.scope e later := by
  obtain ⟨answer, ha, hl⟩ := List.mem_flatMap.1 hl
  obtain ⟨statement, hs, hr⟩ := exists_left_of_forall₂ h.1 ha
  obtain ⟨hm, hs⟩ := List.mem_filter.1 hs
  exact ⟨statement, hm, hs, hr.exists_of_mem hl⟩

theorem spliced_of_fits {place : Place} (h : node.fits place) : node.spliced = [node] := by
  cases node with
  | several => cases place <;> simp [Node.fits] at h
  | _ => rfl

theorem bodiesIn_of_not_stays (h : stays scope node = false) : bodiesIn scope node = [] := by
  cases node with
  | classDeclaration | methodDeclaration => cases h
  | _ => rfl

/-- What holds of the copies of statements within a number of levels. -/
def StatementsKept (context : Context) (room : Nat) : Prop :=
  ∀ ⦃scope nodes copies⦄, Node.fitsAll .statement nodes →
    (Node.traverseList (copyNode context scope room) nodes).Returns copies →
    Restates context scope nodes copies ∧ Node.fitsAll .statement copies ∧
      ∀ other, ScopeCopied context scope other →
        List.Forall₂ (BodyCopied context) (bodiesInAll scope nodes) (bodiesInAll other copies)

/-- What holds of the copies of methods within a number of levels. -/
def MembersKept (context : Context) (room : Nat) : Prop :=
  ∀ ⦃scope nodes copies⦄, Node.fitsAll .member nodes →
    (Node.traverseList (copyNode context scope room) nodes).Returns copies →
    Node.fitsAll .member copies ∧
      ∀ other, ScopeCopied context scope other →
        List.Forall₂ (BodyCopied context) (bodiesInAll scope nodes) (bodiesInAll other copies)

theorem rel_of_copyOption {node out : Option Node} (hf : Node.fitsOption .expression node)
    (h : (Node.traverseOption (copyNode context scope room) node).Returns out) :
    Option.Rel (IsCopy context scope) node out ∧ Node.fitsOption .expression out := by
  have hfits (n : Node) (hn : n ∈ node) (answer : Node)
      (h : (copyNode context scope room n).Returns answer) : answer.fits .expression :=
    fits_of_copyNode rfl (Node.fitsOption_iff.1 hf n hn) h
  have hr := Node.rel_of_traverseOption h fun n hn answer h =>
    Node.isInner_of_fits rfl (hfits n hn answer h)
  cases hr with
  | none => exact ⟨.none, rfl⟩
  | some hr => exact ⟨.some ⟨room, hr⟩, hfits _ rfl _ hr⟩

/-- A statement that is rebuilt is stated again, and its bodies belong to bodies of the copy. -/
theorem restated_of_traverse (hm : MembersKept context room) (hf : node.fits .statement)
    (h : (node.traverse (copyNode context scope room)).Returns answer) :
    Restated (IsCopy context scope) node answer ∧ answer.fits .statement ∧
      ∀ other, ScopeCopied context scope other →
        List.Forall₂ (BodyCopied context) (bodiesIn scope node) (bodiesIn other answer) := by
  cases node with
  | importDeclaration =>
    cases Run.Returns.of_pure h
    exact ⟨.importDeclaration, rfl, fun _ _ => .nil⟩
  | expressionStatement e =>
    obtain ⟨later, he, h⟩ := Run.Returns.of_bind h
    cases Run.Returns.of_pure h
    have hl : later.fits .expression := fits_of_copyNode (by rfl) hf he
    exact ⟨.expressionStatement ⟨room, he⟩, hl, fun _ _ => .nil⟩
  | variableDeclaration =>
    obtain ⟨later, he, h⟩ := Run.Returns.of_bind h
    cases Run.Returns.of_pure h
    obtain ⟨hr, hl⟩ := rel_of_copyOption hf he
    exact ⟨.variableDeclaration hr, hl, fun _ _ => .nil⟩
  | returnStatement =>
    obtain ⟨later, he, h⟩ := Run.Returns.of_bind h
    cases Run.Returns.of_pure h
    obtain ⟨hr, hl⟩ := rel_of_copyOption hf he
    exact ⟨.returnStatement hr, hl, fun _ _ => .nil⟩
  | classDeclaration =>
    obtain ⟨hh, hmem⟩ := Bool.and_eq_true_iff.1 hf
    obtain ⟨later, he, h⟩ := Run.Returns.of_bind h
    obtain ⟨others, ho, h⟩ := Run.Returns.of_bind h
    cases Run.Returns.of_pure h
    obtain ⟨hr, hl⟩ := rel_of_copyOption hh he
    obtain ⟨hfits, hbodies⟩ := hm hmem ho
    exact ⟨.classDeclaration hr, Bool.and_eq_true_iff.2 ⟨hl, hfits⟩, hbodies⟩
  | _ => simp [Node.fits] at hf

theorem statementsKept (hm : ∀ inner, room = inner + 1 → MembersKept context inner) :
    StatementsKept context room := by
  intro scope nodes copies hf h
  induction nodes generalizing copies with
  | nil =>
    cases Run.Returns.of_pure h
    exact ⟨.nil, rfl, fun _ _ => .nil⟩
  | cons node nodes ih =>
    obtain ⟨answer, ha, h⟩ := Run.Returns.of_bind h
    obtain ⟨rest, hr, h⟩ := Run.Returns.of_bind h
    cases Run.Returns.of_pure h
    obtain ⟨hn, hf⟩ := Bool.and_eq_true_iff.1 hf
    obtain ⟨hrest, hfits, hbodies⟩ := ih hf hr
    rcases cases_of_statement hn ha with ⟨hs, rfl⟩ | ⟨hs, hkept⟩
    · rw [Restates, List.filter_cons_of_neg (by simp [hs])]
      refine ⟨hrest, hfits, fun other ho => ?_⟩
      rw [bodiesInAll, bodiesIn_of_not_stays hs]
      exact hbodies other ho
    · have hkept : Restated (IsCopy context scope) node answer ∧ answer.fits .statement ∧
          ∀ other, ScopeCopied context scope other →
            List.Forall₂ (BodyCopied context) (bodiesIn scope node) (bodiesIn other answer) := by
        rcases hkept with ⟨d, rfl, rfl⟩ | ⟨inner, hroom, ht⟩
        · exact ⟨.importDeclaration, hn, fun _ _ => .nil⟩
        · exact restated_of_traverse (hm inner hroom) hn ht
      obtain ⟨hr, hl, hb⟩ := hkept
      rw [Restates, List.filter_cons_of_pos hs, spliced_of_fits hl]
      refine ⟨.cons hr hrest, Bool.and_eq_true_iff.2 ⟨hl, hfits⟩, fun other ho => ?_⟩
      exact List.rel_append (hb other ho) (hbodies other ho)

/-- The copy of a method has its name and parameters, and its body is a copy of the body. -/
theorem exists_of_method {name : String} {parameters : List Parameter} {body : List Node}
    (h : (copyNode context scope room (.methodDeclaration name parameters body)).Returns answer) :
    ∃ inner copies, room = inner + 1 ∧ answer = .methodDeclaration name parameters copies ∧
      (Node.traverseList (copyNode context (scope.child parameters body) inner) body).Returns
        copies := by
  obtain ⟨taken, hs, he⟩ := nodeStep_of_copyNode (by simp) h
  cases Run.Returns.of_pure hs
  cases he with
  | inside h =>
    obtain ⟨copies, hc, h⟩ := Run.Returns.of_bind h
    cases Run.Returns.of_pure h
    exact ⟨_, copies, rfl, rfl, hc⟩

theorem membersKept (hb : ∀ inner, room = inner + 1 → StatementsKept context inner) :
    MembersKept context room := by
  intro scope nodes copies hf h
  induction nodes generalizing copies with
  | nil =>
    cases Run.Returns.of_pure h
    exact ⟨rfl, fun _ _ => .nil⟩
  | cons node nodes ih =>
    obtain ⟨answer, ha, h⟩ := Run.Returns.of_bind h
    obtain ⟨rest, hr, h⟩ := Run.Returns.of_bind h
    cases Run.Returns.of_pure h
    obtain ⟨hn, hf⟩ := Bool.and_eq_true_iff.1 hf
    obtain ⟨hfits, hbodies⟩ := ih hf hr
    cases node with
    | methodDeclaration name parameters body =>
      obtain ⟨inner, later, hroom, rfl, hc⟩ := exists_of_method ha
      obtain ⟨hl, hlf, hlb⟩ := hb inner hroom hn hc
      refine ⟨Bool.and_eq_true_iff.2 ⟨hlf, hfits⟩, fun other ho => ?_⟩
      have hs := ScopeCopied.child ho hl
      exact List.rel_append (.cons ⟨hl, hs⟩ (hlb _ hs)) (hbodies other ho)
    | _ => simp [Node.fits] at hn

theorem statementsKept_and_membersKept (context : Context) (room : Nat) :
    StatementsKept context room ∧ MembersKept context room := by
  induction room with
  | zero =>
    exact ⟨statementsKept (fun _ h => nomatch h), membersKept (fun _ h => nomatch h)⟩
  | succ room ih =>
    refine ⟨statementsKept fun inner h => ?_, membersKept fun inner h => ?_⟩
    · rw [← Nat.succ.inj h]
      exact ih.2
    · rw [← Nat.succ.inj h]
      exact ih.1

/-- The bodies of the copy of a well-typed file, which is well-typed, belong to the bodies of the
file one by one. -/
theorem exists_of_localizeFile {program : Program} {locale : String}
    {translations : Option (List Message)} {requested : Int} {file out : SourceFile}
    (hw : file.IsWellTyped)
    (h : (localizeFile program locale translations requested file).Returns out) :
    ∃ context : Context, context.translations = translations ∧ out.IsWellTyped ∧
      List.Forall₂ (BodyCopied context) (bodies program file) (bodies program out) := by
  obtain ⟨limit, _, h⟩ := Run.Returns.of_bind h
  unfold copyFile at h
  split at h
  · exact absurd h Run.Returns.not_throw
  · next room _ =>
    obtain ⟨copies, hc, h⟩ := Run.Returns.of_bind h
    cases Run.Returns.of_pure h
    obtain ⟨hr, hf, hb⟩ := (statementsKept_and_membersKept _ room).1 hw hc
    have hs := ScopeCopied.file file.fileName hr
    exact ⟨_, rfl, hf, .cons ⟨hr, hs⟩ (hb _ hs)⟩

/-- What an invariant asks of the expressions of a body that stay, it says of those of the copy. -/
theorem Invariant.of_mem_expressions {before after : Scope → Node → Prop} {program : Program}
    {file : SourceFile} {own copy : Body} (I : Invariant context before after)
    (hw : file.IsWellTyped) (ho : own ∈ bodies program file) (hc : BodyCopied context own copy)
    (hb : ∀ statement ∈ own.statements, stays own.scope statement →
      ∀ e ∈ statement.ownExpressions, before own.scope e) :
    ∀ later ∈ copy.expressions, after own.scope later := by
  intro later hl
  obtain ⟨statement, hs, hst, e, he, room, hcopy⟩ := hc.exists_of_mem hl
  have hf := fits_of_mem_ownExpressions
    (Node.fitsAll_iff.1 (fits_of_mem_bodies hw ho) statement hs) he
  exact (I.copyNode (by rfl) hf (hb statement hs hst e he) hcopy).2

end Polyglot.Localize
