import Polyglot.Proofs.Localize.Statements
import Polyglot.Proofs.Scope.Bound

/-!
# References in copies

A name in the copy of a file, made without translations, is bound there if it was bound in the file:
`binds_of_localizeFile`. There are two exceptions. Imports of the library and other names for its
exports go away whole, so a reference that means the library and is not itself replaced, such as one
that is neither called nor the callee's own, loses its binding. And the tag of a markup message
stands outside the function around it in the copy, so a parameter does not bind it any more.

`Remains` says which references are not replaced.
-/

namespace Polyglot.Localize

open Source Scope

/-- The children of a node that its copy is made from. -/
def remaining (scope : Scope) : Node → List Node
  | .callExpression callee arguments =>
    match calleeRole? scope callee with
    | none => callee :: arguments
    | some .message | some .localized => arguments
    | some .configureBuild | some .configureRun => []
  | .propertyAccess expression name =>
    if (statusEvent? scope (.propertyAccess expression name)).isSome then [] else [expression]
  | .variableDeclaration name initializer keyword exported =>
    if isRoleRename scope (.variableDeclaration name initializer keyword exported) then []
    else initializer.toList
  | node => node.children

/-- A reference to a name, in an inner scope somewhere in a tree, is not replaced in the copy of the
tree. -/
inductive Remains (inner : Scope) (x : String) : Scope → Node → Prop
  | name (h : statusEvent? inner (.identifier x) = none) : Remains inner x inner (.identifier x)
  | tag {literal : Node} (h : x = richTag) :
      Remains inner x inner (.taggedTemplate (.identifier x) literal)
  | inside {scope : Scope} {node child : Node} (hc : child ∈ remaining scope node)
      (h : Remains inner x (scope.inside node) child) : Remains inner x scope node

/-- No function in a tree has a parameter of a given name. -/
def NoFunctionBinds (x : String) (scope : Scope) (tree : Node) : Prop :=
  ∀ inner parameters body, Stands inner (.arrowFunction parameters body) scope tree →
    ∀ p ∈ parameters, p.name ≠ x

variable {context : Context} {scope inner other : Scope} {node part : Node} {x : String}
  {statements copies : List Node}

/-! ### References that remain -/

theorem mem_children_of_mem_remaining (h : part ∈ remaining scope node) : part ∈ node.children := by
  cases node with
  | callExpression =>
    rw [remaining] at h
    split at h
    · exact h
    · exact List.mem_cons_of_mem _ h
    · exact List.mem_cons_of_mem _ h
    · cases h
    · cases h
  | propertyAccess | variableDeclaration =>
    rw [remaining] at h
    split_ifs at h
    · cases h
    · exact h
  | _ => exact h

theorem remaining_of_isWhole (hi : node.isInner) (h : IsWhole scope node) :
    remaining scope node = node.children := by
  cases node with
  | callExpression callee arguments =>
    have hr : calleeRole? scope callee = none := h
    rw [remaining, hr]
    rfl
  | propertyAccess expression name =>
    have hs : statusEvent? scope (.propertyAccess expression name) = none := h
    rw [remaining, hs]
    rfl
  | variableDeclaration => cases hi
  | _ => rfl

theorem Remains.stands (h : Remains inner x scope node) :
    Stands inner (.identifier x) scope node := by
  induction h with
  | name => exact .here
  | tag => exact .inside List.mem_cons_self .here
  | inside hc _ ih => exact .inside (mem_children_of_mem_remaining hc) ih

theorem Remains.of_partOf (h : Remains inner x scope part) (hp : PartOf part node) :
    Remains inner x scope node := by
  induction hp with
  | here => exact h
  | slot hm _ ih => exact .inside hm (.inside List.mem_cons_self ih)
  | markup _ ih => exact .inside (List.mem_cons_of_mem _ List.mem_cons_self) ih
  | property hm _ ih => exact .inside hm (.inside List.mem_cons_self ih)
  | element hm _ ih => exact .inside hm ih

theorem NoFunctionBinds.of_stands (h : NoFunctionBinds x scope node)
    (hp : Stands inner part scope node) : NoFunctionBinds x inner part :=
  fun _ _ _ hs => h _ _ _ (hs.trans hp)

/-! ### The invariant -/

section Invariant

variable {good : Scope → Prop}

/-- What is asked of an expression: its references that remain stand in good scopes. -/
def RemainsGood (good : Scope → Prop) (x : String) (scope : Scope) (node : Node) : Prop :=
  (∀ inner, Remains inner x scope node → good inner) ∧
    (x = richTag → NoFunctionBinds x scope node)

/-- What holds of its copy: all its references stand in good scopes. -/
def StandsGood (good : Scope → Prop) (x : String) (scope : Scope) (node : Node) : Prop :=
  (∀ inner, Stands inner (.identifier x) scope node → good inner) ∧
    (x = richTag → NoFunctionBinds x scope node)

theorem StandsGood.remainsGood (h : StandsGood good x scope node) : RemainsGood good x scope node :=
  ⟨fun inner hr => h.1 inner hr.stands, h.2⟩

theorem RemainsGood.of_mem (h : RemainsGood good x scope node) (hm : part ∈ remaining scope node) :
    RemainsGood good x (scope.inside node) part :=
  ⟨fun inner hr => h.1 inner (.inside hm hr),
    fun hx => (h.2 hx).of_stands (.inside (mem_children_of_mem_remaining hm) .here)⟩

theorem StandsGood.of_children
    (hn : ∀ parameters body, node = .arrowFunction parameters body → x = richTag →
      ∀ p ∈ parameters, p.name ≠ x)
    (hx : node = .identifier x → good scope)
    (h : ∀ child ∈ node.children, StandsGood good x (scope.inside node) child) :
    StandsGood good x scope node := by
  refine ⟨fun inner hs => ?_, fun hr inner parameters body hs => ?_⟩
  · cases hs with
    | here => exact hx rfl
    | inside hc hs => exact (h _ hc).1 inner hs
  · cases hs with
    | here => exact hn parameters body rfl hr
    | inside hc hs => exact (h _ hc).2 hr inner parameters body hs

theorem standsGood_identifier {y : String} (h : y = x → good scope) :
    StandsGood good x scope (.identifier y) :=
  .of_children (by simp) (fun heq => h (Node.identifier.inj heq)) (by simp [Node.children])

/-- If the references to a name that remain stand in good scopes, so do all references in the
copy. -/
theorem invariant_references (ht : context.translations = none)
    (hg : ∀ {scope parameters}, (∀ p ∈ parameters, Parameter.name p ≠ x) →
      good (scope.child parameters []) → good scope) :
    Invariant context (RemainsGood good x) (StandsGood good x) where
  again := StandsGood.remainsGood
  part h hp :=
    ⟨fun inner hr => h.1 inner (hr.of_partOf hp), fun hx => (h.2 hx).of_stands hp.stands⟩
  base h hr := h.of_mem (by simp [remaining, hr])
  argument h hr ha := h.of_mem (by simpa [remaining, hr] using ha)
  child hi h hw hc := h.of_mem (by rwa [remaining_of_isWhole hi hw])
  translated hn := absurd ht hn
  name h hs := standsGood_identifier fun heq => h.1 _ (heq ▸ .name (heq ▸ hs))
  markupTag h := standsGood_identifier fun heq => h.1 _ (heq ▸ .tag rfl)
  messageTag {scope callee literal arguments} h hr hm := by
    refine standsGood_identifier fun heq => ?_
    subst heq
    have hargs {argument : Node} (ha : argument ∈ arguments) :
        argument ∈ remaining scope (.callExpression callee arguments) := by
      simpa [remaining, hr] using ha
    rcases hm with hm | ⟨parameters, hm⟩
    · exact h.1 _ (.inside (hargs hm) (.tag rfl))
    · -- the tag leaves the function, none of whose parameters has its name
      have ha := List.mem_of_getElem? hm
      have hf := h.2 rfl _ parameters _ (.inside (List.mem_cons_of_mem _ ha) .here)
      exact hg hf (h.1 _ (.inside (hargs ha) (.inside List.mem_cons_self (.tag rfl))))
  call _ _ _ _ hc ho := .of_children (by simp) (by simp) (List.forall_mem_cons.2 ⟨hc, ho⟩)
  function {scope parameters body} hp h := by
    refine .of_children (fun others body heq hx => ?_) (by simp) (List.forall_mem_singleton.2 h)
    cases heq
    rcases hp with rfl | ⟨own, hp⟩
    · simp
    · exact hp.2 hx _ _ _ .here
  neutral {scope node} hn h := by
    refine .of_children (fun _ _ heq => ?_) (fun heq => ?_) h
    · rw [heq] at hn
      cases hn
    · rw [heq] at hn
      cases hn

end Invariant

/-! ### Names of copied bodies -/

theorem Restated.declared?_eq {copied : Node → Node → Prop} {later : Node}
    (h : Restated copied node later) : later.declared? = node.declared? := by
  cases h <;> rfl

theorem Restated.bindings_eq {copied : Node → Node → Prop} {later : Node} {atTop : Bool}
    (h : Restated copied node later) : later.bindings atTop = node.bindings atTop := by
  cases h <;> rfl

section Frames

variable {frame : Frame} {frames : List Frame}

/-- A declaration that is left out gives another name to an export of the library. -/
theorem isLibraryName_of_declared? (hs : scope.frames = frame :: frames) (ho : frame.owns x)
    (hx : node.declared? = some x) (hn : stays scope node = false) : scope.IsLibraryName x := by
  cases node with
  | variableDeclaration name initializer keyword exported =>
    obtain rfl := Option.some.inj hx
    have hrole : isRoleRename scope (.variableDeclaration name initializer keyword exported) := by
      simpa [stays] using hn
    rw [isRoleRename, Bool.and_eq_true, Bool.and_eq_true] at hrole
    obtain ⟨⟨-, hrename⟩, he⟩ := hrole
    rw [isRename, hs] at hrename
    refine .inr ⟨?_, Option.any_eq_true .. |>.1 he⟩
    rw [hs, owner_cons_of_owns ho]
    exact Option.any_eq_true .. |>.1 hrename
  | classDeclaration => cases hn
  | _ => cases hx

/-- An import that is left out binds names to a module of the library. -/
theorem isLibraryName_of_bindings {atTop : Bool} {binding : Binding}
    (hs : scope.frames = frame :: frames) (ho : frame.owns x) (hb : frame.binding? x = some binding)
    (hx : (x, binding) ∈ node.bindings atTop) (hn : stays scope node = false) :
    scope.IsLibraryName x := by
  cases node with
  | importDeclaration d =>
    refine .inl ⟨binding, ?_, ?_⟩
    · rw [binding?, hs, owner_cons_of_owns ho]
      exact hb
    · rw [Node.bindings] at hx
      split_ifs at hx
      · rw [Frame.module_of_mem_bindings hx]
        simpa [stays, importsLocalizeModule] using hn
      · cases hx
  | _ => cases hx

/-- A name that a body owns and its copy does not comes from the library. -/
theorem isLibraryName_of_owns {atTop : Bool} {parameters : List Parameter}
    (hs : scope.frames = .ofBody atTop parameters statements :: frames)
    (h : Restates context scope statements copies)
    (ho : (Frame.ofBody atTop parameters statements).owns x)
    (hn : ¬(Frame.ofBody atTop parameters copies).owns x) : scope.IsLibraryName x := by
  have hstays (node : Node) (hm : node ∈ statements) (hst : stays scope node) :
      ∃ later ∈ copies, Restated (IsCopy context scope) node later :=
    exists_right_of_forall₂ h (List.mem_filter.2 ⟨hm, hst⟩)
  rw [Frame.owns_ofBody_iff, not_or] at hn
  by_cases hd : x ∈ Frame.declaredIn parameters statements
  · rcases Frame.mem_declaredIn.1 hd with ⟨node, hm, hx⟩ | hp
    · refine isLibraryName_of_declared? hs ho hx (Bool.eq_false_iff.2 fun hst => hn.1 ?_)
      obtain ⟨later, hl, hr⟩ := hstays node hm hst
      exact Frame.mem_declaredIn.2 (.inl ⟨later, hl, hr.declared?_eq.trans hx⟩)
    · exact absurd (Frame.mem_declaredIn.2 (.inr hp)) hn.1
  · have hb := Frame.isSome_binding?_ofBody_iff.2
      ⟨(Frame.owns_ofBody_iff.1 ho).resolve_left hd, hd⟩
    obtain ⟨binding, hb⟩ := Option.isSome_iff_exists.1 hb
    obtain ⟨⟨node, hm, hx⟩, -⟩ := Frame.mem_of_binding?_ofBody hb
    refine isLibraryName_of_bindings hs ho hb hx (Bool.eq_false_iff.2 fun hst => hn.2 ?_)
    obtain ⟨later, hl, hr⟩ := hstays node hm hst
    exact ⟨later, hl, binding, hr.bindings_eq ▸ hx⟩

end Frames

/-- A name that is bound in a scope and not in its copy comes from the library. -/
theorem isLibraryName_of_binds (h : ScopeCopied context scope other) (hb : scope.binds x)
    (hn : ¬other.binds x) : scope.IsLibraryName x := by
  induction h with
  | file _ h =>
    refine isLibraryName_of_owns rfl h ?_ ?_
    · simpa [binds, ofFile] using hb
    · simpa [binds, ofFile] using hn
  | @child scope other parameters statements copies hs h ih =>
    rw [binds_child_iff] at hb
    rw [binds_child_iff, not_or] at hn
    by_cases ho : (Frame.ofBody false parameters statements).owns x
    · exact isLibraryName_of_owns rfl h ho hn.1
    · exact (isLibraryName_child_iff ho).2 (ih (hb.resolve_left ho) hn.2)

/-- A name that loses its binding in an expression of a copy comes from the library where the
expression was copied. -/
theorem exists_of_not_binds (h : ScopeCopied context scope other)
    (hs : Stands inner (.identifier x) other node) (hn : ¬inner.binds x) :
    ∃ own, Stands own (.identifier x) scope node ∧ (own.binds x → own.IsLibraryName x) := by
  obtain ⟨own, ho, hrel⟩ := hs.exists_of_related
    (fun scope other => scope.binds x → ¬other.binds x → scope.IsLibraryName x)
    (fun parameters statements hrel hb hn => by
      rw [binds_child_iff, not_or] at hn
      have hbs := (binds_child_iff.1 hb).resolve_left hn.1
      exact (isLibraryName_child_iff hn.1).2 (hrel hbs hn.2))
    (isLibraryName_of_binds h)
  exact ⟨own, ho, fun hb => hrel hb hn⟩

/-! ### Copies of files -/

section Files

variable {program : Program} {file : SourceFile} {own copy : Body}

theorem Remains.of_ownExpressions {e : Node} (hs : stays scope node) (he : e ∈ node.ownExpressions)
    (h : Remains inner x scope e) : Remains inner x scope node := by
  cases node with
  | expressionStatement | returnStatement => exact .inside he h
  | variableDeclaration name initializer keyword exported =>
    have hr : isRoleRename scope (.variableDeclaration name initializer keyword exported) =
        false := by
      simpa [stays] using hs
    refine .inside ?_ h
    rw [remaining, hr]
    exact he
  | classDeclaration => exact .inside (List.mem_append_left _ he) h
  | _ => cases he

theorem climbs_remains : Climbs (Remains inner x) where
  member hm h := .inside (List.mem_append_right _ hm) h
  statement hm h := .inside hm h

/-- A reference that remains in a statement that stays remains in the file. -/
theorem remains_toNode (hb : own ∈ bodies program file) (hm : node ∈ own.statements)
    (hs : stays own.scope node) {e : Node} (he : e ∈ node.ownExpressions)
    (h : Remains inner x own.scope e) : Remains inner x (.ofFile program file) file.toNode := by
  obtain ⟨statement, hst, h⟩ := climbs_remains.of_mem_bodies hb hm (h.of_ownExpressions hs he)
  exact .inside hst h

/-- A name in the copy of a file, made without translations, is bound there if all names of the file
are bound, with two exceptions: a name by which a reference that is not replaced means the library,
and the tag of markup if some function has a parameter of that name. -/
theorem binds_of_localizeFile {locale : String} {requested : Int} {out : SourceFile}
    {events : List Event} (hw : file.IsWellTyped)
    (hb : ∀ inner x, Stands inner (.identifier x) (.ofFile program file) file.toNode →
      inner.binds x)
    (h : (localizeFile program locale none requested file).perform = (.ok out, events))
    {inner : Scope} {x : String}
    (hs : Stands inner (.identifier x) (.ofFile program out) out.toNode) :
    inner.binds x ∨
      (∃ own, Remains own x (.ofFile program file) file.toNode ∧ own.IsLibraryName x) ∨
      x = richTag ∧ ¬NoFunctionBinds x (.ofFile program file) file.toNode := by
  by_cases hf : x = richTag ∧ ¬NoFunctionBinds x (.ofFile program file) file.toNode
  · exact .inr (.inr hf)
  by_cases hl : ∃ own, Remains own x (.ofFile program file) file.toNode ∧ own.IsLibraryName x
  · exact .inr (.inl hl)
  left
  by_contra hn
  obtain ⟨context, ht, hout, hbodies⟩ := exists_of_localizeFile hw (Run.returns_of_perform h)
  have hmem := (List.forall₂_and_left _ _).2 ⟨fun _ (hm : _ ∈ bodies program file) => hm, hbodies⟩
  obtain ⟨copy, hc, later, he, hs⟩ := (stands_toNode_iff hout rfl).1 hs
  obtain ⟨own, -, ho, hcopied⟩ := exists_left_of_forall₂ hmem hc
  -- every reference that remains is to an own name, so every one in the copy is
  have hbefore (node : Node) (hm : node ∈ own.statements) (hst : stays own.scope node) (e : Node)
      (he : e ∈ node.ownExpressions) : RemainsGood (IsOwnName · x) x own.scope e := by
    refine ⟨fun inner hr => ⟨?_, fun hlib => ?_⟩, fun hx inner parameters body hs => ?_⟩
    · exact hb inner x (stands_toNode_of_mem hw ho hm he rfl hr.stands)
    · exact hl ⟨inner, remains_toNode ho hm hst he hr, hlib⟩
    · have hno := not_not.1 (not_and.1 hf hx)
      exact hno inner parameters body (stands_toNode_of_mem hw ho hm he rfl hs)
  have hafter := (invariant_references ht isOwnName_of_child).of_mem_expressions hw ho hcopied
    hbefore later he
  obtain ⟨place, hp, hlib⟩ := exists_of_not_binds hcopied.2 hs hn
  have hown := hafter.1 place hp
  exact hown.2 (hlib hown.1)

/-! ### Two files -/

/-- A program of one file, with the library and a module of markup. -/
def markupProgram (file : SourceFile) : Program where
  files := [file]
  modules := [
    ⟨"library", [{ name := "msg", marks := [Role.message.mark], module := "library" }]⟩,
    ⟨"markup", [{ name := "html", module := "markup" }]⟩]

/-- A file that asks for messages by other names for the export, one of them in a method. -/
def aliasFile : SourceFile where
  fileName := "app.ts"
  statements := [
    .importDeclaration { specifier := "library", whole := some "l" },
    .importDeclaration { specifier := "markup", named := [⟨"html", none⟩] },
    .variableDeclaration "t" (some (.propertyAccess (.identifier "l") "msg")) "const" false,
    .classDeclaration "View" none [.methodDeclaration "render" [⟨"name", none⟩] [
      .variableDeclaration "s" (some (.identifier "t")) "const" false,
      .returnStatement (some (.callExpression (.identifier "s") [
        .taggedTemplate (.identifier "html") (.templateLiteral "Hello " [
          .templateSpan (.callExpression (.identifier "t") [.stringLiteral "dear "]) "",
          .templateSpan (.arrowFunction [⟨"f", none⟩]
            (.callExpression (.identifier "f") [.identifier "name"])) "!"])]))]] true]

/-- The copy of that file. -/
def aliasFreeFile : SourceFile where
  fileName := "app.ts"
  statements := [
    .importDeclaration { specifier := "markup", named := [⟨"html", none⟩] },
    .classDeclaration "View" none [.methodDeclaration "render" [⟨"name", none⟩] [
      .returnStatement (some (.taggedTemplate (.identifier "html")
        (.templateLiteral "Hello dear " [
          .templateSpan (.arrowFunction [⟨"f", none⟩]
            (.callExpression (.identifier "f") [.identifier "name"])) "!"])))]] true]

theorem binds_of_localizeFile_alias :
    aliasFile.IsWellTyped ∧
    (∀ inner x, Stands inner (.identifier x) (.ofFile (markupProgram aliasFile) aliasFile)
      aliasFile.toNode → inner.binds x) ∧
    (localizeFile (markupProgram aliasFile) "en" none 100 aliasFile).perform =
      (.ok aliasFreeFile, [.importRemoved "library" "app.ts"]) ∧
    ∀ inner x, Stands inner (.identifier x) (.ofFile (markupProgram aliasFile) aliasFreeFile)
      aliasFreeFile.toNode →
      inner.binds x ∨
        (∃ own, Remains own x (.ofFile (markupProgram aliasFile) aliasFile) aliasFile.toNode ∧
          own.IsLibraryName x) ∨
        x = richTag ∧
          ¬NoFunctionBinds x (.ofFile (markupProgram aliasFile) aliasFile) aliasFile.toNode := by
  have hw : aliasFile.IsWellTyped := by decide
  have hb : ∀ inner x, Stands inner (.identifier x)
      (.ofFile (markupProgram aliasFile) aliasFile) aliasFile.toNode → inner.binds x := by
    intro inner x h
    simp only [aliasFile, SourceFile.toNode, stands_iff, reduceCtorEq, and_false, Scope.inside,
      Node.children, standsIn_cons, standsIn_nil, or_self, Option.toList_some,
      Node.identifier.injEq, or_false, false_or, Option.toList_none, List.nil_append] at h
    rcases h with ⟨rfl, rfl⟩ | ⟨rfl, rfl⟩ | ⟨rfl, rfl⟩ | ⟨rfl, rfl⟩ | ⟨rfl, rfl⟩ | ⟨rfl, rfl⟩ |
      ⟨rfl, rfl⟩ <;> decide
  have hp : (localizeFile (markupProgram aliasFile) "en" none 100 aliasFile).perform =
      (.ok aliasFreeFile, [.importRemoved "library" "app.ts"]) := by
    delta localizeFile copyFile copyNode
    rfl
  exact ⟨hw, hb, hp, fun inner x hs => binds_of_localizeFile hw hb hp hs⟩

/-- A file with a reference to the export that asks for messages that is no call, and with a markup
message inside a function that binds the tag. -/
def danglingFile : SourceFile where
  fileName := "app.ts"
  statements := [
    .importDeclaration { specifier := "library", named := [⟨"msg", none⟩] },
    .expressionStatement (.identifier "msg"),
    .expressionStatement (.callExpression (.identifier "msg") [.arrowFunction [⟨"html", none⟩]
      (.taggedTemplate (.identifier "html") (.templateLiteral "Hello" []))])]

/-- The copy of that file. -/
def unboundFile : SourceFile where
  fileName := "app.ts"
  statements := [
    .expressionStatement (.identifier "msg"),
    .expressionStatement (.taggedTemplate (.identifier "html") (.templateLiteral "Hello" []))]

/-- Both exceptions occur: the name of the export and the tag are bound in the file and not in its
copy. -/
theorem exists_not_binds_of_localizeFile :
    danglingFile.IsWellTyped ∧
    (∀ inner x, Stands inner (.identifier x) (.ofFile (markupProgram danglingFile) danglingFile)
      danglingFile.toNode → inner.binds x) ∧
    (localizeFile (markupProgram danglingFile) "en" none 100 danglingFile).perform =
      (.ok unboundFile, [.importRemoved "library" "app.ts"]) ∧
    ∀ x ∈ ["msg", richTag], ∃ inner, Stands inner (.identifier x)
      (.ofFile (markupProgram danglingFile) unboundFile) unboundFile.toNode ∧
        ¬inner.binds x := by
  refine ⟨by decide, fun inner x h => ?_, ?_, ?_⟩
  · simp only [danglingFile, SourceFile.toNode, stands_iff, reduceCtorEq, and_false, Scope.inside,
      Node.children, standsIn_cons, standsIn_nil, or_self, Node.identifier.injEq, or_false,
      false_or, or_self_left] at h
    rcases h with ⟨rfl, rfl⟩ | ⟨rfl, rfl⟩ <;> decide
  · delta localizeFile copyFile copyNode flatten
    rfl
  · simp [stands_iff, SourceFile.toNode, unboundFile, Node.children, Scope.inside, richTag, binds,
      ofFile, Frame.ofBody, Frame.addStatement, Frame.owns, Frame.rename?, Frame.binding?]

end Files

end Polyglot.Localize
