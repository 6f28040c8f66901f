import Polyglot.Proofs.Localize.Statements
import Polyglot.Proofs.Scope.Frames

/-!
# Calls of the library in copies

No call that means the library in the file is left in its copy: `not_plays_of_localizeFile`. The
copy has lost the imports that gave the library's names their meaning, so a call is read in the
scope in which it was copied, that of the file. Read in the scopes of the copy itself, a callee can
only mean the library through a module that sets locales and does nothing else.

A callee must not be a localizing call, nor a member of one: such a call would become the class that
it is given, and the call of a class is never looked at again.
-/

namespace Polyglot.Localize

open Source Scope

/-- A call that localizes a base class. -/
def CallsHelper (scope : Scope) : Node → Prop
  | .callExpression callee _ => scope.plays .localized callee
  | _ => False

/-- A callee is no localizing call and no member of one. -/
def IsPlainCallee (scope : Scope) (callee : Node) : Prop :=
  ¬CallsHelper scope callee ∧
    ∀ base name, callee = .propertyAccess base name → ¬CallsHelper scope base

/-- All callees in a tree are plain. -/
def HasPlainCallees (scope : Scope) (tree : Node) : Prop :=
  ∀ inner callee arguments, Stands inner (.callExpression callee arguments) scope tree →
    IsPlainCallee inner callee

/-- No call in a tree means the library. -/
def IsRid (scope : Scope) (tree : Node) : Prop :=
  ∀ inner callee arguments, Stands inner (.callExpression callee arguments) scope tree →
    ∀ role, ¬inner.plays role callee

variable {context : Context} {scope inner : Scope} {room : Nat} {node place part copied : Node}

/-! ### References in copies -/

/-- The rule for a node that is no localizing call. -/
theorem rewrites_of_copyNode (hi : node.isInner) (hh : ¬CallsHelper scope node)
    (h : (copyNode context scope room node).Returns copied) :
    ∃ taken, Rewrites context scope node taken ∧ Ends context scope room taken copied := by
  obtain ⟨base, taken, hp, hs, he⟩ := ends_of_copyNode h
  cases hp with
  | done hn => exact ⟨taken, rewrites_of_nodeStep hi hn hs, he⟩
  | call hr => exact absurd (plays_of_calleeRole? hr) hh

theorem isReference_literalOf {isRich : Bool} {template : Template} :
    isReference (literalOf isRich template) = false := by
  unfold literalOf
  split_ifs <;> rfl

/-- A reference in a copy was there before, or is a member of a copy. -/
theorem cases_of_copyNode_reference (hi : node.isInner) (hh : ¬CallsHelper scope node)
    (h : (copyNode context scope room node).Returns copied) (hr : isReference copied) :
    copied = node ∨ ∃ base later name inner, node = .propertyAccess base name ∧
      copied = .propertyAccess later name ∧ (copyNode context scope inner base).Returns later := by
  obtain ⟨taken, hrw, he⟩ := rewrites_of_copyNode hi hh h
  cases hrw with
  | name =>
    cases he
    exact .inl rfl
  | event | text | locale =>
    cases he
    cases hr
  | message =>
    cases he
    rw [isReference_literalOf] at hr
    cases hr
  | markup =>
    cases he
    cases hr
  | whole hw =>
    cases he with
    | inside ht =>
      have hk := Node.kind?_of_traverse hi ht
      cases node with
      | propertyAccess base name =>
        obtain ⟨later, hl, ht⟩ := Run.Returns.of_bind ht
        cases Run.Returns.of_pure ht
        exact .inr ⟨base, later, name, _, rfl, rfl, hl⟩
      | identifier => exact hw.elim
      | _ =>
        cases copied with
        | identifier | propertyAccess => cases hk
        | _ => cases hr

/-- A plain reference in a copy was the same reference before. -/
theorem eq_of_copyNode_reference (hi : node.isInner) (hf : IsPlainCallee scope node)
    (hb : ∀ base name, node = .propertyAccess base name → base.isInner)
    (h : (copyNode context scope room node).Returns copied) (hr : isReference copied) :
    copied = node := by
  rcases cases_of_copyNode_reference hi hf.1 h hr with
    heq | ⟨base, later, name, inner, rfl, rfl, hl⟩
  · exact heq
  · have hlater : isReference later := by
      cases later with
      | identifier => rfl
      | _ => cases hr
    rcases cases_of_copyNode_reference (hb base name rfl) (hf.2 base name rfl) hl hlater with
      rfl | ⟨_, _, _, _, _, rfl, _⟩
    · rfl
    · cases hr

/-! ### The invariant -/

theorem HasPlainCallees.of_stands (h : HasPlainCallees scope node)
    (hp : Stands inner part scope node) : HasPlainCallees inner part :=
  fun _ _ _ hs => h _ _ _ (hs.trans hp)

/-- A localizing call as a callee would be a call of the library itself. -/
theorem IsRid.hasPlainCallees (h : IsRid scope node) : HasPlainCallees scope node := by
  intro inner callee arguments hs
  have hcallee : Stands inner callee scope node := .trans (.inside List.mem_cons_self .here) hs
  have hnot (part : Node) (hp : Stands inner part scope node) : ¬CallsHelper inner part := by
    intro hc
    cases part with
    | callExpression => exact h _ _ _ hp _ hc
    | _ => exact hc
  refine ⟨hnot callee hcallee, fun base name heq => ?_⟩
  subst heq
  exact hnot base (.trans (.inside List.mem_cons_self .here) hcallee)

theorem isRid_of_isNeutral (hn : isNeutral node)
    (h : ∀ child ∈ node.children, IsRid (scope.inside node) child) : IsRid scope node := by
  intro inner callee arguments hs
  cases hs with
  | here => cases hn
  | inside hc hs => exact h _ hc _ _ _ hs

theorem isRid_identifier {x : String} : IsRid scope (.identifier x) := by
  intro inner callee arguments hs
  cases hs with
  | inside hc => cases hc

theorem hasPlainCallees_of_isReadable (h : TemplateText.IsReadable node) :
    HasPlainCallees scope node := by
  intro inner callee arguments hs
  cases hs with
  | here => cases h
  | inside hc =>
    cases node with
    | identifier | rawExpression => cases hc
    | _ => cases h

/-- No call of the library is in the copy of an expression whose callees are plain. -/
theorem invariant_isRid : Invariant context HasPlainCallees IsRid where
  again := IsRid.hasPlainCallees
  part h hp := h.of_stands hp.stands
  base h _ := h.of_stands (.inside (List.mem_cons_of_mem _ List.mem_cons_self) .here)
  argument h _ ha := h.of_stands (.inside (List.mem_cons_of_mem _ ha) .here)
  child _ h _ hc := h.of_stands (.inside hc .here)
  translated _ hr := hasPlainCallees_of_isReadable hr
  name _ _ := isRid_identifier
  markupTag _ := isRid_identifier
  messageTag _ _ _ := isRid_identifier
  call {scope room callee copied arguments others} hb hr hf hcopy hc ho := by
    intro inner callee' arguments' hs
    cases hs with
    | here =>
      intro role hplays
      have hplain := hb scope callee arguments .here
      have hbase (base : Node) (name : String) (heq : callee = .propertyAccess base name) :
          base.isInner := by
        subst heq
        exact Node.isInner_of_fits (by rfl) hf
      have heq := eq_of_copyNode_reference (Node.isInner_of_fits (by rfl) hf)
        hplain hbase hcopy (isReference_of_plays hplays)
      exact calleeRole?_eq_none_iff.1 hr role (heq ▸ hplays)
    | inside hm hs =>
      rcases List.mem_cons.1 hm with rfl | hm
      · exact hc _ _ _ hs
      · exact ho _ hm _ _ _ hs
  function _ h := by
    intro inner callee arguments hs
    cases hs with
    | inside hm hs =>
      rw [List.mem_singleton.1 hm] at hs
      exact h _ _ _ hs
  neutral := isRid_of_isNeutral

/-! ### Copies of files -/

section Files

variable {program : Program} {file : SourceFile} {own copy : Body}

theorem isRid_of_mem_expressions (hw : file.IsWellTyped)
    (hp : HasPlainCallees (.ofFile program file) file.toNode) (ho : own ∈ bodies program file)
    (h : BodyCopied context own copy) : ∀ e ∈ copy.expressions, IsRid own.scope e :=
  invariant_isRid.of_mem_expressions hw ho h fun _ hs _ _ he inner callee arguments hst =>
    hp inner callee arguments (stands_toNode_of_mem hw ho hs he rfl hst)

/-- The imports in a body's copy are imports of other modules than those of the library. -/
theorem not_isLocalizeModule_of_mem {d : ImportDeclaration} (h : BodyCopied context own copy)
    (hd : .importDeclaration d ∈ copy.statements) :
    ¬own.scope.program.isLocalizeModule d.specifier := by
  obtain ⟨statement, hs, hr⟩ := exists_left_of_forall₂ h.1 hd
  cases hr
  have hstays := (List.mem_filter.1 hs).2
  simpa [stays, importsLocalizeModule] using hstays

/-- The imports in the copy of a file are imports of other modules than those of the library. -/
theorem not_isLocalizeModule_of_within {out : SourceFile} {d : ImportDeclaration}
    (hout : out.IsWellTyped)
    (h : List.Forall₂ (BodyCopied context) (bodies program file) (bodies program out))
    (hd : Node.Within (.importDeclaration d) out.toNode) :
    ¬program.isLocalizeModule d.specifier := by
  have hmem := (List.forall₂_and_left _ _).2 ⟨fun _ (hm : _ ∈ bodies program file) => hm, h⟩
  obtain ⟨copy, hc, hd⟩ := exists_body_of_within program hout hd rfl
  obtain ⟨own, -, hm, hb⟩ := exists_left_of_forall₂ hmem hc
  rw [← program_of_mem_bodies hm]
  exact not_isLocalizeModule_of_mem hb hd

/-- A reference in a file means an export of a module that the file imports. -/
theorem exists_import_of_resolve? {reference : Node} {e : Export}
    (h : Stands inner node (.ofFile program file) file.toNode)
    (hr : inner.resolve? reference = some e) :
    ∃ d name, .importDeclaration d ∈ file.statements ∧
      program.resolve? d.specifier name = some e := by
  obtain ⟨frame, hf, x, binding, name, hb, hres⟩ := exists_binding_of_follow hr
  have hprogram : inner.program = program := program_of_stands h
  have himport : ∀ frame ∈ inner.frames, ∀ x binding, frame.binding? x = some binding →
      ∃ d, .importDeclaration d ∈ file.statements ∧ binding.module = d.specifier := by
    refine forall_frames_of_stands h (fun parameters statements x binding hb => ?_) ?_
    · obtain ⟨⟨node, -, hn⟩, -⟩ := Frame.mem_of_binding?_ofBody hb
      cases node <;> cases hn
    · refine List.forall_mem_singleton.2 fun x binding hb => ?_
      obtain ⟨⟨node, hm, hn⟩, -⟩ := Frame.mem_of_binding?_ofBody hb
      cases node with
      | importDeclaration d => exact ⟨d, hm, Frame.module_of_mem_bindings hn⟩
      | _ => cases hn
  obtain ⟨d, hd, hm⟩ := himport frame hf x binding hb
  exact ⟨d, name, hd, hprogram ▸ hm ▸ hres⟩

/-- No import of the library and no call that means it is left in the copy of a file, calls read in
the scopes in which they were copied. Read in the scopes of the copy, a callee means nothing but
exports of the modules that are still imported, which neither ask for messages nor localize base
classes. -/
theorem not_plays_of_localizeFile {locale : String} {translations : Option (List Message)}
    {requested : Int} {out : SourceFile} {events : List Event} (hw : file.IsWellTyped)
    (hp : HasPlainCallees (.ofFile program file) file.toNode)
    (h : (localizeFile program locale translations requested file).perform = (.ok out, events)) :
    out.IsWellTyped ∧
      (∀ d, Node.Within (.importDeclaration d) out.toNode →
        ¬program.isLocalizeModule d.specifier) ∧
      List.Forall₂ (fun own copy => ∀ e ∈ copy.expressions, IsRid own.scope e)
        (bodies program file) (bodies program out) ∧
      ∀ inner callee arguments e,
        Stands inner (.callExpression callee arguments) (.ofFile program out) out.toNode →
        inner.resolve? callee = some e →
          ¬e.playsAny [.message, .localized] ∧
            ∃ d name, Node.Within (.importDeclaration d) out.toNode ∧
              program.resolve? d.specifier name = some e := by
  obtain ⟨context, -, hout, hbodies⟩ := exists_of_localizeFile hw (Run.returns_of_perform h)
  have hmem := (List.forall₂_and_left _ _).2 ⟨fun _ (hm : _ ∈ bodies program file) => hm, hbodies⟩
  have himports (d : ImportDeclaration) (hd : Node.Within (.importDeclaration d) out.toNode) :
      ¬program.isLocalizeModule d.specifier := not_isLocalizeModule_of_within hout hbodies hd
  refine ⟨hout, himports, hmem.imp fun own copy hb => isRid_of_mem_expressions hw hp hb.1 hb.2,
    fun inner callee arguments e hs he => ?_⟩
  obtain ⟨d, name, hd, hr⟩ := exists_import_of_resolve? hs he
  have hd : Node.Within (.importDeclaration d) out.toNode := .inside hd .here
  exact ⟨fun hplays => himports d hd (isLocalizeModule_of_resolve? hr hplays), d, name, hd, hr⟩

/-! ### A name that a localizing call gives -/

/-- A file in which a localizing call gives another name to the export that sets the locale. -/
def renamingFile : SourceFile where
  fileName := "app.ts"
  statements := [
    .importDeclaration { specifier := "library", named := [⟨"Localized", none⟩] },
    .importDeclaration { specifier := "library", whole := some "l" },
    .importDeclaration { specifier := "settings", named := [⟨"setLocale", none⟩] },
    .classDeclaration "View" (some (.callExpression (.identifier "Localized") [.identifier "Base"]))
      [.methodDeclaration "render" [] [
        .variableDeclaration "t" (some (.propertyAccess (.identifier "l") "msg")) "const" false,
        .returnStatement (some (.callExpression (.identifier "t") [.stringLiteral "Hello"]))]] true,
    .variableDeclaration "set"
      (some (.callExpression (.identifier "Localized") [.identifier "setLocale"])) "const" false,
    .expressionStatement (.callExpression (.identifier "set") [.objectLiteral []])]

/-- The copy of that file. -/
def renamedFile : SourceFile where
  fileName := "app.ts"
  statements := [
    .importDeclaration { specifier := "settings", named := [⟨"setLocale", none⟩] },
    .classDeclaration "View" (some (.identifier "Base"))
      [.methodDeclaration "render" [] [.returnStatement (some (.stringLiteral "Hello"))]] true,
    .variableDeclaration "set" (some (.identifier "setLocale")) "const" false,
    .expressionStatement (.callExpression (.identifier "set") [.objectLiteral []])]

/-- A program with the library and a module that only sets locales. -/
def renamingProgram : Program where
  files := [renamingFile]
  modules := [
    ⟨"library", [
      { name := "msg", marks := [Role.message.mark], module := "library" },
      { name := "Localized", marks := [Role.localized.mark], module := "library" }]⟩,
    ⟨"settings", [
      { name := "setLocale", marks := [Role.configureRun.mark], module := "settings" }]⟩]

theorem hasPlainCallees_renamingFile :
    HasPlainCallees (.ofFile renamingProgram renamingFile) renamingFile.toNode := by
  intro inner callee arguments h
  have hname : ∃ x, callee = .identifier x := by
    generalize Scope.ofFile renamingProgram renamingFile = scope at h
    simp only [SourceFile.toNode, renamingFile, stands_iff, reduceCtorEq, and_false,
      Node.children, standsIn_cons, standsIn_nil, or_self, Option.toList_some, List.cons_append,
      List.nil_append, Node.callExpression.injEq, or_false, false_or] at h
    grind
  obtain ⟨x, rfl⟩ := hname
  exact ⟨id, by simp⟩

theorem perform_renamingFile :
    (localizeFile renamingProgram "de" none 100 renamingFile).perform =
      (.ok renamedFile,
        [.importRemoved "library" "app.ts", .importRemoved "library" "app.ts"]) := by
  delta localizeFile copyFile copyNode
  rfl

theorem not_plays_of_localizeFile_renaming :
    renamingFile.IsWellTyped ∧
    HasPlainCallees (.ofFile renamingProgram renamingFile) renamingFile.toNode ∧
    (localizeFile renamingProgram "de" none 100 renamingFile).perform =
      (.ok renamedFile,
        [.importRemoved "library" "app.ts", .importRemoved "library" "app.ts"]) ∧
    renamedFile.IsWellTyped ∧
    (∀ d, Node.Within (.importDeclaration d) renamedFile.toNode →
      ¬renamingProgram.isLocalizeModule d.specifier) ∧
    List.Forall₂ (fun own copy => ∀ e ∈ copy.expressions, IsRid own.scope e)
      (bodies renamingProgram renamingFile) (bodies renamingProgram renamedFile) ∧
    ∀ inner callee arguments e,
      Stands inner (.callExpression callee arguments) (.ofFile renamingProgram renamedFile)
        renamedFile.toNode →
      inner.resolve? callee = some e →
        ¬e.playsAny [.message, .localized] ∧
          ∃ d name, Node.Within (.importDeclaration d) renamedFile.toNode ∧
            renamingProgram.resolve? d.specifier name = some e := by
  have hw : renamingFile.IsWellTyped := by decide
  exact ⟨hw, hasPlainCallees_renamingFile, perform_renamingFile,
    not_plays_of_localizeFile hw hasPlainCallees_renamingFile perform_renamingFile⟩

/-- Read in the scopes of the copy, a call may well set the locale: the name that a localizing call
gave to the export means it there. -/
theorem not_forall_not_plays :
    ¬∀ (program : Program) (file out : SourceFile) (locale : String)
      (translations : Option (List Message)) (requested : Int) (events : List Event),
      file ∈ program.files → file.IsWellTyped →
      HasPlainCallees (.ofFile program file) file.toNode →
      (localizeFile program locale translations requested file).perform = (.ok out, events) →
      ∀ inner callee arguments,
        Stands inner (.callExpression callee arguments) (.ofFile program out) out.toNode →
          ∀ role, ¬inner.plays role callee := by
  intro h
  have hs : Stands (.ofFile renamingProgram renamedFile)
      (.callExpression (.identifier "set") [.objectLiteral []])
      (.ofFile renamingProgram renamedFile) renamedFile.toNode := by
    have hm : .expressionStatement (.callExpression (.identifier "set") [.objectLiteral []]) ∈
        renamedFile.toNode.children := by
      simp [SourceFile.toNode, renamedFile, Node.children]
    exact .inside hm (.inside List.mem_cons_self .here)
  refine h renamingProgram renamingFile renamedFile "de" none 100 _ (by simp [renamingProgram])
    (by decide) hasPlainCallees_renamingFile perform_renamingFile _ _ _ hs .configureRun ?_
  decide

end Files

end Polyglot.Localize
