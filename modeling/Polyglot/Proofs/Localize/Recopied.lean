import Polyglot.Proofs.Localize.Untouched

/-!
# Copies of copies

The copy of a file is a file of which no more copies are made: copied again, for any locale and with
any translations, it stays as it is or is too high for the limit (`localizeFile_of_localizeFile`).
The modules of the library are no longer imported, and no slot of a markup template holds a string
or a plain template, because the first copy has taken these in.

Two things may be left for a second copy. Markup is taken in where it stands in a slot itself, but
stays a slot of a plain template, also when that template is then taken in by markup. And a module
that only sets locales, or only names the status event, is none of the library: its import stays,
and so may a reference by way of it.
-/

namespace Polyglot.Localize

open Source Scope

variable {context : Context} {scope : Scope} {room : Nat} {node base out part e : Node}
  {place : Place} {template : Template} {fragments : List Fragment} {isRich : Bool}
  {before after : Scope → Node → Prop}

/-! ### Slots of copies -/

theorem isOpaque_of_inlined {flat : Bool → Template → Run (List Fragment)}
    (h : (inlined flat isRich e).Returns none) : isOpaque isRich e := by
  cases e with
  | stringLiteral => cases Run.Returns.of_pure h
  | templateLiteral =>
    obtain ⟨_, _, heq⟩ := Run.Returns.of_map h
    cases heq
  | taggedTemplate tag literal =>
    cases isRich with
    | false => rfl
    | true =>
      cases hr : richTemplate? (.taggedTemplate tag literal) with
      | none => simp [isOpaque, hr]
      | some template =>
        simp only [inlined, hr] at h
        obtain ⟨_, _, heq⟩ := Run.Returns.of_map h
        cases heq
  | _ => cases isRich <;> rfl

theorem isOpaque_false (h : isOpaque isRich e) : isOpaque false e := by
  cases e with
  | stringLiteral | templateLiteral => cases h
  | _ => rfl

/-- All markup templates of a tree are rid of strings and plain templates in their slots. -/
def IsFlatTree (tree : Node) : Prop :=
  tree.Everywhere (IsFlat false)

theorem isFlatTree_of_children (hr : richTemplate? node = none)
    (h : ∀ child ∈ node.children, IsFlatTree child) : IsFlatTree node :=
  Node.everywhere_iff.2 ⟨by simp [IsFlat, hr], h⟩

theorem isFlatTree_toNode (h : ∀ span ∈ template.spans, IsFlatTree span.expression) :
    IsFlatTree template.toNode := by
  refine isFlatTree_of_children rfl fun node hm => ?_
  obtain ⟨span, hs, rfl⟩ := List.mem_map.1 hm
  exact isFlatTree_of_children rfl (List.forall_mem_singleton.2 (h span hs))

theorem isFlatTree_string {text : String} : IsFlatTree (.stringLiteral text) :=
  isFlatTree_of_children rfl (by simp [Node.children])

theorem isFlatTree_identifier {x : String} : IsFlatTree (.identifier x) :=
  isFlatTree_of_children rfl (by simp [Node.children])

theorem isFlatTree_localeObject {locale : String} : IsFlatTree (localeObject locale) := by
  refine isFlatTree_of_children rfl (List.forall_mem_singleton.2 ?_)
  refine isFlatTree_of_children rfl (List.forall_mem_singleton.2 ?_)
  exact isFlatTree_of_children rfl (List.forall_mem_singleton.2 isFlatTree_string)

theorem isFlatTree_tagged
    (h : ∀ span ∈ template.spans, IsFlatTree span.expression ∧ isOpaque false span.expression) :
    IsFlatTree (.taggedTemplate (.identifier richTag) template.toNode) := by
  refine Node.everywhere_iff.2 ⟨fun own ho span hs => ?_, ?_⟩
  · obtain rfl : template = own := by
      simpa [richTemplate?, Template.toNode] using ho
    exact (h span hs).2
  · exact List.forall_mem_cons.2 ⟨isFlatTree_identifier,
      List.forall_mem_singleton.2 (isFlatTree_toNode fun span hs => (h span hs).1)⟩

theorem isFlatTree_literalOf
    (h : ∀ span ∈ template.spans, IsFlatTree span.expression ∧ isOpaque false span.expression) :
    IsFlatTree (literalOf isRich template) := by
  unfold literalOf
  split_ifs
  · exact isFlatTree_tagged h
  · exact isFlatTree_string
  · exact isFlatTree_toNode fun span hs => (h span hs).1

/-- The copy of a tag is the tag of markup only if the tag is. -/
theorem eq_richTag_of_copyNode (hi : node.isInner) (hh : ¬CallsHelper scope node)
    (h : (copyNode context scope room node).Returns (.identifier richTag)) :
    node = .identifier richTag := by
  rcases cases_of_copyNode_reference hi hh h rfl with heq | ⟨_, _, _, _, _, heq, _⟩
  · exact heq.symm
  · cases heq

section Flat

variable (I : Invariant context before after)
  (hc : Invariant.CopyKeeps context before (fun _ => IsFlatTree) room)

include I hc in
/-- A node with flat copies of its children is flat: it is no markup template, or it was one. -/
theorem flat_of_whole (ht : ∀ {scope tag literal}, before scope (.taggedTemplate tag literal) →
      ¬CallsHelper scope tag)
    (hw : IsWhole scope node) (hp : place.isInner) (hn : node.fits place) (hb : before scope node)
    (h : (node.traverse (copyNode context (scope.inside node) room)).Returns out) :
    IsFlatTree out := by
  have hi := Node.isInner_of_fits hp hn
  have hchild (child : Node) (hm : child ∈ node.children) (answer : Node)
      (hr : (copyNode context (scope.inside node) room child).Returns answer) :
      answer.isInner ∧ IsFlatTree answer := by
    obtain ⟨place, hp, hf⟩ := Node.exists_fits_child hp hn hm
    obtain ⟨hfits, hflat⟩ := hc hp hf (I.child hi hb hw hm) hr
    exact ⟨Node.isInner_of_fits hp hfits, hflat⟩
  obtain ⟨answers, ha, rfl⟩ := Node.exists_of_traverse hi h fun child hm answer hr =>
    (hchild child hm answer hr).1
  refine isFlatTree_of_children ?_ ?_
  · rw [Option.eq_none_iff_forall_ne_some]
    intro template hr
    obtain ⟨head, spans, heq, -⟩ := richTemplate?_eq_some hr
    have hk := heq ▸ Node.kind?_of_traverse hi h
    cases node with
    | taggedTemplate tag literal =>
      obtain rfl := Invariant.place_of_tagged hp hn
      obtain ⟨htag, hliteral⟩ := Bool.and_eq_true_iff.1 hn
      obtain ⟨copied, others, hcopy, ho, rfl⟩ := List.forall₂_cons_left_iff.1 ha
      obtain ⟨later, _, -, hnil, rfl⟩ := List.forall₂_cons_left_iff.1 ho
      cases hnil
      obtain ⟨rfl, rfl⟩ := Node.taggedTemplate.inj heq
      obtain rfl := eq_richTag_of_copyNode (Node.isInner_of_fits (by rfl) htag) (ht hb) hcopy
      cases literal with
      | templateLiteral => cases hw
      | _ => simp [Node.fits] at hliteral
    | _ => cases hk
  · rw [Node.children_withChildren hi ha.length_eq]
    intro answer hm
    obtain ⟨child, hcm, hr⟩ := exists_left_of_forall₂ ((List.forall₂_and_left _ _).2
      ⟨fun _ (hc : _ ∈ node.children) => hc, ha⟩) hm
    exact (hchild child hr.1 answer hr.2).2

include I in
/-- What an expression leads to by a rule is flat. -/
theorem flat_of_ends (ht : ∀ {scope tag literal}, before scope (.taggedTemplate tag literal) →
      ¬CallsHelper scope tag)
    (hc : ∀ inner, room = inner + 1 →
      Invariant.CopyKeeps context before (fun _ => IsFlatTree) inner)
    (hf : ∀ inner, room = inner + 1 → Invariant.FlattenKeeps context before
      (fun _ part => IsFlatTree part ∧ isOpaque false part) inner) {taken : Step}
    (hr : Rewrites context scope node taken) (hp : place.isInner) (hn : node.fits place)
    (hb : before scope node) (he : Ends context scope room taken out) : IsFlatTree out := by
  cases hr with
  | name =>
    cases he
    exact isFlatTree_identifier
  | event | text =>
    cases he
    exact isFlatTree_string
  | locale =>
    cases he
    exact isFlatTree_localeObject
  | message hr h =>
    obtain rfl := Invariant.place_of_call hp hn
    cases he with
    | message hfl =>
      have hargs := Node.fitsAll_iff.1 (Bool.and_eq_true_iff.1 hn).2
      exact isFlatTree_literalOf fun span hs =>
        (hf _ rfl (I.message hb hr h hargs) hfl _ (slot_mem_of_mem_ofFragments hs)).2
  | markup h =>
    obtain rfl := Invariant.place_of_tagged hp hn
    obtain ⟨head, spans, heq, rfl⟩ := richTemplate?_eq_some h
    obtain ⟨rfl, rfl⟩ := Node.taggedTemplate.inj heq
    cases he with
    | markup hfl =>
      exact isFlatTree_tagged fun span hs =>
        (hf _ rfl (I.markup hb hn) hfl _ (slot_mem_of_mem_ofFragments hs)).2
  | whole hw =>
    cases he with
    | inside h => exact flat_of_whole I (hc _ rfl) ht hw hp hn hb h

include I in
/-- Copies are flat, and slots of flattened templates hold neither strings nor plain templates. -/
theorem flat_levels
    (ht : ∀ {scope tag literal}, before scope (.taggedTemplate tag literal) →
      ¬CallsHelper scope tag) (room : Nat) :
    Invariant.CopyKeeps context before (fun _ => IsFlatTree) room ∧
      Invariant.FlattenKeeps context before
        (fun _ part => IsFlatTree part ∧ isOpaque false part) room := by
  refine I.levels (fun hl hr hp hn hb he => ⟨?_, ?_⟩) (fun _ hf hb h => ?_)
    (fun hc hf hb h hn => ?_) room
  · exact (I.ends (fun inner _ => (I.keeps inner).1) (fun inner _ => (I.keeps inner).2) hr hp hn
      hb he).1
  · exact flat_of_ends I ht (fun inner h => (hl inner h).1) (fun inner h => (hl inner h).2) hr hp hn
      hb he
  · exact I.again (I.copyNode rfl hf hb h).2
  · exact ⟨(hc rfl hf hb h).2, isOpaque_false (isOpaque_of_inlined hn)⟩

end Flat

/-- No tag in a tree is a localizing call. -/
def HasPlainTags (scope : Scope) (tree : Node) : Prop :=
  ∀ inner tag literal, Stands inner (.taggedTemplate tag literal) scope tree →
    ¬CallsHelper inner tag

theorem HasPlainTags.of_stands {inner : Scope} (h : HasPlainTags scope node)
    (hp : Stands inner part scope node) : HasPlainTags inner part :=
  fun _ _ _ hs => h _ _ _ (hs.trans hp)

theorem IsRid.hasPlainTags (h : IsRid scope node) : HasPlainTags scope node := by
  intro inner tag literal hs hc
  cases tag with
  | callExpression => exact h _ _ _ (.trans (.inside List.mem_cons_self .here) hs) _ hc
  | _ => exact hc

theorem hasPlainTags_of_isReadable (h : TemplateText.IsReadable node) :
    HasPlainTags scope node := by
  intro inner tag literal hs
  cases hs with
  | here => cases h
  | inside hc =>
    cases node with
    | identifier | rawExpression => cases hc
    | _ => cases h

/-- The copy of an expression whose callees and tags are plain is flat. -/
theorem isFlatTree_of_copyNode (hp : place.isInner) (hn : node.fits place)
    (hc : HasPlainCallees scope node) (ht : HasPlainTags scope node)
    (h : (copyNode context scope room node).Returns out) : IsFlatTree out := by
  have I : Invariant context (fun scope node => HasPlainCallees scope node ∧
      HasPlainTags scope node) IsRid :=
    invariant_isRid.restrict HasPlainTags.of_stands IsRid.hasPlainTags hasPlainTags_of_isReadable
  exact ((flat_levels I (fun h => h.2 _ _ _ .here) room).1 hp hn ⟨hc, ht⟩ h).2

/-! ### Files -/

/-- A reference in a file means an export of the library, by way of an import from a module that is
none of the library. -/
def StillMeansLibrary (program : Program) (file : SourceFile) : Prop :=
  ∃ inner reference e, Stands inner reference (.ofFile program file) file.toNode ∧
    inner.resolve? reference = some e ∧ IsLibraryExport program e ∧
    ∃ d name, .importDeclaration d ∈ file.statements ∧
      program.resolve? d.specifier name = some e ∧ ¬program.isLocalizeModule d.specifier

/-- No markup template of a tree has markup in a slot. -/
def HasNoNestedMarkup (tree : Node) : Prop :=
  tree.Everywhere fun node =>
    ∀ template ∈ richTemplate? node, ∀ span ∈ template.spans, richTemplate? span.expression = none

theorem isOpaque_true (h : isOpaque false e) (hn : richTemplate? e = none) : isOpaque true e := by
  cases e with
  | stringLiteral | templateLiteral => cases h
  | _ => simp [isOpaque, hn]

theorem isFlat_of_hasNoNestedMarkup {tree : Node} (h : IsFlatTree tree)
    (hn : HasNoNestedMarkup tree) : tree.Everywhere (IsFlat true) :=
  fun part hp template ht span hs =>
    isOpaque_true (h part hp template ht span hs) (hn part hp template ht span hs)

section Files

variable {program : Program} {file out : SourceFile} {files : List SourceFile} {own copy : Body}

/-- What exports mean does not depend on the files of a program. -/
theorem resolve?_files : ({ program with files } : Program).resolve? = program.resolve? := by
  have hfollow (fuel : Nat) :
      ({ program with files } : Program).follow fuel = program.follow fuel := by
    induction fuel with
    | zero => rfl
    | succ fuel ih =>
      funext specifier name
      rw [Program.follow, Program.follow, ih]
      rfl
  exact hfollow _

theorem isLocalizeModule_files :
    ({ program with files } : Program).isLocalizeModule = program.isLocalizeModule := by
  funext specifier
  rw [Program.isLocalizeModule, Program.isLocalizeModule, resolve?_files]
  rfl

theorem isFlatTree_of_mem_expressions (hw : file.IsWellTyped)
    (hc : HasPlainCallees (.ofFile program file) file.toNode)
    (ht : HasPlainTags (.ofFile program file) file.toNode) (ho : own ∈ bodies program file)
    (h : BodyCopied context own copy) : ∀ e ∈ copy.expressions, IsFlatTree e := by
  intro later hl
  obtain ⟨statement, hs, -, e, he, room, hcopy⟩ := h.exists_of_mem hl
  have hf := fits_of_mem_ownExpressions
    (Node.fitsAll_iff.1 (fits_of_mem_bodies hw ho) statement hs) he
  refine isFlatTree_of_copyNode (by rfl) hf (fun inner callee arguments hst => ?_)
    (fun inner tag literal hst => ?_) hcopy
  · exact hc inner callee arguments (stands_toNode_of_mem hw ho hs he rfl hst)
  · exact ht inner tag literal (stands_toNode_of_mem hw ho hs he rfl hst)

/-- No markup template in the copy of a file has a string or a plain template in a slot. -/
theorem isFlatTree_toNode_of_bodies (hw : file.IsWellTyped) (hout : out.IsWellTyped)
    (hc : HasPlainCallees (.ofFile program file) file.toNode)
    (ht : HasPlainTags (.ofFile program file) file.toNode)
    (h : List.Forall₂ (BodyCopied context) (bodies program file) (bodies program out)) :
    IsFlatTree out.toNode := by
  intro part hp template hr
  obtain ⟨inner, hs⟩ := exists_stands_of_within (.ofFile program out) hp
  obtain ⟨head, spans, rfl, -⟩ := richTemplate?_eq_some hr
  obtain ⟨copy, hm, e, he, hst⟩ := (stands_toNode_iff hout rfl).1 hs
  obtain ⟨own, -, ho, hb⟩ := exists_left_of_forall₂ ((List.forall₂_and_left _ _).2
    ⟨fun _ (hm : _ ∈ bodies program file) => hm, h⟩) hm
  exact isFlatTree_of_mem_expressions hw hc ht ho hb e he _ hst.within template hr

/-- No rule of the copy applies to the copy of a file if no reference in it means the library and no
markup in it has markup in a slot. -/
theorem allSettled_of_bodies (hout : out.IsWellTyped)
    (h : List.Forall₂ (BodyCopied context) (bodies program file) (bodies program out))
    (hl : ¬StillMeansLibrary { program with files } out) (hflat : IsFlatTree out.toNode)
    (hn : HasNoNestedMarkup out.toNode) :
    AllSettled (.ofFile { program with files } out) out.toNode := by
  have himport (d : ImportDeclaration) (hd : Node.Within (.importDeclaration d) out.toNode) :
      ¬({ program with files } : Program).isLocalizeModule d.specifier := by
    rw [isLocalizeModule_files]
    exact not_isLocalizeModule_of_within hout h hd
  refine allSettled_of_unrelated himport (fun inner reference e hs hr he => hl ?_)
    (isFlat_of_hasNoNestedMarkup hflat hn)
  obtain ⟨d, name, hd, hname⟩ := exists_import_of_resolve? hs hr
  exact ⟨inner, reference, e, hs, hr, he, d, name, hd, hname, himport d (.inside hd .here)⟩

/-- **A copy is copied as it is**, for any locale and with any translations, or it is too high for
the limit. The markup in it has taken in all strings and plain templates that stood in its slots.
What a second copy may still act on is markup in a slot of markup, and a reference that means the
library through a module that is none of the library. -/
theorem localizeFile_of_localizeFile {locale : String} {translations : Option (List Message)}
    {requested : Int} {events : List Event} (hw : file.IsWellTyped)
    (hc : HasPlainCallees (.ofFile program file) file.toNode)
    (ht : HasPlainTags (.ofFile program file) file.toNode)
    (h : (localizeFile program locale translations requested file).perform = (.ok out, events)) :
    out.IsWellTyped ∧ IsFlatTree out.toNode ∧
      ∀ files, StillMeansLibrary { program with files } out ∨ ¬HasNoNestedMarkup out.toNode ∨
        ∀ later others again,
          (localizeFile { program with files } later others again out).perform =
              (.ok out, Depth.clampEvents Depth.standardReserve again) ∨
            ¬out.toNode.NoHigher (Depth.clamp Depth.standardReserve again).toNat ∧
              (localizeFile { program with files } later others again out).perform =
                (.error (.depth (Depth.clamp Depth.standardReserve again)),
                  Depth.clampEvents Depth.standardReserve again) := by
  obtain ⟨context, -, hout, hbodies⟩ := exists_of_localizeFile hw (Run.returns_of_perform h)
  have hflat := isFlatTree_toNode_of_bodies hw hout hc ht hbodies
  refine ⟨hout, hflat, fun files => ?_⟩
  by_cases hl : StillMeansLibrary { program with files } out
  · exact .inl hl
  by_cases hn : HasNoNestedMarkup out.toNode
  · exact .inr (.inr fun later others again =>
      perform_of_allSettled hout (allSettled_of_bodies hout hbodies hl hflat hn))
  · exact .inr (.inl hn)

/-! ### A page of several layers -/

/-- A file with markup around a message, a string and a plain template. -/
def layeredFile : SourceFile where
  fileName := "app.ts"
  statements := [
    .importDeclaration { specifier := "library", named := [⟨"msg", none⟩] },
    .expressionStatement (.taggedTemplate (.identifier richTag) (.templateLiteral "<p>" [
      .templateSpan (.callExpression (.identifier "msg") [
        .templateLiteral "Hi " [.templateSpan (.identifier "name") "!"]]) "",
      .templateSpan (.stringLiteral " You have ") "",
      .templateSpan (.templateLiteral "" [.templateSpan (.identifier "count") " new"]) "</p>"]))]

/-- The copy of that file. -/
def layeredCopy : SourceFile where
  fileName := "app.ts"
  statements := [
    .expressionStatement (.taggedTemplate (.identifier richTag) (.templateLiteral "<p>Hi " [
      .templateSpan (.identifier "name") "! You have ",
      .templateSpan (.identifier "count") " new</p>"]))]

/-- A program of one file, with the library. -/
def layeredProgram (file : SourceFile) : Program where
  files := [file]
  modules := [⟨"library", [{ name := "msg", marks := [Role.message.mark], module := "library" }]⟩]

theorem hasPlainCallees_layeredFile :
    HasPlainCallees (.ofFile (layeredProgram layeredFile) layeredFile) layeredFile.toNode := by
  intro inner callee arguments h
  generalize Scope.ofFile (layeredProgram layeredFile) layeredFile = scope at h
  simp only [SourceFile.toNode, layeredFile, stands_iff, reduceCtorEq, and_false, Node.children,
    standsIn_cons, standsIn_nil, or_self, Node.callExpression.injEq, or_false, false_or] at h
  obtain ⟨-, rfl, -⟩ := h
  exact ⟨id, by simp⟩

theorem hasPlainTags_layeredFile :
    HasPlainTags (.ofFile (layeredProgram layeredFile) layeredFile) layeredFile.toNode := by
  intro inner tag literal h
  generalize Scope.ofFile (layeredProgram layeredFile) layeredFile = scope at h
  simp only [SourceFile.toNode, layeredFile, stands_iff, reduceCtorEq, and_false, Node.children,
    standsIn_cons, standsIn_nil, or_self, Node.taggedTemplate.injEq, or_false, false_or] at h
  obtain ⟨-, rfl, -⟩ := h
  exact id

theorem hasNoNestedMarkup_layeredCopy : HasNoNestedMarkup layeredCopy.toNode := by
  intro part hp template ht span hspan
  obtain ⟨inner, h⟩ := exists_stands_of_within (.ofFile (layeredProgram layeredCopy) layeredCopy) hp
  obtain ⟨head, spans, rfl, rfl⟩ := richTemplate?_eq_some ht
  generalize Scope.ofFile (layeredProgram layeredCopy) layeredCopy = scope at h
  simp only [SourceFile.toNode, layeredCopy, stands_iff, reduceCtorEq, and_false, Node.children,
    standsIn_cons, standsIn_nil, or_self, Node.taggedTemplate.injEq, Node.templateLiteral.injEq,
    or_false, false_or] at h
  obtain ⟨-, -, rfl, rfl⟩ := h
  simp only [Template.ofParts, List.map_cons, List.map_nil, List.mem_cons, List.not_mem_nil,
    or_false] at hspan
  rcases hspan with rfl | rfl <;> rfl

/-- The second copy is the first, also for another locale. -/
theorem localizeFile_of_localizeFile_layers :
    layeredFile.IsWellTyped ∧
    HasPlainCallees (.ofFile (layeredProgram layeredFile) layeredFile) layeredFile.toNode ∧
    HasPlainTags (.ofFile (layeredProgram layeredFile) layeredFile) layeredFile.toNode ∧
    (localizeFile (layeredProgram layeredFile) "en" none 100 layeredFile).perform =
      (.ok layeredCopy, [.importRemoved "library" "app.ts"]) ∧
    ¬StillMeansLibrary (layeredProgram layeredCopy) layeredCopy ∧
    HasNoNestedMarkup layeredCopy.toNode ∧ layeredCopy.toNode.NoHigher 100 ∧
    ∀ later, (localizeFile (layeredProgram layeredCopy) later none 100 layeredCopy).perform =
      (.ok layeredCopy, []) := by
  have hw : layeredFile.IsWellTyped := by decide
  have h : (localizeFile (layeredProgram layeredFile) "en" none 100 layeredFile).perform =
      (.ok layeredCopy, [.importRemoved "library" "app.ts"]) := by
    delta localizeFile copyFile copyNode flatten
    rfl
  have hm : ¬StillMeansLibrary (layeredProgram layeredCopy) layeredCopy := by
    rintro ⟨_, _, _, _, _, _, d, _, hd, -⟩
    simp [layeredCopy] at hd
  have hl : layeredCopy.toNode.NoHigher 100 := by decide
  obtain ⟨-, -, hagain⟩ :=
    localizeFile_of_localizeFile hw hasPlainCallees_layeredFile hasPlainTags_layeredFile h
  have hcopy := ((hagain [layeredCopy]).resolve_left hm).resolve_left
    (not_not_intro hasNoNestedMarkup_layeredCopy)
  exact ⟨hw, hasPlainCallees_layeredFile, hasPlainTags_layeredFile, h, hm,
    hasNoNestedMarkup_layeredCopy, hl, fun later =>
      (hcopy later none 100).resolve_right fun h => h.1 hl⟩

/-! ### Markup in a plain template in markup -/

/-- A file with markup in a plain template that stands in markup. -/
def wrappedFile : SourceFile where
  fileName := "app.ts"
  statements := [
    .expressionStatement (.taggedTemplate (.identifier richTag) (.templateLiteral "" [
      .templateSpan (.templateLiteral "a " [
        .templateSpan (.taggedTemplate (.identifier richTag) (.templateLiteral "b" [])) ""]) ""]))]

/-- The copy of that file, with markup in a slot of markup. -/
def unwrappedFile : SourceFile where
  fileName := "app.ts"
  statements := [
    .expressionStatement (.taggedTemplate (.identifier richTag) (.templateLiteral "a " [
      .templateSpan (.taggedTemplate (.identifier richTag) (.templateLiteral "b" [])) ""]))]

/-- A copy need not be copied as it is: the plain template is taken in with the markup as a slot of
it, and the second copy takes in the markup. -/
theorem not_forall_localizeFile_of_localizeFile :
    ¬∀ (program : Program) (file out : SourceFile) (locale : String) (requested : Int)
      (events : List Event), file ∈ program.files → file.IsWellTyped →
      (localizeFile program locale none requested file).perform = (.ok out, events) →
      (localizeFile { program with files := [out] } locale none requested out).perform.1 =
        .ok out := by
  intro h
  have hfirst : (localizeFile (layeredProgram wrappedFile) "en" none 100 wrappedFile).perform =
      (.ok unwrappedFile, []) := by
    delta localizeFile copyFile copyNode flatten
    rfl
  have hsecond : (localizeFile (layeredProgram unwrappedFile) "en" none 100
      unwrappedFile).perform.1 = .ok ⟨[.expressionStatement (.taggedTemplate (.identifier richTag)
        (.templateLiteral "a b" []))], "app.ts"⟩ := by
    delta localizeFile copyFile copyNode flatten
    rfl
  have hagain := h (layeredProgram wrappedFile) wrappedFile unwrappedFile "en" 100 []
    List.mem_cons_self (by decide) hfirst
  have hsame := Except.ok.inj (hsecond.symm.trans hagain)
  simp [unwrappedFile] at hsame

end Files

end Polyglot.Localize
