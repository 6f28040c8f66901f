import Polyglot.Proofs.Localize.OwnTranslation

/-!
# Files that the copy leaves as they are

A node is settled if no rule of the copy does anything to it: no reference, callee or import means
the localization library, and no markup template holds a literal that it could take in. A file all
of whose nodes are settled is copied as it is, for every locale and with any translations, and
nothing is reported: `perform_of_allSettled`. All that may stand in the way is the limit of depth.
-/

namespace Polyglot.Source.Node

variable {node : Node} {nodes : List Node}

section Traverse

variable {f : Node → Run Node} {bad : Prop} {failure : Failure}

theorem traverseList_gives (hk : ∀ node ∈ nodes, node.kind?.isSome)
    (h : ∀ node ∈ nodes, (f node).GivesUnless bad failure node) :
    (traverseList f nodes).GivesUnless bad failure nodes := by
  induction nodes with
  | nil => exact .pure
  | cons node nodes ih =>
    rw [List.forall_mem_cons] at hk h
    obtain ⟨kind, hkind⟩ := Option.isSome_iff_exists.1 hk.1
    refine h.1.bind ((ih hk.2 h.2).bind ?_)
    rw [spliced_of_kind hkind]
    exact .pure

theorem traverseOption_gives {node : Option Node} (hk : ∀ n ∈ node, n.kind?.isSome)
    (h : ∀ n ∈ node, (f n).GivesUnless bad failure n) :
    (traverseOption f node).GivesUnless bad failure node := by
  cases node with
  | none => exact .pure
  | some node =>
    obtain ⟨kind, hkind⟩ := Option.isSome_iff_exists.1 (hk node rfl)
    rw [traverseOption, map_eq_pure_bind]
    refine (h node rfl).bind ?_
    rw [present?_of_kind hkind]
    exact .pure

/-- A node is rebuilt as it is if each of its children is answered for by itself. -/
theorem traverse_gives (hk : ∀ child ∈ node.children, child.kind?.isSome)
    (h : ∀ child ∈ node.children, (f child).GivesUnless bad failure child) :
    (node.traverse f).GivesUnless bad failure node := by
  cases node with
  | templateSpan | propertyAccess | arrowFunction | propertyAssignment | expressionStatement =>
    exact (h _ List.mem_cons_self).bind .pure
  | templateLiteral | objectLiteral | arrayLiteral | methodDeclaration | sourceFile =>
    exact (traverseList_gives hk h).bind .pure
  | taggedTemplate =>
    exact (h _ List.mem_cons_self).bind
      ((h _ (List.mem_cons_of_mem _ List.mem_cons_self)).bind .pure)
  | callExpression =>
    rw [children, List.forall_mem_cons] at hk h
    exact h.1.bind ((traverseList_gives hk.2 h.2).bind .pure)
  | variableDeclaration | returnStatement =>
    simp only [children, Option.mem_toList] at hk h
    exact (traverseOption_gives hk h).bind .pure
  | classDeclaration =>
    simp only [children, List.forall_mem_append, Option.mem_toList] at hk h
    exact (traverseOption_gives hk.1 h.1).bind ((traverseList_gives hk.2 h.2).bind .pure)
  | _ => exact .pure

end Traverse

/-- A literal whose slots stand in the places of slots is the literal of its template. -/
theorem toNode_ofParts {head : String} {spans : List Node} (h : fitsAll .span spans) :
    (Template.ofParts head spans).toNode = .templateLiteral head spans := by
  have hs : spans.map (Span.toNode ∘ Span.ofNode) = spans := by
    refine (List.map_congr_left fun node hm => ?_).trans (List.map_id spans)
    have hf := fitsAll_iff.1 h node hm
    cases node with
    | templateSpan => rfl
    | _ => simp [fits] at hf
  rw [Template.toNode, Template.ofParts, List.map_map, hs]

end Polyglot.Source.Node

namespace Polyglot.Localize

open Source Scope

/-- A markup template holds no literal in a slot that a template takes in. -/
def IsFlat (isRich : Bool) (node : Node) : Prop :=
  ∀ template ∈ richTemplate? node, ∀ span ∈ template.spans, isOpaque isRich span.expression

/-- No rule of the copy does anything to the node. -/
def IsSettled (scope : Scope) : Node → Prop
  | .identifier x => statusEvent? scope (.identifier x) = none
  | .propertyAccess expression name => statusEvent? scope (.propertyAccess expression name) = none
  | .callExpression callee _ => calleeRole? scope callee = none
  | .taggedTemplate tag template => IsFlat true (.taggedTemplate tag template)
  | .importDeclaration d => scope.importsLocalizeModule d = false
  | .variableDeclaration name initializer keyword exported =>
    isRoleRename scope (.variableDeclaration name initializer keyword exported) = false
  | _ => True

/-- All nodes of a tree are settled. -/
def AllSettled (scope : Scope) (tree : Node) : Prop :=
  ∀ inner part, Stands inner part scope tree → IsSettled inner part

/-- The export plays a part in localization, or is the status event. -/
def IsLibraryExport (program : Program) (e : Export) : Prop :=
  e.playsAny Role.all ∨ e.name = statusEventName ∧ program.isLocalizeModule e.module

variable {context : Context} {scope : Scope} {room : Nat} {node : Node} {place : Place}
  {template : Template} {isRich : Bool}

/-- A node is settled if no reference at it and no name that stands for a reference means an export
of the library, and the node is no import of the library and is flat. -/
theorem isSettled_of_not_isLibraryExport
    (hr : ∀ reference, Stands scope reference scope node → ∀ e,
      scope.resolve? reference = some e → ¬IsLibraryExport scope.program e)
    (hx : ∀ x, scope.isRename x → ∀ e, scope.resolve? (.identifier x) = some e →
      ¬IsLibraryExport scope.program e)
    (hi : ∀ d, node = .importDeclaration d → ¬scope.importsLocalizeModule d)
    (hf : IsFlat true node) : IsSettled scope node := by
  have hevent : statusEvent? scope node = none := by
    rw [Option.eq_none_iff_forall_ne_some]
    intro event he
    obtain ⟨e, hn, he⟩ := Option.bind_eq_some_iff.1 he
    split_ifs at he with hstatus
    obtain ⟨hname, hmodule⟩ := Bool.and_eq_true_iff.1 hstatus
    exact hr node .here e hn (.inr ⟨eq_of_beq hname, hmodule⟩)
  cases node with
  | identifier | propertyAccess => exact hevent
  | callExpression callee arguments =>
    refine calleeRole?_eq_none_iff.2 fun role hplays => ?_
    obtain ⟨e, hc, he⟩ := plays_iff.1 hplays
    refine hr callee (.inside List.mem_cons_self .here) e hc
      (.inl (List.any_eq_true.2 ⟨role, ?_, he⟩))
    cases role <;> decide
  | taggedTemplate => exact hf
  | importDeclaration d => exact Bool.eq_false_iff.2 (hi d rfl)
  | variableDeclaration name initializer keyword exported =>
    refine Bool.eq_false_iff.2 fun hrole => ?_
    rw [isRoleRename, Bool.and_eq_true, Bool.and_eq_true] at hrole
    obtain ⟨e, hn, he⟩ := Option.any_eq_true .. |>.1 hrole.2
    exact hx name hrole.1.2 e hn (.inl he)
  | _ => trivial

/-- The step at a settled node keeps it, takes its slots one by one or goes to its children. -/
theorem step_of_isSettled (h : IsSettled scope node) :
    step context scope node = pure (.done node) ∨
      (∃ tag literal template, node = .taggedTemplate tag literal ∧
        richTemplate? node = some template ∧
        step context scope node = pure (.markup tag template)) ∨
      step context scope node = pure (.inside (scope.inside node) node) := by
  cases node with
  | identifier x =>
    have hs : statusEvent? scope (.identifier x) = none := h
    refine .inl ?_
    change (pure (.done ((statusEvent? scope _).getD _)) : Run Step) = _
    rw [hs]
    rfl
  | importDeclaration d =>
    have hd : scope.importsLocalizeModule d = false := h
    refine .inl ?_
    change (if scope.importsLocalizeModule d then _ else _) = _
    rw [if_neg (by simp [hd])]
  | taggedTemplate tag literal =>
    change _ ∨ _ ∨ (pure (((richTemplate? _).map (Step.markup tag)).getD _) : Run Step) = _
    cases hr : richTemplate? (.taggedTemplate tag literal) with
    | none => exact .inr (.inr rfl)
    | some template =>
      refine .inr (.inl ⟨tag, literal, template, rfl, rfl, ?_⟩)
      change (pure (((richTemplate? _).map (Step.markup tag)).getD _) : Run Step) = _
      rw [hr]
      rfl
  | propertyAccess expression name =>
    have hs : statusEvent? scope (.propertyAccess expression name) = none := h
    refine .inr (.inr ?_)
    change (pure (((statusEvent? scope _).map Step.done).getD _) : Run Step) = _
    rw [hs]
    rfl
  | callExpression callee arguments =>
    have hr : calleeRole? scope callee = none := h
    have hp : peel scope (.callExpression callee arguments) =
        .ok (.callExpression callee arguments) := by
      unfold peel
      rw [hr]
    refine .inr (.inr ?_)
    rw [step, hp]
    change callStep context scope callee arguments = _
    rw [callStep, hr]
    rfl
  | variableDeclaration name initializer keyword exported =>
    have hr : isRoleRename scope (.variableDeclaration name initializer keyword exported) =
        false := h
    refine .inr (.inr ?_)
    change (pure (if isRoleRename scope _ then _ else _) : Run Step) = _
    rw [hr]
    rfl
  | _ => exact .inr (.inr rfl)

section Slots

variable {bad : Prop} {failure : Failure} {flat : Bool → Template → Run (List Fragment)}
  {copy : Node → Run Node} {slot : Node → Run (List Fragment)} {spans : List Source.Span}

theorem slotFragments_gives (ho : isOpaque isRich node)
    (hc : (copy node).GivesUnless bad failure node) :
    (slotFragments flat copy isRich node).GivesUnless bad failure [.slot node] := by
  rw [slotFragments, inlined_of_isOpaque ho]
  refine Run.GivesUnless.pure.bind (hc.bind ?_)
  rw [inlined_of_isOpaque ho]
  exact Run.GivesUnless.pure.bind .pure

theorem spansFragments_gives
    (h : ∀ span ∈ spans, (slot span.expression).GivesUnless bad failure [.slot span.expression]) :
    (spansFragments slot spans).GivesUnless bad failure (spans.flatMap Source.Span.fragments) := by
  induction spans with
  | nil => exact .pure
  | cons span spans ih =>
    rw [List.forall_mem_cons] at h
    exact h.1.bind ((ih h.2).bind .pure)

/-- A template keeps slots that are left as they are and are not taken in. -/
theorem flatten_gives (ho : ∀ span ∈ template.spans, isOpaque isRich span.expression)
    (hc : ∀ span ∈ template.spans,
      (copyNode context scope room span.expression).GivesUnless bad failure span.expression) :
    (flatten context scope (room + 1) isRich template).GivesUnless bad failure
      template.fragments := by
  rw [flatten]
  exact .bind (spansFragments_gives fun span hs => slotFragments_gives (ho span hs) (hc span hs))
    .pure

end Slots

/-- A tree of settled nodes is copied as it is, unless it is too high. -/
theorem copyNode_of_allSettled (hf : node.fits place) (hs : AllSettled scope node) :
    (copyNode context scope room node).GivesUnless (¬node.NoHigher room) (.depth context.limit)
      node := by
  -- a slot of markup is copied two levels below, hence the strong induction
  induction room using Nat.strongRecOn generalizing scope node place with
  | ind room ih =>
    cases room with
    | zero =>
      rw [copyNode_zero]
      rcases step_of_isSettled (hs scope node .here) with
        hstep | ⟨tag, literal, template, rfl, -, hstep⟩ | hstep <;> rw [hstep]
      · exact .pure
      · exact .throw id
      · exact .throw id
    | succ room =>
      rw [copyNode_succ]
      rcases step_of_isSettled (hs scope node .here) with
        hstep | ⟨tag, literal, template, rfl, hr, hstep⟩ | hstep <;> rw [hstep]
      · exact .pure
      · obtain ⟨head, spans, heq, rfl⟩ := richTemplate?_eq_some hr
        obtain ⟨rfl, rfl⟩ := Node.taggedTemplate.inj heq
        have hspans : Node.fitsAll .span spans := by
          cases place <;> simp_all [Node.fits]
        -- the slots stand two nodes below the literal, and flattening takes one level less
        have hflat : (flatten context scope room true (.ofParts head spans)).GivesUnless
            (¬(Node.taggedTemplate (.identifier richTag) (.templateLiteral head spans)).NoHigher
              (room + 1)) (.depth context.limit) (Template.ofParts head spans).fragments := by
          cases room with
          | zero => exact .throw fun hl => hl _ (List.mem_cons_of_mem _ List.mem_cons_self)
          | succ room =>
            refine flatten_gives (hs scope _ .here _ hr) fun span hm => ?_
            have hspan := templateSpan_of_mem hspans hm
            have hstands : Stands scope span.expression scope (.taggedTemplate
                (.identifier richTag) (.templateLiteral head spans)) :=
              (PartOf.markup (partOf_of_mem_ofParts hspans hm)).stands
            have hfits : span.expression.fits .expression := Node.fitsAll_iff.1 hspans _ hspan
            refine (ih room (by omega) hfits fun inner part h =>
              hs inner part (h.trans hstands)).mono fun hn hl => hn ?_
            have hlevels := hl _ (List.mem_cons_of_mem _ List.mem_cons_self) _ hspan
            cases room with
            | zero => exact hlevels.elim
            | succ room => exact (hlevels _ List.mem_cons_self).succ
        refine Run.GivesUnless.pure.bind (hflat.bind ?_)
        rw [Template.ofFragments_fragments, Node.toNode_ofParts hspans]
        exact .pure
      · refine Run.GivesUnless.pure.bind ?_
        refine Node.traverse_gives (fun child hc => ?_) fun child hc => ?_
        · obtain ⟨place, hf⟩ := Node.exists_fits_of_mem_children hf hc
          exact Node.kind?_isSome_of_fits hf
        · obtain ⟨place, hf⟩ := Node.exists_fits_of_mem_children hf hc
          exact (ih room (Nat.lt_succ_self room) hf
            fun inner part h => hs inner part (.inside hc h)).mono fun hn hl => hn (hl child hc)

theorem copyFile_of_allSettled {file : SourceFile} (hw : file.IsWellTyped)
    (hs : AllSettled scope file.toNode) :
    (copyFile context scope file).GivesUnless (¬file.toNode.NoHigher context.limit.toNat)
      (.depth context.limit) file := by
  unfold copyFile
  split
  · next h => exact .throw (h ▸ id)
  · next room h =>
    rw [h]
    have hfits (node : Node) (hm : node ∈ file.statements) : node.fits .statement :=
      Node.fitsAll_iff.1 hw node hm
    refine (Node.traverseList_gives (fun node hm => Node.kind?_isSome_of_fits (hfits node hm))
      fun node hm => ?_).bind .pure
    exact (copyNode_of_allSettled (hfits node hm) fun inner part h =>
      hs inner part (.inside hm h)).mono fun hn hl => hn (hl node hm)

section Files

variable {program : Program} {file : SourceFile} {locale : String}
  {translations : Option (List Message)} {requested : Int}

/-- **A settled file is copied as it is**, whatever the locale and the translations, or it is too
high for the limit. Nothing but a limit that was lowered is reported. -/
theorem perform_of_allSettled (hw : file.IsWellTyped)
    (hs : AllSettled (.ofFile program file) file.toNode) :
    (localizeFile program locale translations requested file).perform =
        (.ok file, Depth.clampEvents Depth.standardReserve requested) ∨
      ¬file.toNode.NoHigher (Depth.clamp Depth.standardReserve requested).toNat ∧
        (localizeFile program locale translations requested file).perform =
          (.error (.depth (Depth.clamp Depth.standardReserve requested)),
            Depth.clampEvents Depth.standardReserve requested) := by
  have hcopy := @copyFile_of_allSettled ⟨locale, file.fileName, translations,
    Depth.clamp Depth.standardReserve requested⟩ _ _ hw hs
  change StateT.run (ExceptT.run (copyFile _ (.ofFile program file) file)) ([] ++ _) = _ ∨
    _ ∧ StateT.run (ExceptT.run (copyFile _ (.ofFile program file) file)) ([] ++ _) = _
  rcases hcopy with hcopy | ⟨hn, hcopy⟩
  · rw [hcopy]
    exact .inl rfl
  · rw [hcopy]
    exact .inr ⟨hn, rfl⟩

end Files

end Polyglot.Localize
