import Polyglot.Proofs.Families
import Polyglot.Proofs.Localize.Steps
import Polyglot.Proofs.Scope.Alike

/-!
# Families of copies

The copy of a node reads translations in one place only, where a text is looked up, and asks a scope
only what references mean. So a property of families of operations that sequences keep holds of the
copies of a node, made with different translations in scopes that are alike, if it holds of the
texts that are looked up: `copiesAndFlattens`, and for whole files `good_localizeFile`.
-/

namespace Polyglot.Localize

open Source Scope

/-- The same copy with other translations. -/
def Context.withTranslations (context : Context) (translations : Option (List Message)) : Context :=
  { context with translations }

variable {scope other : Scope} {node reference callee : Node}

/-- The copy of a file after the report on the limit. -/
theorem localizeFile_eq {program : Program} {locale : String}
    {translations : Option (List Message)} {requested : Int} {file : SourceFile} :
    localizeFile program locale translations requested file = (do
      reportAll (Depth.clampEvents Depth.standardReserve requested)
      copyFile ⟨locale, file.fileName, translations, Depth.clamp Depth.standardReserve requested⟩
        (.ofFile program file) file) := rfl

/-! ### What alike scopes answer -/

theorem calleeRole?_eq_of_alike (h : scope.Alike other) :
    calleeRole? scope callee = calleeRole? other callee := by
  simp only [calleeRole?, plays, h.resolve?_eq]

theorem statusEvent?_eq_of_alike (h : scope.Alike other) :
    statusEvent? scope reference = statusEvent? other reference := by
  rw [statusEvent?, statusEvent?, h.resolve?_eq, h.program]

theorem isRoleRename_eq_of_alike (h : scope.Alike other) :
    isRoleRename scope node = isRoleRename other node := by
  cases node with
  | variableDeclaration =>
    rw [isRoleRename, isRoleRename, h.isRename_eq, h.resolve?_eq]
  | _ => rfl

theorem peel_eq_of_alike (h : scope.Alike other) : peel scope node = peel other node := by
  fun_induction peel scope node with
  | case1 callee hr base ih =>
    rw [peel, ← calleeRole?_eq_of_alike h, hr]
    exact ih
  | case2 callee hr arguments hn =>
    unfold peel
    rw [← calleeRole?_eq_of_alike h, hr]
    cases arguments with
    | nil => rfl
    | cons base others =>
      cases others with
      | nil => exact absurd rfl (hn base)
      | cons => rfl
  | case3 callee arguments hr =>
    unfold peel
    rw [← calleeRole?_eq_of_alike h]
    split
    · next heq => exact absurd heq hr
    · rfl
  | case4 node hn =>
    cases node with
    | callExpression => exact absurd rfl (hn _ _)
    | _ => rfl

/-! ### Families -/

section Families

variable {ι α : Type} {good : ∀ {α : Type}, (ι → Run α) → Prop} (hg : Run.IsCompositional good)
  {context : Context} {translations : ι → Option (List Message)} {scopes : ι → Scope}

include hg

theorem good_messageText
    (ht : ∀ id own, good fun i => localText (context.withTranslations (translations i)) id own)
    (arguments : List Node) :
    good fun i => messageText (context.withTranslations (translations i)) arguments := by
  unfold messageText
  refine hg.bind (hg.ofExcept _) fun argument => hg.bind (hg.ofExcept _) fun options => ?_
  exact hg.bind (ht _ _) fun own => hg.bind (hg.ofExcept _) fun applied => hg.pure _

/-- What follows a step has the property if it does for each outcome of the step, whose scope is the
own one of each index. -/
theorem good_nodeStep_bind {next : ι → Step → Run α}
    (ht : ∀ id own, good fun i => localText (context.withTranslations (translations i)) id own)
    (hs : ∀ i, scope.Alike (scopes i)) (hdone : ∀ node, good fun i => next i (.done node))
    (hmessage : ∀ isRich template, good fun i => next i (.message isRich template))
    (hmarkup : ∀ tag template, good fun i => next i (.markup tag template))
    (hinside : good fun i => next i (.inside ((scopes i).inside node) node)) :
    good fun i =>
      nodeStep (context.withTranslations (translations i)) (scopes i) node >>= next i := by
  cases node with
  | callExpression callee arguments =>
    simp only [nodeStep, callStep, ← calleeRole?_eq_of_alike (hs _)]
    cases calleeRole? scope callee with
    | none => exact hinside
    | some role =>
      cases role with
      | message =>
        simp only [bind_assoc]
        refine hg.bind (good_messageText hg ht arguments) fun asked => ?_
        obtain ⟨text, isRich⟩ := asked
        cases text with
        | plain text =>
          cases isRich with
          | false => exact hdone _
          | true => exact hg.throw (.contract .richTemplateIsString)
        | template template => exact hmessage _ _
      | localized => exact hinside
      | configureBuild => exact hdone (localeObject context.locale)
      | configureRun =>
        exact hg.throw (.configuration (.runtimeConfigInTransform context.fileName))
  | identifier x =>
    simp only [nodeStep, ← statusEvent?_eq_of_alike (hs _), pure_bind]
    exact hdone _
  | propertyAccess expression name =>
    simp only [nodeStep, ← statusEvent?_eq_of_alike (hs _), pure_bind]
    cases statusEvent? scope (.propertyAccess expression name) with
    | none => exact hinside
    | some event => exact hdone _
  | taggedTemplate tag literal =>
    simp only [nodeStep, pure_bind]
    cases richTemplate? (.taggedTemplate tag literal) with
    | none => exact hinside
    | some template => exact hmarkup _ _
  | importDeclaration d =>
    simp only [nodeStep, ← (hs _).importsLocalizeModule_eq]
    cases scope.importsLocalizeModule d with
    | true =>
      simp only [if_true, bind_assoc, pure_bind]
      exact hg.bind (hg.reportAll [.importRemoved d.specifier context.fileName]) fun _ => hdone _
    | false => exact hdone _
  | variableDeclaration name initializer keyword exported =>
    simp only [nodeStep, ← isRoleRename_eq_of_alike (hs _), pure_bind]
    split
    · exact hdone _
    · exact hinside
  | _ => exact hinside

section Slots

variable {flats : ι → Bool → Template → Run (List Fragment)} {copies : ι → Node → Run Node}
  {isRich : Bool} {template : Template}

theorem good_inlined (hf : ∀ isRich template, good fun i => flats i isRich template) :
    good fun i => inlined (flats i) isRich node := by
  unfold inlined
  split
  · exact hg.pure _
  · exact hg.map (hf _ _)
  · split
    · exact hg.map (hf _ _)
    · exact hg.pure _

theorem good_slotFragments (hf : ∀ isRich template, good fun i => flats i isRich template)
    (hc : ∀ node, good fun i => copies i node) :
    good fun i => slotFragments (flats i) (copies i) isRich node := by
  unfold slotFragments
  refine hg.bind (good_inlined hg hf) fun first => ?_
  cases first with
  | some fragments => exact hg.pure _
  | none =>
    refine hg.bind (hc node) fun copied => hg.bind (good_inlined hg hf) fun second => ?_
    cases second with
    | some fragments => exact hg.pure _
    | none => exact hg.pure _

theorem good_spansFragments {slots : ι → Node → Run (List Fragment)} {spans : List Source.Span}
    (hs : ∀ node, good fun i => slots i node) : good fun i => spansFragments (slots i) spans := by
  induction spans with
  | nil => exact hg.pure _
  | cons span spans ih => exact hg.bind (hs _) fun fragments => hg.bind ih fun rest => hg.pure _

end Slots

/-- The copies of nodes within a number of levels have a property, and so have the flattened
templates. -/
def CopiesAndFlattens (good : ∀ {α : Type}, (ι → Run α) → Prop) (context : Context)
    (translations : ι → Option (List Message)) (room : Nat) : Prop :=
  ∀ (scope : Scope) (scopes : ι → Scope), (∀ i, scope.Alike (scopes i)) →
    (∀ node, good fun i =>
      copyNode (context.withTranslations (translations i)) (scopes i) room node) ∧
    ∀ isRich template, good fun i =>
      flatten (context.withTranslations (translations i)) (scopes i) room isRich template

theorem copiesAndFlattens (context : Context) (translations : ι → Option (List Message))
    (ht : ∀ id own, good fun i => localText (context.withTranslations (translations i)) id own)
    (room : Nat) : CopiesAndFlattens good context translations room := by
  -- on the levels that are left, for all scopes at once, since functions and methods add a frame
  induction room with
  | zero =>
    refine fun scope scopes hs => ⟨fun node => ?_, fun isRich template => ?_⟩
    · simp only [copyNode_zero, step, ← peel_eq_of_alike (hs _), bind_assoc]
      refine hg.bind (hg.ofExcept _) fun base => ?_
      exact good_nodeStep_bind hg ht hs (fun node => hg.pure node)
        (fun _ _ => hg.throw (.depth context.limit)) (fun _ _ => hg.throw (.depth context.limit))
        (hg.throw (.depth context.limit))
    · simp only [flatten]
      exact hg.throw (.depth context.limit)
  | succ room ih =>
    refine fun scope scopes hs => ⟨fun node => ?_, fun isRich template => ?_⟩
    · simp only [copyNode_succ, step, ← peel_eq_of_alike (hs _), bind_assoc]
      refine hg.bind (hg.ofExcept _) fun base => ?_
      have hflat := (ih scope scopes hs).2
      refine good_nodeStep_bind hg ht hs (fun node => hg.pure node) (fun _ _ => ?_)
        (fun _ _ => ?_) ?_
      · exact hg.bind (hflat _ _) fun fragments => hg.pure _
      · exact hg.bind (hflat _ _) fun fragments => hg.pure _
      · exact hg.isSequential.traverse _ (ih _ _ fun i => (hs i).inside base).1 base
    · simp only [flatten]
      obtain ⟨hcopy, hflat⟩ := ih scope scopes hs
      refine hg.bind (good_spansFragments hg fun e => ?_) fun rest => hg.pure _
      exact good_slotFragments hg hflat hcopy

theorem good_copyFile (context : Context) (translations : ι → Option (List Message))
    (hs : ∀ i, scope.Alike (scopes i))
    (ht : ∀ id own, good fun i => localText (context.withTranslations (translations i)) id own)
    (file : SourceFile) :
    good fun i => copyFile (context.withTranslations (translations i)) (scopes i) file := by
  unfold copyFile
  simp only [Context.withTranslations]
  split
  · exact hg.throw (.depth context.limit)
  · next room _ =>
    have hcopy := (copiesAndFlattens hg context translations ht room scope scopes hs).1
    exact hg.bind (hg.isSequential.traverseList hcopy _) fun statements => hg.pure _

theorem good_localizeFile (translations : ι → Option (List Message)) {program : Program}
    {locale : String} {requested : Int} {file : SourceFile} (ht : ∀ id own, good fun i => localText
      ⟨locale, file.fileName, translations i, Depth.clamp Depth.standardReserve requested⟩ id own) :
    good fun i => localizeFile program locale (translations i) requested file := by
  have hcopy := good_copyFile hg ⟨locale, file.fileName, none,
    Depth.clamp Depth.standardReserve requested⟩ translations
    (fun _ => .refl (.ofFile program file)) ht file
  simp only [localizeFile_eq]
  exact hg.bind (hg.reportAll _) fun _ => hcopy

end Families

/-! ### Copies and earlier reports -/

variable {context : Context}

theorem sameResult_localText {id : String} {own : MessageText} :
    (localText context id own).SameResult (localText context id own) := by
  unfold localText
  cases context.translations with
  | none => exact .pure own
  | some messages =>
    dsimp only
    cases lookupMessage id messages with
    | none => exact fun _ _ => rfl
    | some translation => exact Run.SameResult.map fun _ _ => rfl

/-- What was reported before does not matter to the copy of a file. -/
theorem sameResult_copyFile (context : Context) (scope : Scope) (file : SourceFile) :
    (copyFile context scope file).SameResult (copyFile context scope file) :=
  good_copyFile Run.isCompositional_sameResult context (fun _ : Unit => context.translations)
    (fun _ => .refl scope) (fun _ _ _ _ => sameResult_localText) file () ()

end Polyglot.Localize
