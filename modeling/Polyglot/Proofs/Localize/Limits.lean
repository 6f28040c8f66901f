import Polyglot.Proofs.Localize.Families
import Polyglot.Proofs.Source.Limits
import Polyglot.Proofs.Source.Printable
import Polyglot.Proofs.Source.Recorded

/-!
# Depth limits

What the limit on depth does. A well-typed tree prints just where the limit leaves the levels that
it takes. Whatever is done to a tree, by printing it, by traversals and by localizing it, succeeds
in the same way within a higher limit if it succeeds within one: `limits_exact_and_steady`.
-/

namespace Polyglot.Localize

open Source Scope

/-- The same copy within another limit. -/
def Context.withLimit (context : Context) (limit : Int) : Context :=
  { context with limit }

/-- Of two operations the second one succeeds wherever the first one does. -/
def Rises {α : Type} (runs : Bool → Run α) : Prop :=
  Stateful.Below (runs false) (runs true)

theorem isCompositional_rises : Run.IsCompositional Rises where
  pure a := Stateful.isSuccessOrder.refl (pure a)
  throw failure := Stateful.isSuccessOrder.refl (throw failure)
  reportAll events := Stateful.isSuccessOrder.refl (liftM (Polyglot.reportAll events))
  bind := Stateful.isSuccessOrder.bind

section Copies

variable {context : Context} {scope : Scope} {limit bound : Int} {node : Node}

/-- The step at a node does not depend on the limit. -/
theorem step_withLimit : step (context.withLimit limit) scope node = step context scope node :=
  rfl

/-- Where no levels are left, a copy succeeds only if it needs no further step. -/
theorem below_copyNode_zero (more : Nat) :
    Stateful.Below (copyNode (context.withLimit limit) scope 0 node)
      (copyNode (context.withLimit bound) scope more node) := by
  have ho := @Stateful.isSuccessOrder (List Event)
  obtain ⟨rest, hrest, hdone⟩ : ∃ rest : Step → Run Node,
      copyNode (context.withLimit bound) scope more node = step context scope node >>= rest ∧
        ∀ node, rest (.done node) = pure node := by
    cases more with
    | zero => exact ⟨_, copyNode_zero, fun _ => rfl⟩
    | succ more => exact ⟨_, copyNode_succ, fun _ => rfl⟩
  rw [copyNode_zero, step_withLimit, hrest]
  refine ho.bind (ho.refl _) fun taken => ?_
  cases taken with
  | done node =>
    rw [hdone]
    exact ho.refl _
  | _ => exact ho.throw _ _

/-- Copies and flattened templates rise with the levels that there are. -/
theorem rises_copies (context : Context) (limits : Bool → Int) (rooms : Bool → Nat)
    (hr : rooms false ≤ rooms true) :
    (∀ scope node, Rises fun i =>
      copyNode (context.withLimit (limits i)) scope (rooms i) node) ∧
    ∀ scope isRich template, Rises fun i =>
      flatten (context.withLimit (limits i)) scope (rooms i) isRich template := by
  have hg := isCompositional_rises
  -- on the fewer levels, for both numbers at once, since both go down by one
  induction hn : rooms false generalizing rooms with
  | zero =>
    refine ⟨fun scope node => ?_, fun scope isRich template => ?_⟩
    · rw [Rises, hn]
      exact below_copyNode_zero _
    · rw [Rises, hn]
      exact Stateful.isSuccessOrder.throw _ _
  | succ room ih =>
    obtain ⟨inner, rfl⟩ : ∃ inner : Bool → Nat, rooms = fun i => inner i + 1 := by
      refine ⟨fun i => rooms i - 1, funext fun i => (Nat.sub_add_cancel ?_).symm⟩
      cases i <;> omega
    obtain ⟨hcopy, hflat⟩ := ih inner (Nat.le_of_succ_le_succ hr) (Nat.succ.inj hn)
    refine ⟨fun scope node => ?_, fun scope isRich template => ?_⟩
    · simp only [copyNode_succ, step_withLimit]
      refine hg.bind (Stateful.isSuccessOrder.refl (step context scope node)) fun taken => ?_
      cases taken with
      | done node => exact hg.pure _
      | message isRich template => exact hg.bind (hflat _ _ _) fun fragments => hg.pure _
      | markup tag template => exact hg.bind (hflat _ _ _) fun fragments => hg.pure _
      | inside scope node => exact hg.isSequential.traverse _ (hcopy scope) node
    · simp only [flatten]
      refine hg.bind (good_spansFragments hg fun e => ?_) fun rest => hg.pure _
      exact good_slotFragments hg (hflat scope) (hcopy scope)

theorem below_copyFile (context : Context) (scope : Scope) (hl : limit ≤ bound)
    (file : SourceFile) :
    Stateful.Below (copyFile (context.withLimit limit) scope file)
      (copyFile (context.withLimit bound) scope file) := by
  have ho := @Stateful.isSuccessOrder (List Event)
  have hmono : limit.toNat ≤ bound.toNat := Int.toNat_le_toNat hl
  unfold copyFile
  simp only [Context.withLimit]
  cases hroom : limit.toNat with
  | zero => exact ho.throw _ _
  | succ room =>
    rw [hroom] at hmono
    obtain ⟨more, hmore⟩ := Nat.exists_eq_succ_of_ne_zero (Nat.ne_zero_of_lt hmono)
    rw [hmore] at hmono ⊢
    have hcopy := (rises_copies context (fun i => bif i then bound else limit)
      (fun i => bif i then more else room) (Nat.le_of_succ_le_succ hmono)).1 scope
    exact ho.bind (isCompositional_rises.isSequential.traverseList hcopy file.statements)
      fun statements => ho.refl _

variable {program : Program} {locale : String} {translations : Option (List Message)}
  {requested further : Int} {file out : SourceFile}

/-- Whether the limit was lowered is reported, which does not matter to the copy. -/
theorem perform_localizeFile :
    (localizeFile program locale translations requested file).perform.1 =
      (copyFile ⟨locale, file.fileName, translations, Depth.clamp Depth.standardReserve requested⟩
        (.ofFile program file) file).perform.1 := by
  rw [localizeFile_eq]
  exact sameResult_copyFile _ _ file _ []

/-- A file that has a copy within a limit has the same copy within a higher one. -/
theorem localizeFile_mono (hr : requested ≤ further)
    (h : (localizeFile program locale translations requested file).perform.1 = .ok out) :
    (localizeFile program locale translations further file).perform.1 = .ok out := by
  rw [perform_localizeFile] at h ⊢
  have hlimit : Depth.clamp Depth.standardReserve requested ≤
      Depth.clamp Depth.standardReserve further := Depth.clamp_le_clamp hr
  have hbelow := below_copyFile ⟨locale, file.fileName, translations, 0⟩
    (.ofFile program file) hlimit file
  exact congrArg Prod.fst (hbelow [] out _ (Prod.ext h rfl))

end Copies

/-- **Limits are exact and steady.** A well-typed file, a statement or an expression prints just
where it takes no level at all or no more than the limit, which is lowered to 237 if it is higher;
else it fails at that limit. What is done within a limit is done in the same way within a higher
one: printing any node, reading and rebuilding any tree with hooks that do not make up for failures,
those that note nodes and those that go by rules among them, and the copy of a file for a locale. -/
theorem limits_exact_and_steady :
    (∀ node : Node, (∃ file : SourceFile, file.IsWellTyped ∧ node = file.toNode) ∨
        node.fits .statement ∨ node.fits .expression → ∀ requested : Int,
      SucceedsIff (node.nesting = 0 ∨ (node.nesting : Int) ≤ min requested 237)
        (.depth (min requested 237)) (node.printWithin requested)) ∧
    ∀ requested further : Int, requested ≤ further →
      let limit := Depth.clamp Depth.standardReserve requested
      let bound := Depth.clamp Depth.standardReserve further
      (∀ (node : Node) text,
        node.printWithin requested = .ok text → node.printWithin further = .ok text) ∧
      (∀ (σ : Type) (hooks : Hooks (ExceptT Failure (StateM σ)) Unit) tree,
        hooks.IsSteady Stateful.Below → Stateful.Below
          (visit hooks limit limit.toNat tree) (visit hooks bound bound.toNat tree)) ∧
      (∀ (σ : Type) (hooks : Hooks (ExceptT Failure (StateM σ)) Node) tree,
        hooks.IsSteady Stateful.Below → Stateful.Below
          (rebuild hooks limit limit.toNat tree) (rebuild hooks bound bound.toNat tree)) ∧
      (∀ listed stopping tree seen, record listed stopping limit tree = (.ok (), seen) →
        record listed stopping bound tree = (.ok (), seen)) ∧
      (∀ rules tree out, applyRules rules limit tree = .ok out →
        applyRules rules bound tree = .ok out) ∧
      ∀ program locale translations file out,
        (localizeFile program locale translations requested file).perform.1 = .ok out →
          (localizeFile program locale translations further file).perform.1 = .ok out := by
  refine ⟨fun node hn requested => ?_, ?_⟩
  · have hlimit : Depth.clamp Depth.standardReserve requested = min requested 237 := rfl
    have hprinted : SucceedsIff (node.nesting ≤ (min requested 237).toNat)
        (.depth (min requested 237)) (node.printWithin requested) := by
      rw [← hlimit]
      obtain ⟨file, hw, rfl⟩ | hs | he := hn
      · exact hw.succeedsIff_printWithin requested
      · exact Node.succeedsIff_printWithin_of_statement hs requested
      · exact Node.succeedsIff_printWithin_of_expression he requested
    exact hprinted.congr (by omega)
  · intro requested further hr limit bound
    have hroom : limit.toNat ≤ bound.toNat := Depth.toNat_clamp_le_toNat_clamp hr
    refine ⟨fun node => Printer.below_printNode _ _ hroom node,
      fun σ hooks tree hs => below_visit Stateful.isSuccessOrder hs hroom tree,
      fun σ hooks tree hs => below_rebuild Stateful.isSuccessOrder hs hroom tree,
      fun listed stopping tree seen => ?_, fun rules tree => ?_,
      fun program locale translations file out => localizeFile_mono hr⟩
    · exact below_visit Stateful.isSuccessOrder (isSteady_recordHooks listed stopping) hroom tree
        [] () seen
    · exact below_rebuild Result.isSuccessOrder (isSteady_hook rules) hroom tree

/-- A file of four levels prints within four and within more, but not within three. -/
theorem limits_exact_and_steady_signIn :
    signIn.IsWellTyped ∧ signIn.toNode.nesting = 4 ∧
    signIn.toNode.printWithin 3 = .error (.depth 3) ∧
    ∃ text, signIn.toNode.printWithin 4 = .ok text ∧
      signIn.toNode.printWithin 1000 = .ok text := by
  have hw : signIn.IsWellTyped := by decide
  have hn : signIn.toNode.nesting = 4 := by decide +kernel
  obtain ⟨hexact, hsteady⟩ := limits_exact_and_steady
  have hfile := hexact signIn.toNode (.inl ⟨signIn, hw, rfl⟩)
  obtain ⟨hle, -⟩ | ⟨-, hthree⟩ := hfile 3
  · omega
  obtain ⟨-, text, hfour⟩ | ⟨hlt, -⟩ := hfile 4
  · exact ⟨hw, hn, hthree, text, hfour, (hsteady 4 1000 (by decide)).1 _ _ hfour⟩
  · omega

end Polyglot.Localize
