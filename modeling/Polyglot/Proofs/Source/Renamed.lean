import Polyglot.Proofs.Source.Recorded
import Mathlib.Data.Set.List

/-!
# Renamed references

Rebuilding a tree with new names for its references gives each identifier in a child's place its new
name and leaves the rest as it is: what a node binds or spells, and its texts. So traversals that
note nodes of the tree note their images in the renamed tree, in the same order and with the same
end. New names on new names are one renaming, and a renaming to the same names gives the same tree:
`rename_homomorphic`.
-/

namespace Polyglot.Source

/-! ### Renamed trees -/

namespace Node

mutual

/-- The tree with a new name for each reference. -/
def mapReferences (newName : String → String) : Node → Node
  | identifier name => identifier (newName name)
  | templateSpan expression literal => templateSpan (expression.mapReferences newName) literal
  | templateLiteral head spans => templateLiteral head (mapReferencesAll newName spans)
  | taggedTemplate tag template =>
    taggedTemplate (tag.mapReferences newName) (template.mapReferences newName)
  | callExpression callee arguments =>
    callExpression (callee.mapReferences newName) (mapReferencesAll newName arguments)
  | propertyAccess expression name => propertyAccess (expression.mapReferences newName) name
  | arrowFunction parameters body => arrowFunction parameters (body.mapReferences newName)
  | propertyAssignment name value => propertyAssignment name (value.mapReferences newName)
  | objectLiteral properties => objectLiteral (mapReferencesAll newName properties)
  | arrayLiteral elements => arrayLiteral (mapReferencesAll newName elements)
  | expressionStatement expression => expressionStatement (expression.mapReferences newName)
  | variableDeclaration name initializer keyword exported =>
    variableDeclaration name (mapReferencesOption newName initializer) keyword exported
  | returnStatement expression => returnStatement (mapReferencesOption newName expression)
  | methodDeclaration name parameters body =>
    methodDeclaration name parameters (mapReferencesAll newName body)
  | classDeclaration name heritage members exported =>
    classDeclaration name (mapReferencesOption newName heritage) (mapReferencesAll newName members)
      exported
  | sourceFile statements fileName => sourceFile (mapReferencesAll newName statements) fileName
  | node => node

/-- Trees with a new name for each reference. -/
def mapReferencesAll (newName : String → String) : List Node → List Node
  | [] => []
  | node :: rest => node.mapReferences newName :: mapReferencesAll newName rest

/-- A tree that may be absent, with a new name for each reference. -/
def mapReferencesOption (newName : String → String) : Option Node → Option Node
  | none => none
  | some node => some (node.mapReferences newName)

end

variable {r s : String → String} {node child tree : Node} {k j : Node → Node}

theorem mapReferencesAll_eq_map (nodes : List Node) :
    mapReferencesAll r nodes = nodes.map (mapReferences r) := by
  induction nodes with
  | nil => rfl
  | cons node nodes ih => rw [mapReferencesAll, ih, List.map_cons]

theorem mapReferencesOption_eq_map (node : Option Node) :
    mapReferencesOption r node = node.map (mapReferences r) := by
  cases node <;> rfl

theorem exists_of_kind_identifier (h : node.kind? = some .identifier) :
    ∃ name, node = identifier name := by
  cases node with
  | identifier name => exact ⟨name, rfl⟩
  | _ => simp [kind?] at h

/-- All nodes but the references themselves are changed in their children only. -/
theorem mapReferences_eq_mapChildren (h : node.kind? ≠ some .identifier) :
    node.mapReferences r = node.mapChildren (mapReferences r) := by
  cases node with
  | identifier => exact absurd rfl h
  | _ => simp only [mapReferences, mapChildren, mapReferencesAll_eq_map, mapReferencesOption_eq_map]

@[simp] theorem kind?_mapReferences (node : Node) : (node.mapReferences r).kind? = node.kind? := by
  cases node <;> rfl

/-! ### Replaced children -/

theorem mapChildren_congr (h : ∀ child ∈ node.children, k child = j child) :
    node.mapChildren k = node.mapChildren j := by
  cases node with
  | variableDeclaration | returnStatement =>
    simp only [children, Option.mem_toList] at h
    simp only [mapChildren, Option.map_congr h]
  | classDeclaration =>
    simp only [children, List.forall_mem_append, Option.mem_toList] at h
    simp only [mapChildren, Option.map_congr h.1, List.map_congr_left h.2]
  | callExpression =>
    rw [children, List.forall_mem_cons] at h
    simp only [mapChildren, h.1, List.map_congr_left h.2]
  | _ => simp_all [mapChildren, children]

theorem mapChildren_mapChildren (k j : Node → Node) (node : Node) :
    (node.mapChildren j).mapChildren k = node.mapChildren (k ∘ j) := by
  cases node <;> simp [mapChildren]

/-- Replacing the children changes nothing in the fields that bind and spell. -/
theorem fields_mapChildren (k : Node → Node) (node : Node) :
    (node.mapChildren k).fields = node.fields.map fun entry =>
      (entry.1, if entry.1.isBinding then entry.2 else entry.2.map k) := by
  cases node <;> simp [mapChildren, fields, Field.isBinding, Option.toList_map]

theorem fields_mapReferences (node : Node) :
    (node.mapReferences r).fields = node.fields.map fun entry =>
      (entry.1, if entry.1.isBinding then entry.2 else entry.2.map (mapReferences r)) := by
  by_cases hk : node.kind? = some .identifier
  · obtain ⟨name, rfl⟩ := exists_of_kind_identifier hk
    rfl
  · rw [mapReferences_eq_mapChildren hk, fields_mapChildren]

theorem children_mapReferences (node : Node) :
    (node.mapReferences r).children = node.children.map (mapReferences r) := by
  rw [children_eq_fields, children_eq_fields, fields_mapReferences, List.filter_map,
    List.flatMap_map, List.map_flatMap]
  refine List.flatMap_congr fun entry he => ?_
  have hb : entry.1.isBinding = false := by simpa using (List.mem_filter.1 he).2
  rw [hb]
  rfl

theorem child?_mapReferences (node : Node) (step : Step) :
    (node.mapReferences r).child? step =
      (node.child? step).map fun child =>
        if step.1.isBinding then child else child.mapReferences r := by
  have hl := lookup_map_snd (fun (field : Field) (nodes : List Node) =>
    if field.isBinding then nodes else nodes.map (mapReferences r)) node.fields step.1
  rw [child?, child?, fields_mapReferences, hl]
  cases node.fields.lookup step.1 with
  | none => rfl
  | some nodes => cases step.1.isBinding <;> simp

/-- In the renamed tree stand the renamed nodes where a path reads, and elsewhere the same. -/
theorem at?_mapReferences (tree : Node) (path : Path) :
    (tree.mapReferences r).at? path =
      (tree.at? path).map fun node => if path.IsReading then node.mapReferences r else node := by
  induction path generalizing tree with
  | nil => rw [at?, at?, Option.map_some, if_pos Path.isReading_nil]
  | cons step path ih =>
    rw [at?, at?, child?_mapReferences]
    cases tree.child? step with
    | none => rfl
    | some child =>
      simp only [Option.map_some, Option.bind_some, Path.isReading_cons]
      cases step.1.isBinding <;> simp [ih]

/-- What a node is besides its children: the node with blanks in their places. -/
def own (node : Node) : Node :=
  node.mapChildren fun _ => identifier ""

theorem own_mapReferences (hk : node.kind? ≠ some .identifier) :
    (node.mapReferences r).own = node.own := by
  rw [mapReferences_eq_mapChildren hk, own, mapChildren_mapChildren]
  rfl

/-! ### Laws of renaming -/

theorem sizeOf_lt_of_mem_children (h : child ∈ node.children) : sizeOf child < sizeOf node := by
  have hoption {option : Option Node} (h : child ∈ option.toList) :
      sizeOf child < sizeOf option := by
    rw [Option.mem_toList.1 h, Option.some.sizeOf_spec]
    omega
  cases node with
  | templateSpan expression | propertyAccess expression | arrowFunction _ expression
  | propertyAssignment _ expression | expressionStatement expression =>
    have : sizeOf child = sizeOf expression := congrArg _ (List.mem_singleton.1 h)
    grind only [templateSpan.sizeOf_spec, propertyAccess.sizeOf_spec, arrowFunction.sizeOf_spec,
      propertyAssignment.sizeOf_spec, expressionStatement.sizeOf_spec]
  | templateLiteral _ nodes | objectLiteral nodes | arrayLiteral nodes
  | methodDeclaration _ _ nodes | sourceFile nodes =>
    have : sizeOf child < sizeOf nodes := List.sizeOf_lt_of_mem h
    grind only [templateLiteral.sizeOf_spec, objectLiteral.sizeOf_spec, arrayLiteral.sizeOf_spec,
      methodDeclaration.sizeOf_spec, sourceFile.sizeOf_spec]
  | taggedTemplate =>
    rcases List.mem_pair.1 h with rfl | rfl
    · rw [taggedTemplate.sizeOf_spec]
      omega
    · rw [taggedTemplate.sizeOf_spec]
      omega
  | callExpression _ nodes =>
    rw [callExpression.sizeOf_spec]
    rcases List.mem_cons.1 h with rfl | h
    · omega
    · have : sizeOf child < sizeOf nodes := List.sizeOf_lt_of_mem h
      omega
  | variableDeclaration | returnStatement =>
    have := hoption h
    grind only [variableDeclaration.sizeOf_spec, returnStatement.sizeOf_spec]
  | classDeclaration _ _ nodes =>
    rw [classDeclaration.sizeOf_spec]
    rcases List.mem_append.1 h with h | h
    · have := hoption h
      omega
    · have : sizeOf child < sizeOf nodes := List.sizeOf_lt_of_mem h
      omega
  | _ => cases h

/-- What holds of a node when it holds of its children holds of every node. -/
theorem induction_children {good : Node → Prop}
    (h : ∀ node, (∀ child ∈ node.children, good child) → good node) (node : Node) : good node :=
  h node fun child _ => induction_children h child
termination_by sizeOf node
decreasing_by exact sizeOf_lt_of_mem_children ‹_›

theorem mapReferences_id (node : Node) : node.mapReferences id = node := by
  induction node using induction_children with
  | h node ih =>
    by_cases hk : node.kind? = some .identifier
    · obtain ⟨name, rfl⟩ := exists_of_kind_identifier hk
      rfl
    · rw [mapReferences_eq_mapChildren hk, mapChildren_congr (j := id) ih, mapChildren_id]

theorem mapReferences_mapReferences (r s : String → String) (node : Node) :
    (node.mapReferences r).mapReferences s = node.mapReferences (s ∘ r) := by
  induction node using induction_children with
  | h node ih =>
    by_cases hk : node.kind? = some .identifier
    · obtain ⟨name, rfl⟩ := exists_of_kind_identifier hk
      rfl
    · calc (node.mapReferences r).mapReferences s
          = (node.mapChildren (mapReferences r)).mapChildren (mapReferences s) := by
            rw [mapReferences_eq_mapChildren (by rwa [kind?_mapReferences]),
              mapReferences_eq_mapChildren hk]
        _ = node.mapChildren (mapReferences s ∘ mapReferences r) := mapChildren_mapChildren _ _ _
        _ = node.mapChildren (mapReferences (s ∘ r)) := mapChildren_congr ih
        _ = node.mapReferences (s ∘ r) := (mapReferences_eq_mapChildren hk).symm

theorem IsWhole.mapReferences (h : tree.IsWhole) : (tree.mapReferences r).IsWhole := by
  induction tree using induction_children with
  | h tree ih =>
    refine everywhere_iff.2 ⟨by rw [kind?_mapReferences]; exact h.root, ?_⟩
    rw [children_mapReferences, List.forall_mem_map]
    exact fun child hc => ih child hc (h.of_mem hc)

/-! ### Depth -/

/-- All nodes of a tree but references are within a number of levels. -/
def BranchesWithin : (levels : Nat) → (tree : Node) → Prop
  | 0, tree => tree.kind? = some .identifier
  | levels + 1, tree => ∀ child ∈ tree.children, BranchesWithin levels child

instance decidableBranchesWithin :
    (levels : Nat) → (tree : Node) → Decidable (tree.BranchesWithin levels)
  | 0, tree => inferInstanceAs (Decidable (tree.kind? = some .identifier))
  | levels + 1, tree =>
    have := decidableBranchesWithin levels
    inferInstanceAs (Decidable (∀ child ∈ tree.children, BranchesWithin levels child))

theorem branchesWithin_identifier (levels : Nat) (name : String) :
    (identifier name).BranchesWithin levels := by
  cases levels with
  | zero => rfl
  | succ levels => exact nofun

theorem branchesWithin_mapReferences {levels : Nat} :
    (tree.mapReferences r).BranchesWithin levels ↔ tree.BranchesWithin levels := by
  induction levels generalizing tree with
  | zero => rw [BranchesWithin, BranchesWithin, kind?_mapReferences]
  | succ levels ih =>
    rw [BranchesWithin, BranchesWithin, children_mapReferences, List.forall_mem_map]
    exact forall₂_congr fun child _ => ih

end Node

/-! ### The renaming traversal -/

variable {r s : String → String} {limit : Int} {room : Nat} {tree node : Node}

/-- Give each reference its new name. -/
def renamingHooks (newName : String → String) : Hooks (Except Failure) Node
  | .identifier => some fun
    | _, .identifier name => .ok (.identifier (newName name))
    | step, node => step node
  | _ => none

/-- Rebuild a tree with a new name for each reference. -/
def rename (newName : String → String) (limit : Int) (tree : Node) : Except Failure Node :=
  rebuild (renamingHooks newName) limit limit.toNat tree

/-- Rules that rename some references, and do nothing else, are such a renaming. Names that are not
listed stay as they are. -/
theorem applyRules_eq_rename {rules : Rules} (hr : rules.renames ≠ [])
    (ha : ∀ kind, rules.action kind = .keep) :
    applyRules rules limit tree = rename rules.newName limit tree := by
  have hhooks : rules.hook = renamingHooks rules.newName := by
    funext kind
    cases kind with
    | identifier =>
      simp only [Rules.hook, renamingHooks, ha]
      refine (if_pos (by simpa using hr)).trans (congrArg some ?_)
      funext step node
      cases node <;> rfl
    | _ => simp [Rules.hook, renamingHooks, ha]
  rw [applyRules, hhooks, rename]

theorem run_renamingHooks (step : Node → Except Failure Node)
    (hk : node.kind? ≠ some .identifier) : (renamingHooks r).run step node = step node := by
  cases node with
  | identifier => exact absurd rfl hk
  | _ => rfl

theorem forM_ite_throw {α : Type} {p : α → Prop} [DecidablePred p] (failure : Failure)
    (l : List α) :
    (l.forM fun a => if p a then pure () else throw failure : Except Failure Unit) =
      if ∀ a ∈ l, p a then pure () else throw failure := by
  rw [List.forM_eq_forM]
  induction l with
  | nil => simp
  | cons a l ih =>
    rw [List.forM_cons, ih]
    by_cases ha : p a
    · simp [ha]
    · simp [ha]
      rfl

/-- A renaming succeeds just where all nodes but references are within the limit. -/
theorem rebuild_renamingHooks (ht : tree.IsWhole) :
    rebuild (renamingHooks r) limit room tree =
      if tree.BranchesWithin room then .ok (tree.mapReferences r) else .error (.depth limit) := by
  induction room generalizing tree with
  | zero =>
    rw [rebuild]
    by_cases hk : tree.kind? = some .identifier
    · obtain ⟨name, rfl⟩ := Node.exists_of_kind_identifier hk
      rfl
    · rw [run_renamingHooks _ hk, if_neg (show ¬tree.BranchesWithin 0 from hk)]
      rfl
  | succ room ih =>
    rw [rebuild]
    by_cases hk : tree.kind? = some .identifier
    · obtain ⟨name, rfl⟩ := Node.exists_of_kind_identifier hk
      rw [if_pos (Node.branchesWithin_identifier _ name)]
      rfl
    · have hkinds : ∀ child ∈ tree.children, (child.mapReferences r).kind?.isSome := by
        intro child hc
        rw [Node.kind?_mapReferences]
        exact (ht.of_mem hc).root
      have hchildren : ∀ child ∈ tree.children, rebuild (renamingHooks r) limit room child =
          (fun _ => child.mapReferences r) <$>
            if child.BranchesWithin room then pure () else throw (.depth limit) := by
        intro child hc
        rw [ih (ht.of_mem hc)]
        split_ifs <;> rfl
      rw [run_renamingHooks _ hk, Node.traverse_eq_map tree hkinds hchildren, forM_ite_throw,
        ← Node.mapReferences_eq_mapChildren hk]
      by_cases hb : tree.BranchesWithin (room + 1)
      · rw [if_pos hb, if_pos (show ∀ child ∈ tree.children, child.BranchesWithin room from hb)]
        rfl
      · rw [if_neg hb, if_neg (show ¬∀ child ∈ tree.children, child.BranchesWithin room from hb)]
        rfl

theorem rename_eq (ht : tree.IsWhole) :
    rename r limit tree =
      if tree.BranchesWithin limit.toNat then .ok (tree.mapReferences r)
      else .error (.depth limit) :=
  rebuild_renamingHooks ht

/-! ### What traversals note in a renamed tree -/

/-- Two traversals end alike. They note good nodes, the second one the images of what the first one
notes. -/
def Carries (k : Node → Node) (good : Node → Prop) (run later : Recording Unit) : Prop :=
  ∀ before, ∃ outcome seen, (∀ node ∈ seen, good node) ∧
    StateT.run (ExceptT.run run) before = (outcome, before ++ seen) ∧
    StateT.run (ExceptT.run later) (before.map k) = (outcome, (before ++ seen).map k)

namespace Carries

variable {k : Node → Node} {good : Node → Prop} {run later next other : Recording Unit}

theorem pure : Carries k good (pure ()) (pure ()) :=
  fun before => ⟨.ok (), [], nofun, by rw [List.append_nil]; rfl, by rw [List.append_nil]; rfl⟩

theorem throw (failure : Failure) : Carries k good (throw failure) (throw failure) :=
  fun before => ⟨.error failure, [], nofun, by rw [List.append_nil]; rfl,
    by rw [List.append_nil]; rfl⟩

theorem note (h : good node) : Carries k good (note node) (note (k node)) :=
  fun before => ⟨.ok (), [node], List.forall_mem_singleton.2 h, rfl, by rw [List.map_append]; rfl⟩

theorem andThen (h : Carries k good run later) (hn : Carries k good next other) :
    Carries k good (run >>= fun _ => next) (later >>= fun _ => other) := by
  intro before
  obtain ⟨outcome, seen, hg, hr, hl⟩ := h before
  rw [Run.run_bind, Run.run_bind, hr, hl]
  cases outcome with
  | error failure => exact ⟨.error failure, seen, hg, rfl, rfl⟩
  | ok =>
    obtain ⟨outcome, rest, hgood, hr, hl⟩ := hn (before ++ seen)
    refine ⟨outcome, seen ++ rest, List.forall_mem_append.2 ⟨hg, hgood⟩, ?_, ?_⟩
    · rw [← List.append_assoc]
      exact hr
    · rw [← List.append_assoc]
      exact hl

theorem forM {f g : Node → Recording Unit} {l : List Node}
    (h : ∀ node ∈ l, Carries k good (f node) (g (k node))) :
    Carries k good (l.forM f) ((l.map k).forM g) := by
  induction l with
  | nil => exact pure
  | cons node l ih =>
    rw [List.forall_mem_cons] at h
    exact h.1.andThen (ih h.2)

end Carries

variable {listed stopping : Kind → Bool}

theorem carries_run {step later : Node → Recording Unit}
    (hs : Carries (Node.mapReferences r)
      (fun node => isListed listed node ∨ isListed stopping node) (step node)
      (later (node.mapReferences r))) :
    Carries (Node.mapReferences r) (fun node => isListed listed node ∨ isListed stopping node)
      ((recordHooks listed stopping).run step node)
      ((recordHooks listed stopping).run later (node.mapReferences r)) := by
  rw [Hooks.run, Hooks.run, Node.kind?_mapReferences]
  cases hk : node.kind? with
  | none => exact hs
  | some kind =>
    cases ht : stopping kind with
    | true =>
      simp only [Option.bind_some, recordHooks, ht]
      exact .note (.inr (by simp [isListed, hk, ht]))
    | false =>
      cases hl : listed kind with
      | true =>
        simp only [Option.bind_some, recordHooks, ht, hl]
        exact .andThen (.note (.inl (by simp [isListed, hk, hl]))) hs
      | false =>
        simp only [Option.bind_some, recordHooks, ht, hl]
        exact hs

theorem carries_visit (r : String → String) (listed stopping : Kind → Bool) (limit : Int)
    (room : Nat) (tree : Node) :
    Carries (Node.mapReferences r) (fun node => isListed listed node ∨ isListed stopping node)
      (visit (recordHooks listed stopping) limit room tree)
      (visit (recordHooks listed stopping) limit room (tree.mapReferences r)) := by
  induction room generalizing tree with
  | zero => exact carries_run (.throw _)
  | succ room ih =>
    refine carries_run ?_
    rw [Node.children_mapReferences]
    exact .forM fun child _ => ih child

/-- A traversal that notes nodes notes the images in a renamed tree, and ends alike. -/
theorem record_mapReferences (r : String → String) (listed stopping : Kind → Bool) (limit : Int)
    (tree : Node) :
    ∃ outcome seen, record listed stopping limit tree = (outcome, seen) ∧
      record listed stopping limit (tree.mapReferences r) =
        (outcome, seen.map (Node.mapReferences r)) ∧
      ∀ node ∈ seen, isListed listed node ∨ isListed stopping node := by
  obtain ⟨outcome, seen, hg, hr, hl⟩ := carries_visit r listed stopping limit limit.toNat tree []
  exact ⟨outcome, seen, hr, hl, hg⟩

/-- A traversal that collects references collects their new names in a renamed tree. -/
theorem record_references (r : String → String) (hl : ∀ kind, listed kind → kind = .identifier)
    (hs : ∀ kind, stopping kind → kind = .identifier) (limit : Int) (tree : Node) :
    ∃ outcome, ∃ names : List String,
      record listed stopping limit tree = (outcome, names.map .identifier) ∧
      record listed stopping limit (tree.mapReferences r) =
        (outcome, (names.map r).map .identifier) := by
  obtain ⟨outcome, seen, hr, hm, hg⟩ := record_mapReferences r listed stopping limit tree
  have hreferences : seen ∈ Set.range (List.map Node.identifier) := by
    have hkind {chosen : Kind → Bool} (hc : ∀ kind, chosen kind → kind = .identifier)
        {node : Node} (h : isListed chosen node) : node.kind? = some .identifier := by
      obtain ⟨kind, hk, h⟩ := (Option.any_eq_true _ _).1 h
      rw [hk, hc kind h]
    rw [Set.range_list_map]
    intro node hn
    obtain ⟨name, rfl⟩ :=
      Node.exists_of_kind_identifier ((hg node hn).elim (hkind hl) (hkind hs))
    exact ⟨name, rfl⟩
  obtain ⟨names, rfl⟩ := hreferences
  refine ⟨outcome, names, hr, hm.trans ?_⟩
  rw [List.map_map, List.map_map]
  rfl

/-! ### What a renaming is -/

/-- A tree is another one with new names for its references: each identifier to which a path reads
has its new name, and each other node is as it was but for its children. What is bound or spelt is
the same. -/
structure IsRenaming (newName : String → String) (tree out : Node) : Prop where
  references : ∀ path name, path.IsReading → tree.at? path = some (.identifier name) →
    out.at? path = some (.identifier (newName name))
  others : ∀ path node, path.IsReading → tree.at? path = some node →
    node.kind? ≠ some .identifier → ∃ renamed, out.at? path = some renamed ∧ renamed.own = node.own
  bindings : ∀ path, ¬path.IsReading → out.at? path = tree.at? path

theorem isRenaming_mapReferences (r : String → String) (tree : Node) :
    IsRenaming r tree (tree.mapReferences r) where
  references path name hp h := by
    rw [Node.at?_mapReferences, h, Option.map_some, if_pos hp]
    rfl
  others path node hp h hk :=
    ⟨node.mapReferences r, by rw [Node.at?_mapReferences, h, Option.map_some, if_pos hp],
      Node.own_mapReferences hk⟩
  bindings path hp := by
    simp [Node.at?_mapReferences, hp]

/-- **Renaming references is a homomorphism.** A tree of nodes, well-typed or not, whose nodes but
references are all within a limit is rebuilt with new names for its references and for nothing else.
Traversals that collect references, within any limit and whether they go on below these or not, end
in the new tree as they do in the tree, and collect the new names of what they collect there. New
names on new names are one renaming, and a renaming to the same names gives the tree. -/
theorem rename_homomorphic (r s : String → String) (limit : Int) (tree : Node) (ht : tree.IsWhole)
    (hb : tree.BranchesWithin limit.toNat) :
    ∃ out last, rename r limit tree = .ok out ∧ IsRenaming r tree out ∧
      (∀ rules : Rules, rules.renames ≠ [] → (∀ kind, rules.action kind = .keep) →
        rules.newName = r → applyRules rules limit tree = .ok out) ∧
      (∀ listed stopping bound, (∀ kind, listed kind → kind = .identifier) →
        (∀ kind, stopping kind → kind = .identifier) →
        ∃ outcome, ∃ names : List String,
          record listed stopping bound tree = (outcome, names.map .identifier) ∧
          record listed stopping bound out = (outcome, (names.map r).map .identifier)) ∧
      rename s limit out = .ok last ∧ rename (s ∘ r) limit tree = .ok last ∧
      rename id limit tree = .ok tree := by
  have hrename (newName : String → String) :
      rename newName limit tree = .ok (tree.mapReferences newName) := by
    rw [rename_eq ht, if_pos hb]
  refine ⟨tree.mapReferences r, tree.mapReferences (s ∘ r), hrename r,
    isRenaming_mapReferences r tree, ?_, ?_, ?_, hrename (s ∘ r), ?_⟩
  · rintro rules hr ha rfl
    rw [applyRules_eq_rename hr ha, hrename]
  · exact fun listed stopping bound hl hs => record_references r hl hs bound tree
  · rw [rename_eq ht.mapReferences, if_pos (Node.branchesWithin_mapReferences.2 hb),
      Node.mapReferences_mapReferences]
  · rw [hrename, Node.mapReferences_id]

/-- A reference has its new name, and a property whose key is spelt alike keeps it. -/
theorem rename_homomorphic_signIn :
    signIn.toNode.IsWhole ∧ signIn.toNode.BranchesWithin (100 : Int).toNat ∧
    ∃ out, rename (fun name => if name = "user" then "member" else name) 100 signIn.toNode =
        .ok out ∧
      out.at? [(.statements, 1), (.initializer, 0), (.arguments, 1)] =
        some (.identifier "member") ∧
      out.at? [(.statements, 3), (.expression, 0), (.properties, 0), (.name, 0)] =
        some (.identifier "user") := by
  have hw : signIn.toNode.IsWhole := SourceFile.IsWellTyped.isWhole (by decide)
  have hb : signIn.toNode.BranchesWithin (100 : Int).toNat := by decide
  obtain ⟨out, _, hr, hi, -⟩ := rename_homomorphic
    (fun name => if name = "user" then "member" else name) id 100 signIn.toNode hw hb
  refine ⟨hw, hb, out, hr, hi.references _ "user" (by decide) rfl, ?_⟩
  rw [hi.bindings _ (by decide)]
  rfl

end Polyglot.Source
