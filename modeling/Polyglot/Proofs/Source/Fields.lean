import Polyglot.Proofs.Searches
import Polyglot.Proofs.Source.Within
import Mathlib.Data.List.Nodup

/-!
# Nodes as rows of fields

Seen from outside, a node is a row of named fields that hold nodes, the names that it binds or
spells among them. Some fields hold what the node binds or spells and the others what it refers to;
the latter are its children, in the same order. A position in a tree is the row of steps, each into
one of the nodes in a field, that leads to it from the root: two nodes that are alike have positions
of their own.
-/

namespace Polyglot.Source

/-- The fields that hold nodes. -/
inductive Field where
  | name
  | renamed
  | named
  | whole
  | byDefault
  | parameters
  | expression
  | spans
  | tag
  | template
  | callee
  | arguments
  | body
  | value
  | properties
  | elements
  | initializer
  | heritage
  | members
  | statements
  deriving DecidableEq, Repr

/-- The field holds what its node binds or spells: a declared or imported name, a parameter, the key
of a property or the name of a member. -/
def Field.isBinding : Field → Bool
  | name | renamed | named | whole | byDefault | parameters => true
  | _ => false

/-- The way from a node to one of the nodes in a field. -/
abbrev Step := Field × Nat

/-- The way from the root of a tree to one of its nodes. -/
abbrev Path := List Step

/-- Along the path nothing is bound or spelt. -/
def Path.IsReading (path : Path) : Prop :=
  ∀ step ∈ path, step.1.isBinding = false

instance (path : Path) : Decidable path.IsReading :=
  inferInstanceAs (Decidable (∀ step ∈ path, _))

theorem Path.isReading_nil : Path.IsReading [] :=
  nofun

theorem Path.isReading_cons {step : Step} {path : Path} :
    Path.IsReading (step :: path) ↔ step.1.isBinding = false ∧ path.IsReading :=
  List.forall_mem_cons

namespace Node

/-- The fields of a node in their order, each with the nodes that it holds. -/
def fields : Node → List (Field × List Node)
  | templateSpan expression _ => [(.expression, [expression])]
  | templateLiteral _ spans => [(.spans, spans)]
  | taggedTemplate tag template => [(.tag, [tag]), (.template, [template])]
  | callExpression callee arguments => [(.callee, [callee]), (.arguments, arguments)]
  | propertyAccess expression name => [(.expression, [expression]), (.name, [identifier name])]
  | parameter bound => [(.name, [identifier bound.name])]
  | arrowFunction parameters body => [(.parameters, parameters.map parameter), (.body, [body])]
  | propertyAssignment name value => [(.name, [identifier name]), (.value, [value])]
  | objectLiteral properties => [(.properties, properties)]
  | arrayLiteral elements => [(.elements, elements)]
  | importSpecifier specifier =>
    [(.name, [identifier specifier.name]), (.renamed, specifier.renamed.toList.map identifier)]
  | importDeclaration declaration =>
    [(.named, declaration.named.map importSpecifier),
      (.whole, declaration.whole.toList.map identifier),
      (.byDefault, declaration.byDefault.toList.map identifier)]
  | expressionStatement expression => [(.expression, [expression])]
  | variableDeclaration name initializer _ _ =>
    [(.name, [identifier name]), (.initializer, initializer.toList)]
  | returnStatement expression => [(.expression, expression.toList)]
  | methodDeclaration name parameters body =>
    [(.name, [identifier name]), (.parameters, parameters.map parameter), (.body, body)]
  | classDeclaration name heritage members _ =>
    [(.name, [identifier name]), (.heritage, heritage.toList), (.members, members)]
  | sourceFile statements _ => [(.statements, statements)]
  | _ => []

/-- The node that one step leads to. -/
def child? (node : Node) (step : Step) : Option Node :=
  (node.fields.lookup step.1).bind fun nodes => nodes[step.2]?

/-- The node at a position. -/
def at? : Node → Path → Option Node
  | node, [] => some node
  | node, step :: path => (node.child? step).bind fun child => child.at? path

variable {node child : Node} {step : Step}

/-- No node has two fields of one name. -/
theorem nodup_fields (node : Node) : (node.fields.map Prod.fst).Nodup := by
  cases node <;> simp [fields]

/-! ### Children -/

/-- The nodes in a field, each with the step that leads to it. -/
def numbered (entry : Field × List Node) : List (Step × Node) :=
  entry.2.zipIdx.map fun place => ((entry.1, place.2), place.1)

/-- The nodes in the fields that bind and spell nothing, each with the step that leads to it. -/
def branches (node : Node) : List (Step × Node) :=
  (node.fields.filter fun entry => !entry.1.isBinding).flatMap numbered

/-- The children are the nodes in the fields that bind and spell nothing. -/
theorem children_eq_fields (node : Node) :
    node.children = (node.fields.filter fun entry => !entry.1.isBinding).flatMap Prod.snd := by
  cases node <;> simp [children, fields, Field.isBinding]

theorem map_snd_numbered (entry : Field × List Node) :
    (numbered entry).map Prod.snd = entry.2 := by
  rw [numbered, List.map_map]
  exact List.zipIdx_map_fst 0 entry.2

theorem nodup_numbered (entry : Field × List Node) : ((numbered entry).map Prod.fst).Nodup := by
  have hm : (numbered entry).map Prod.fst = (entry.2.zipIdx.map Prod.snd).map (entry.1, ·) := by
    rw [numbered, List.map_map, List.map_map]
    rfl
  rw [hm, List.zipIdx_map_snd]
  exact List.Nodup.map (fun _ _ h => (Prod.mk.inj h).2) List.nodup_range'

theorem mem_numbered_iff {entry : Field × List Node} :
    (step, child) ∈ numbered entry ↔ entry.1 = step.1 ∧ entry.2[step.2]? = some child := by
  obtain ⟨field, i⟩ := step
  simp [numbered, List.mk_mem_zipIdx_iff_getElem?, and_comm]

theorem map_snd_branches (node : Node) : node.branches.map Prod.snd = node.children := by
  rw [children_eq_fields, branches, List.map_flatMap]
  exact List.flatMap_congr fun entry _ => map_snd_numbered entry

theorem mem_branches_iff :
    (step, child) ∈ node.branches ↔ step.1.isBinding = false ∧ node.child? step = some child := by
  simp only [branches, List.mem_flatMap, List.mem_filter, mem_numbered_iff, child?,
    Option.bind_eq_some_iff, lookup_eq_some_iff_of_nodup (nodup_fields node)]
  constructor
  · rintro ⟨⟨field, nodes⟩, ⟨hm, hb⟩, rfl, hc⟩
    exact ⟨by simpa using hb, nodes, hm, hc⟩
  · rintro ⟨hb, nodes, hm, hc⟩
    exact ⟨(step.1, nodes), ⟨hm, by simpa using hb⟩, rfl, hc⟩

theorem nodup_branches (node : Node) : (node.branches.map Prod.fst).Nodup := by
  rw [branches, List.map_flatMap, List.nodup_flatMap]
  refine ⟨fun entry _ => nodup_numbered entry, ?_⟩
  have hf := (List.pairwise_map.1 (nodup_fields node)).filter fun entry => !entry.1.isBinding
  refine hf.imp fun hne step ha hb => hne ?_
  obtain ⟨⟨_, child⟩, hm, rfl⟩ := List.mem_map.1 ha
  obtain ⟨⟨_, other⟩, ho, he⟩ := List.mem_map.1 hb
  obtain rfl := he
  exact (mem_numbered_iff.1 hm).1.trans (mem_numbered_iff.1 ho).1.symm

/-! ### Positions of references -/

/-- The positions no more than some levels below the root to which a path reads, in reading order,
each with its node. -/
def positions : (levels : Nat) → Node → List (Path × Node)
  | 0, tree => [([], tree)]
  | levels + 1, tree => ([], tree) :: tree.branches.flatMap fun branch =>
    (positions levels branch.2).map fun place => (branch.1 :: place.1, place.2)

variable {path : Path} {tree : Node} {levels : Nat}

theorem mem_positions_iff :
    (path, node) ∈ positions levels tree ↔
      path.length ≤ levels ∧ path.IsReading ∧ tree.at? path = some node := by
  induction levels generalizing path tree node with
  | zero =>
    cases path with
    | nil => simp [positions, Path.isReading_nil, at?, eq_comm]
    | cons => simp [positions]
  | succ levels ih =>
    rw [positions]
    cases path with
    | nil => simp [Path.isReading_nil, at?, eq_comm]
    | cons step path =>
      simp only [List.mem_cons, Prod.mk.injEq, reduceCtorEq, false_and, false_or, List.mem_flatMap,
        List.mem_map]
      rw [Path.isReading_cons]
      constructor
      · rintro ⟨⟨_, child⟩, hc, ⟨_, _⟩, hm, hp, rfl⟩
        obtain ⟨rfl, rfl⟩ := List.cons.inj hp
        obtain ⟨hb, hc⟩ := mem_branches_iff.1 hc
        obtain ⟨hl, hr, ha⟩ := ih.1 hm
        exact ⟨Nat.succ_le_succ hl, ⟨hb, hr⟩, Option.bind_eq_some_iff.2 ⟨child, hc, ha⟩⟩
      · rintro ⟨hl, ⟨hb, hr⟩, ha⟩
        obtain ⟨child, hc, ha⟩ := Option.bind_eq_some_iff.1 ha
        exact ⟨(step, child), mem_branches_iff.2 ⟨hb, hc⟩, (path, node),
          ih.2 ⟨Nat.le_of_succ_le_succ hl, hr, ha⟩, rfl, rfl⟩

/-- No position is listed twice. -/
theorem nodup_positions (levels : Nat) (tree : Node) :
    ((positions levels tree).map Prod.fst).Nodup := by
  induction levels generalizing tree with
  | zero => simp [positions]
  | succ levels ih =>
    have hm (branch : Step × Node) :
        ((positions levels branch.2).map fun place => (branch.1 :: place.1, place.2)).map Prod.fst =
          ((positions levels branch.2).map Prod.fst).map (branch.1 :: ·) := by
      rw [List.map_map, List.map_map]
      rfl
    rw [positions, List.map_cons, List.map_flatMap, List.flatMap_congr fun branch _ => hm branch,
      List.nodup_cons, List.nodup_flatMap]
    refine ⟨?_, fun branch _ => (ih branch.2).map fun _ _ h => (List.cons.inj h).2, ?_⟩
    · simp
    · -- the paths into two branches differ in their first steps
      refine (List.pairwise_map.1 (nodup_branches tree)).imp fun hne path ha hb => hne ?_
      obtain ⟨_, -, rfl⟩ := List.mem_map.1 ha
      obtain ⟨_, -, he⟩ := List.mem_map.1 hb
      exact (List.cons.inj he).1.symm

/-- The nodes at the positions below a node are those of its children. -/
theorem map_snd_positions_succ (levels : Nat) (tree : Node) :
    (positions (levels + 1) tree).map Prod.snd =
      tree :: tree.children.flatMap fun child => (positions levels child).map Prod.snd := by
  rw [positions, List.map_cons, List.map_flatMap, ← map_snd_branches, List.flatMap_map]
  simp only [List.map_map, Function.comp_def]

theorem mem_children_of_child? (hb : step.1.isBinding = false)
    (hc : tree.child? step = some child) : child ∈ tree.children := by
  rw [← map_snd_branches]
  exact List.mem_map_of_mem (mem_branches_iff.2 ⟨hb, hc⟩)

/-- In a tree of some levels no path reads further. -/
theorem length_lt_of_noHigher (hh : tree.NoHigher levels) (hr : path.IsReading)
    (ha : tree.at? path = some node) : path.length < levels := by
  induction path generalizing tree levels with
  | nil =>
    cases levels with
    | zero => exact hh.elim
    | succ levels => exact Nat.succ_pos levels
  | cons step path ih =>
    cases levels with
    | zero => exact hh.elim
    | succ levels =>
      obtain ⟨hb, hr⟩ := Path.isReading_cons.1 hr
      obtain ⟨child, hc, ha⟩ := Option.bind_eq_some_iff.1 ha
      exact Nat.succ_lt_succ (ih (hh child (mem_children_of_child? hb hc)) hr ha)

end Node

end Polyglot.Source
