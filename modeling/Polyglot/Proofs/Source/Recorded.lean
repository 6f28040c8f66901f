import Polyglot.Proofs.Source.Fields
import Polyglot.Proofs.Source.WellTyped
import Polyglot.Source.Traversal

/-!
# What traversals meet

A tree may be read or rebuilt, and nodes of chosen kinds noted on the way. Both traversals note the
same nodes in the same order and end alike, and rebuilding ends with the tree as it was. What they
note are nodes at positions of references, each once and none left out unless the tree is too high;
names that a node binds or spells are never among them: `recordRebuild_eq_record`.
-/

namespace Polyglot.Source

/-! ### Rebuilding as reading -/

namespace Node

/-- A node with another one in the place of each of its children. -/
def mapChildren (k : Node → Node) : Node → Node
  | templateSpan expression literal => templateSpan (k expression) literal
  | templateLiteral head spans => templateLiteral head (spans.map k)
  | taggedTemplate tag template => taggedTemplate (k tag) (k template)
  | callExpression callee arguments => callExpression (k callee) (arguments.map k)
  | propertyAccess expression name => propertyAccess (k expression) name
  | arrowFunction parameters body => arrowFunction parameters (k body)
  | propertyAssignment name value => propertyAssignment name (k value)
  | objectLiteral properties => objectLiteral (properties.map k)
  | arrayLiteral elements => arrayLiteral (elements.map k)
  | expressionStatement expression => expressionStatement (k expression)
  | variableDeclaration name initializer keyword exported =>
    variableDeclaration name (initializer.map k) keyword exported
  | returnStatement expression => returnStatement (expression.map k)
  | methodDeclaration name parameters body => methodDeclaration name parameters (body.map k)
  | classDeclaration name heritage members exported =>
    classDeclaration name (heritage.map k) (members.map k) exported
  | sourceFile statements fileName => sourceFile (statements.map k) fileName
  | node => node

@[simp] theorem mapChildren_id (node : Node) : node.mapChildren id = node := by
  cases node <;> simp [mapChildren]

section Traverse

variable {m : Type → Type} [Monad m] [LawfulMonad m] {f : Node → m Node} {g : Node → m Unit}
  {k : Node → Node} {nodes : List Node}

theorem traverseList_eq_map (hk : ∀ node ∈ nodes, (k node).kind?.isSome)
    (h : ∀ node ∈ nodes, f node = (fun _ => k node) <$> g node) :
    traverseList f nodes = (fun _ => nodes.map k) <$> nodes.forM g := by
  induction nodes with
  | nil => simp [traverseList]
  | cons node nodes ih =>
    rw [List.forall_mem_cons] at hk h
    obtain ⟨kind, hkind⟩ := Option.isSome_iff_exists.1 hk.1
    simp [traverseList, h.1, ih hk.2 h.2, spliced_of_kind hkind]

theorem traverseOption_eq_map {node : Option Node} (hk : ∀ n ∈ node, (k n).kind?.isSome)
    (h : ∀ n ∈ node, f n = (fun _ => k n) <$> g n) :
    traverseOption f node = (fun _ => node.map k) <$> node.toList.forM g := by
  cases node with
  | none => simp [traverseOption]
  | some node =>
    obtain ⟨kind, hkind⟩ := Option.isSome_iff_exists.1 (hk node rfl)
    simp [traverseOption, h node rfl, present?_of_kind hkind]

/-- A node each of whose children is answered for by one node is rebuilt with these in their places,
with the effects of reading its children. -/
theorem traverse_eq_map (node : Node) (hk : ∀ child ∈ node.children, (k child).kind?.isSome)
    (h : ∀ child ∈ node.children, f child = (fun _ => k child) <$> g child) :
    node.traverse f = (fun _ => node.mapChildren k) <$> node.children.forM g := by
  cases node with
  | templateSpan | propertyAccess | arrowFunction | propertyAssignment | expressionStatement =>
    simp [traverse, mapChildren, children, h _ List.mem_cons_self]
  | templateLiteral | objectLiteral | arrayLiteral | methodDeclaration | sourceFile =>
    rw [children] at hk h
    simp [traverse, mapChildren, children, traverseList_eq_map hk h]
  | taggedTemplate =>
    simp [traverse, mapChildren, children, h _ List.mem_cons_self,
      h _ (List.mem_cons_of_mem _ List.mem_cons_self)]
  | callExpression =>
    rw [children, List.forall_mem_cons] at hk h
    simp [traverse, mapChildren, children, h.1, traverseList_eq_map hk.2 h.2]
  | variableDeclaration | returnStatement =>
    simp only [children, Option.mem_toList] at hk h
    simp [traverse, mapChildren, children, traverseOption_eq_map hk h]
  | classDeclaration =>
    simp only [children, List.forall_mem_append, Option.mem_toList] at hk h
    simp [traverse, mapChildren, children, traverseOption_eq_map hk.1 h.1,
      traverseList_eq_map hk.2 h.2]
  | _ => simp [traverse, mapChildren, children]

end Traverse

/-- Only nodes stand in the tree, nothing that a traversal leaves for several of them. -/
def IsWhole (tree : Node) : Prop :=
  Everywhere (fun node => node.kind?.isSome) tree

variable {tree : Node} {place : Place}

theorem isWhole_of_fits (h : tree.fits place) : tree.IsWhole := by
  intro node hw
  induction hw generalizing place with
  | here => exact kind?_isSome_of_fits h
  | inside hc _ ih =>
    obtain ⟨place, hf⟩ := exists_fits_of_mem_children h hc
    exact ih hf

end Node

/-- A well-typed file is a tree of nodes. -/
theorem SourceFile.IsWellTyped.isWhole {file : SourceFile} (h : file.IsWellTyped) :
    file.toNode.IsWhole :=
  Node.everywhere_iff.2 ⟨rfl, fun _ hc => Node.isWhole_of_fits (Node.fitsAll_iff.1 h _ hc)⟩

/-! ### Two traversals that note nodes -/

/-- Note the nodes of listed kinds while a tree is rebuilt. -/
def recordRebuildHooks (listed : Kind → Bool) : Hooks Recording Node := fun kind =>
  if listed kind then some fun step node => do
    note node
    step node
  else none

/-- What becomes of a tree that is rebuilt as it is, and the nodes of listed kinds that are noted on
the way. -/
def recordRebuild (listed : Kind → Bool) (limit : Int) (tree : Node) :
    Except Failure Node × List Node :=
  StateT.run (ExceptT.run (rebuild (recordRebuildHooks listed) limit limit.toNat tree)) []

/-- The node is of a listed kind. -/
def isListed (listed : Kind → Bool) (node : Node) : Bool :=
  node.kind?.any listed

/-- Note a node if it is of a listed kind. -/
def noteListed (listed : Kind → Bool) (node : Node) : Recording Unit :=
  if isListed listed node then note node else pure ()

variable {listed : Kind → Bool} {limit : Int} {room : Nat} {tree : Node}

/-- A hook that notes a node and goes on as if there were none. -/
theorem run_recordHooks (step : Node → Recording Unit) (node : Node) :
    (recordHooks listed fun _ => false).run step node =
      noteListed listed node >>= fun _ => step node := by
  cases hk : node.kind? with
  | none => simp [Hooks.run, noteListed, isListed, hk]
  | some kind =>
    cases hl : listed kind <;> simp [Hooks.run, recordHooks, noteListed, isListed, hk, hl]

theorem run_recordRebuildHooks (step : Node → Recording Node) (node : Node) :
    (recordRebuildHooks listed).run step node =
      noteListed listed node >>= fun _ => step node := by
  cases hk : node.kind? with
  | none => simp [Hooks.run, noteListed, isListed, hk]
  | some kind =>
    cases hl : listed kind <;> simp [Hooks.run, recordRebuildHooks, noteListed, isListed, hk, hl]

theorem run_map {α β : Type} (f : α → β) (run : Recording α) (before : List Node) :
    StateT.run (ExceptT.run (f <$> run)) before =
      (f <$> (StateT.run (ExceptT.run run) before).1, (StateT.run (ExceptT.run run) before).2) := by
  rw [ExceptT.run_map, StateT.run_map]
  rfl

/-- Rebuilding a tree is reading it and answering the tree. -/
theorem rebuild_eq_map_visit (ht : tree.IsWhole) :
    rebuild (recordRebuildHooks listed) limit room tree =
      (fun _ => tree) <$> visit (recordHooks listed fun _ => false) limit room tree := by
  induction room generalizing tree with
  | zero =>
    rw [rebuild, visit, run_recordHooks, run_recordRebuildHooks, map_bind]
    rfl
  | succ room ih =>
    rw [rebuild, visit, run_recordHooks, run_recordRebuildHooks, map_bind]
    refine congrArg _ (funext fun _ => ?_)
    have htraverse := Node.traverse_eq_map (k := id) tree (fun child hc => (ht.of_mem hc).root)
      fun child hc => ih (ht.of_mem hc)
    rw [Node.mapChildren_id] at htraverse
    exact htraverse

/-! ### What is noted -/

/-- Nodes are noted in their order. Under a condition this fails on the way, in one way. -/
def Notes (run : Recording Unit) (failure : Failure) (bad : Prop) (nodes : List Node) : Prop :=
  ∀ before, ∃ seen, seen <+: nodes ∧
    (bad ∧ StateT.run (ExceptT.run run) before = (.error failure, before ++ seen) ∨
      ¬bad ∧ seen = nodes ∧ StateT.run (ExceptT.run run) before = (.ok (), before ++ seen))

namespace Notes

variable {run next : Recording Unit} {failure : Failure} {bad worse : Prop}
  {nodes others : List Node}

theorem pure : Notes (pure ()) failure False [] :=
  fun before => ⟨[], List.nil_prefix, .inr ⟨id, rfl, by rw [List.append_nil]; rfl⟩⟩

theorem throw : Notes (throw failure) failure True [] :=
  fun before => ⟨[], List.nil_prefix, .inl ⟨trivial, by rw [List.append_nil]; rfl⟩⟩

theorem note (node : Node) : Notes (note node) failure False [node] :=
  fun _ => ⟨[node], List.prefix_rfl, .inr ⟨id, rfl, rfl⟩⟩

theorem andThen (h : Notes run failure bad nodes) (hn : Notes next failure worse others) :
    Notes (run >>= fun _ => next) failure (bad ∨ worse) (nodes ++ others) := by
  intro before
  obtain ⟨seen, hs, ⟨hb, hr⟩ | ⟨hb, rfl, hr⟩⟩ := h before
  · refine ⟨seen, hs.trans (List.prefix_append nodes others), .inl ⟨.inl hb, ?_⟩⟩
    rw [Run.run_bind, hr]
    rfl
  · rw [Run.run_bind, hr]
    obtain ⟨later, hl, ⟨hw, hr⟩ | ⟨hw, rfl, hr⟩⟩ := hn (before ++ seen)
    · refine ⟨seen ++ later, (List.prefix_append_right_inj seen).2 hl, .inl ⟨.inr hw, ?_⟩⟩
      rw [← List.append_assoc]
      exact hr
    · refine ⟨seen ++ later, List.prefix_rfl, .inr ⟨not_or.2 ⟨hb, hw⟩, rfl, ?_⟩⟩
      rw [← List.append_assoc]
      exact hr

theorem congr (h : Notes run failure bad nodes) (hb : bad ↔ worse) (hn : nodes = others) :
    Notes run failure worse others := by
  rwa [← propext hb, ← hn]

theorem forM {α : Type} {f : α → Recording Unit} {wrong : α → Prop} {row : α → List Node}
    {l : List α} (h : ∀ a ∈ l, Notes (f a) failure (wrong a) (row a)) :
    Notes (l.forM f) failure (∃ a ∈ l, wrong a) (l.flatMap row) := by
  induction l with
  | nil => exact pure.congr (by simp) rfl
  | cons a l ih =>
    rw [List.forall_mem_cons] at h
    exact (h.1.andThen (ih h.2)).congr (by simp) rfl

end Notes

theorem notes_noteListed (failure : Failure) (node : Node) :
    Notes (noteListed listed node) failure False ([node].filter (isListed listed)) := by
  rw [noteListed]
  split_ifs with h
  · rw [List.filter_cons_of_pos h]
    exact .note node
  · rw [List.filter_cons_of_neg h]
    exact .pure

/-- Reading a tree notes the nodes of listed kinds at the positions of references, and fails just
where the tree is too high. -/
theorem notes_visit (listed : Kind → Bool) (limit : Int) (room : Nat) (tree : Node) :
    Notes (visit (recordHooks listed fun _ => false) limit room tree) (.depth limit)
      (¬tree.NoHigher room)
      (((Node.positions room tree).map Prod.snd).filter (isListed listed)) := by
  induction room generalizing tree with
  | zero =>
    rw [visit, run_recordHooks]
    exact ((notes_noteListed _ tree).andThen .throw).congr (by simp [Node.NoHigher])
      (List.append_nil _)
  | succ room ih =>
    rw [visit, run_recordHooks]
    refine ((notes_noteListed _ tree).andThen (.forM fun child _ => ih child)).congr ?_ ?_
    · simp [Node.NoHigher]
    · rw [Node.map_snd_positions_succ, ← List.filter_flatMap]
      exact (List.filter_append [tree] _).symm

/-- Nodes of listed kinds were noted at positions of a tree to which a path reads, no position
twice. If this was finished, every such node was noted. -/
structure NotedAt (listed : Kind → Bool) (tree : Node) (finished : Prop) (paths : List Path)
    (seen : List Node) : Prop where
  nodes : paths.map tree.at? = seen.map some
  once : paths.Nodup
  reading : ∀ path ∈ paths, path.IsReading
  kinds : ∀ node ∈ seen, isListed listed node
  all : finished → ∀ path node, path.IsReading → tree.at? path = some node →
    isListed listed node → path ∈ paths

theorem exists_notedAt {seen : List Node} {finished : Prop}
    (hs : seen <+: ((Node.positions room tree).map Prod.snd).filter (isListed listed))
    (hf : finished → tree.NoHigher room ∧
      seen = ((Node.positions room tree).map Prod.snd).filter (isListed listed)) :
    ∃ paths, NotedAt listed tree finished paths seen := by
  have hk : ∀ node ∈ seen, isListed listed node :=
    fun node hn => (List.mem_filter.1 (hs.subset hn)).2
  rw [List.filter_map] at hs hf
  generalize hp : (Node.positions room tree).filter (isListed listed ∘ Prod.snd) = places at hs hf
  have hm {place : Path × Node} (h : place ∈ places) :
      place.1.IsReading ∧ tree.at? place.1 = some place.2 := by
    rw [← hp] at h
    exact (Node.mem_positions_iff.1 (List.mem_of_mem_filter h)).2
  have hseen : seen = (places.take seen.length).map Prod.snd := by
    rw [List.map_take]
    exact List.prefix_iff_eq_take.1 hs
  refine ⟨(places.take seen.length).map Prod.fst, ?_, ?_, ?_, hk, fun h path node hr ha hl => ?_⟩
  · conv_rhs => rw [hseen]
    rw [List.map_map, List.map_map]
    exact List.map_congr_left fun place h => (hm (List.mem_of_mem_take h)).2
  · have hsub : (places.take seen.length).Sublist (Node.positions room tree) :=
      (List.take_sublist _ _).trans (hp ▸ List.filter_sublist)
    exact (hsub.map Prod.fst).nodup (Node.nodup_positions room tree)
  · exact List.forall_mem_map.2 fun place h => (hm (List.mem_of_mem_take h)).1
  · obtain ⟨hh, he⟩ := hf h
    have hlen := Nat.le_of_lt (Node.length_lt_of_noHigher hh hr ha)
    have hmem : (path, node) ∈ places :=
      hp ▸ List.mem_filter.2 ⟨Node.mem_positions_iff.2 ⟨hlen, hr, ha⟩, hl⟩
    rw [List.take_of_length_le (Nat.le_of_eq (by rw [he, List.length_map]))]
    exact List.mem_map_of_mem hmem

/-- **Reading and rebuilding meet the same nodes.** Over any tree of nodes, well-typed or not,
within any limit, reading it and rebuilding it as it is note the same nodes of listed kinds in the
same order. Either both come to an end, and then the rebuilt tree is the tree, or the tree is too
high and both fail at the limit after the same notes. What is noted stands at positions to which a
path reads, each noted once and none left out at the end. So if references are listed, each name in
the place of a reference is noted once, and a name that is bound or spelt is not. -/
theorem recordRebuild_eq_record (listed : Kind → Bool) (limit : Int) (tree : Node)
    (ht : tree.IsWhole) :
    ∃ outcome seen paths, record listed (fun _ => false) limit tree = (outcome, seen) ∧
      recordRebuild listed limit tree = ((fun _ => tree) <$> outcome, seen) ∧
      (tree.NoHigher limit.toNat ∧ outcome = .ok () ∨
        ¬tree.NoHigher limit.toNat ∧ outcome = .error (.depth limit)) ∧
      NotedAt listed tree (outcome = .ok ()) paths seen ∧
      (listed .identifier → ∀ path name, tree.at? path = some (.identifier name) →
        (path.IsReading → outcome = .ok () → paths.count path = 1) ∧
        (¬path.IsReading → paths.count path = 0)) := by
  obtain ⟨seen, hs, ho⟩ := notes_visit listed limit limit.toNat tree []
  obtain ⟨outcome, hr, hh, hf⟩ : ∃ outcome,
      record listed (fun _ => false) limit tree = (outcome, seen) ∧
      (tree.NoHigher limit.toNat ∧ outcome = .ok () ∨
        ¬tree.NoHigher limit.toNat ∧ outcome = .error (.depth limit)) ∧
      (outcome = .ok () → seen =
        ((Node.positions limit.toNat tree).map Prod.snd).filter (isListed listed)) := by
    rcases ho with ⟨hb, hr⟩ | ⟨hb, he, hr⟩
    · exact ⟨_, hr, .inr ⟨hb, rfl⟩, nofun⟩
    · exact ⟨_, hr, .inl ⟨not_not.1 hb, rfl⟩, fun _ => he⟩
  have hfinished (h : outcome = .ok ()) : tree.NoHigher limit.toNat := by
    rcases hh with ⟨hh, -⟩ | ⟨-, he⟩
    · exact hh
    · cases h.symm.trans he
  obtain ⟨paths, hp⟩ := exists_notedAt hs fun h => ⟨hfinished h, hf h⟩
  refine ⟨outcome, seen, paths, hr, ?_, hh, hp, fun hl path name ha => ⟨fun hread h => ?_, ?_⟩⟩
  · rw [recordRebuild, rebuild_eq_map_visit ht, run_map, ← record.eq_1, hr]
  · exact List.count_eq_one_of_mem hp.once (hp.all h path _ hread ha hl)
  · exact fun hread => List.count_eq_zero.2 fun hm => hread (hp.reading path hm)

/-- A file that imports, declares, extends, selects and assigns names. -/
def signIn : SourceFile where
  statements :=
    [.importDeclaration { specifier := "library", named := [⟨"format", some "text"⟩] },
     .variableDeclaration "title"
       (some (.callExpression (.identifier "text") [.stringLiteral "Hi", .identifier "user"]))
       "const" false,
     .classDeclaration "Page" (some (.identifier "Base"))
       [.methodDeclaration "render" [⟨"state", none⟩]
         [.returnStatement (some (.propertyAccess (.identifier "state") "user"))]] true,
     .expressionStatement (.objectLiteral [.propertyAssignment "user" (.stringLiteral "Hi")])]
  fileName := "page.ts"

/-- The name of a class is not noted, and that of the class it extends is noted once. -/
theorem recordRebuild_eq_record_signIn :
    signIn.toNode.IsWhole ∧
    signIn.toNode.at? [(.statements, 2), (.name, 0)] = some (.identifier "Page") ∧
    signIn.toNode.at? [(.statements, 2), (.heritage, 0)] = some (.identifier "Base") ∧
    ∃ (seen : List Node) (paths : List Path),
      record (· == .identifier) (fun _ => false) 100 signIn.toNode = (.ok (), seen) ∧
      recordRebuild (· == .identifier) 100 signIn.toNode = (.ok signIn.toNode, seen) ∧
      paths.map signIn.toNode.at? = seen.map some ∧
      paths.count [(.statements, 2), (.name, 0)] = 0 ∧
      paths.count [(.statements, 2), (.heritage, 0)] = 1 := by
  have hw : signIn.toNode.IsWhole := SourceFile.IsWellTyped.isWhole (by decide)
  have hn : signIn.toNode.at? [(.statements, 2), (.name, 0)] = some (.identifier "Page") := rfl
  have hb : signIn.toNode.at? [(.statements, 2), (.heritage, 0)] = some (.identifier "Base") := rfl
  obtain ⟨outcome, seen, paths, hr, hc, ho, hp, hi⟩ :=
    recordRebuild_eq_record (· == .identifier) 100 signIn.toNode hw
  obtain rfl : outcome = .ok () := by
    rcases ho with ⟨-, ho⟩ | ⟨hh, -⟩
    · exact ho
    · exact absurd (by decide) hh
  exact ⟨hw, hn, hb, seen, paths, hr, hc, hp.nodes, (hi rfl _ _ hn).2 (by decide),
    (hi rfl _ _ hb).1 (by decide) rfl⟩

example : (record (· == .identifier) (fun _ => false) 100 signIn.toNode).2.map Node.label =
    ["Identifier:text", "Identifier:user", "Identifier:Base", "Identifier:state"] := by
  decide +kernel

end Polyglot.Source
