import Polyglot.Proofs.Searches
import Polyglot.Scope.Table
import Mathlib.Tactic.Common

/-!
# The names of a body

The frame of a body, written out statement by statement: `ofBody_eq`. From it, which names a body
owns, and that a binding by an import stays only if nothing in the body declares the name.
-/

namespace Polyglot

open Source

namespace Source

/-- The bindings of an import, the last that counts first. -/
def ImportDeclaration.bindings (d : ImportDeclaration) : List (String × Scope.Binding) :=
  d.whole.toList.map (·, ⟨d.specifier, none⟩) ++
    d.byDefault.toList.map (·, ⟨d.specifier, some "default"⟩) ++
      (d.named.map fun s => (s.localName, ⟨d.specifier, some s.name⟩)).reverse

/-- The name that a statement declares. -/
def Node.declared? : Node → Option String
  | .variableDeclaration name .. | .classDeclaration name .. => some name
  | _ => none

/-- The name that a statement makes stand for a reference, with the reference. -/
def Node.rename? : Node → Option (String × Node)
  | .variableDeclaration name initializer keyword _ =>
    (Scope.Frame.reference? keyword initializer).map (name, ·)
  | _ => none

/-- The bindings that a statement adds to its body; imports count only at the top of a file. -/
def Node.bindings (atTop : Bool) : Node → List (String × Scope.Binding)
  | .importDeclaration d => if atTop then d.bindings else []
  | _ => []

end Source

namespace Scope.Frame

variable {frame : Frame} {d : ImportDeclaration} {x : String} {entry : String × Binding}
  {atTop : Bool} {node target : Node} {statements : List Node} {parameters : List Parameter}

theorem foldl_bind {specifiers : List ImportSpecifier} {module : String} :
    specifiers.foldl (fun frame s => frame.bind s.localName ⟨module, some s.name⟩) frame =
      { frame with bindings :=
          (specifiers.map fun s => (s.localName, ⟨module, some s.name⟩)).reverse ++
            frame.bindings } := by
  induction specifiers generalizing frame with
  | nil => rfl
  | cons s specifiers ih =>
    rw [List.foldl_cons, ih]
    simp [bind]

theorem bindImport_eq :
    frame.bindImport d = { frame with bindings := d.bindings ++ frame.bindings } := by
  rw [bindImport, foldl_bind]
  cases hd : d.byDefault <;> cases hw : d.whole <;> simp [ImportDeclaration.bindings, hd, hw, bind]

theorem addStatement_eq : frame.addStatement atTop node = {
    bindings := node.bindings atTop ++ frame.bindings
    renames := node.rename?.toList ++ frame.renames
    declared := node.declared?.toList ++ frame.declared } := by
  unfold addStatement
  split
  · next d =>
    split_ifs with ht
    · rw [bindImport_eq]
      simp [Node.bindings, Node.rename?, Node.declared?, ht]
    · simp [Node.bindings, Node.rename?, Node.declared?, ht]
  · next name initializer keyword exported =>
    split
    · next target ht => simp [Node.bindings, Node.rename?, Node.declared?, ht, declare]
    · next ht => simp [Node.bindings, Node.rename?, Node.declared?, ht, declare]
  · simp [Node.bindings, Node.rename?, Node.declared?, declare]
  · next hi hv hc =>
    cases node with
    | importDeclaration => exact absurd rfl (hi _)
    | variableDeclaration => exact absurd rfl (hv _ _ _ _)
    | classDeclaration => exact absurd rfl (hc _ _ _ _)
    | _ => rfl

theorem foldl_addStatement : statements.foldl (addStatement atTop) frame = {
    bindings := statements.reverse.flatMap (Node.bindings atTop) ++ frame.bindings
    renames := statements.reverse.filterMap Node.rename? ++ frame.renames
    declared := statements.reverse.filterMap Node.declared? ++ frame.declared } := by
  induction statements generalizing frame with
  | nil => rfl
  | cons node statements ih =>
    rw [List.foldl_cons, ih, addStatement_eq]
    cases hr : node.rename? <;> cases hd : node.declared? <;> simp [hr, hd]

/-- The names that are declared in a body. -/
def declaredIn (parameters : List Parameter) (statements : List Node) : List String :=
  statements.reverse.filterMap Node.declared? ++ parameters.map (·.name)

/-- The frame of a body, statement by statement, the last statement first. -/
theorem ofBody_eq : ofBody atTop parameters statements = {
    bindings := (statements.reverse.flatMap (Node.bindings atTop)).filter fun entry =>
      !(declaredIn parameters statements).contains entry.1
    renames := statements.reverse.filterMap Node.rename?
    declared := declaredIn parameters statements } := by
  simp [ofBody, foldl_addStatement, declaredIn]

/-! ### What a body owns -/

theorem isSome_lookup_iff {α : Type} {l : List (String × α)} :
    (l.lookup x).isSome ↔ ∃ a, (x, a) ∈ l := by
  rw [List.lookup_isSome_iff]
  constructor
  · rintro ⟨⟨y, a⟩, hm, he⟩
    exact ⟨a, eq_of_beq he ▸ hm⟩
  · rintro ⟨a, hm⟩
    exact ⟨(x, a), hm, beq_self_eq_true x⟩

theorem declared?_of_rename? (h : node.rename? = some (x, target)) : node.declared? = some x := by
  cases node with
  | variableDeclaration name initializer keyword exported =>
    obtain ⟨_, _, he⟩ := Option.map_eq_some_iff.1 h
    cases he
    rfl
  | _ => cases h

theorem mem_declaredIn : x ∈ declaredIn parameters statements ↔
    (∃ node ∈ statements, node.declared? = some x) ∨ ∃ p ∈ parameters, p.name = x := by
  simp [declaredIn]

theorem rename?_ofBody : (ofBody atTop parameters statements).rename? x =
    (statements.reverse.filterMap Node.rename?).lookup x := by
  rw [ofBody_eq, rename?]

theorem mem_of_rename?_ofBody {target : Node}
    (h : (ofBody atTop parameters statements).rename? x = some target) :
    ∃ node ∈ statements, node.rename? = some (x, target) := by
  rw [rename?_ofBody] at h
  simpa using mem_of_lookup h

theorem mem_of_binding?_ofBody {binding : Binding}
    (h : (ofBody atTop parameters statements).binding? x = some binding) :
    (∃ node ∈ statements, (x, binding) ∈ node.bindings atTop) ∧
      x ∉ declaredIn parameters statements := by
  rw [ofBody_eq, binding?] at h
  simpa using mem_of_lookup h

/-- An import binds names to its module. -/
theorem module_of_mem_bindings {binding : Binding} (h : (x, binding) ∈ d.bindings) :
    binding.module = d.specifier := by
  simp only [ImportDeclaration.bindings, List.mem_append, List.mem_map, List.mem_reverse] at h
  rcases h with (⟨_, _, he⟩ | ⟨_, _, he⟩) | ⟨_, _, he⟩ <;> exact congrArg (·.2.module) he.symm

theorem isSome_binding?_ofBody_iff : ((ofBody atTop parameters statements).binding? x).isSome ↔
    (∃ node ∈ statements, ∃ binding, (x, binding) ∈ node.bindings atTop) ∧
      x ∉ declaredIn parameters statements := by
  rw [ofBody_eq, binding?, isSome_lookup_iff]
  simp only [List.mem_filter, List.mem_flatMap, List.mem_reverse, Bool.not_eq_true',
    ← Bool.not_eq_true, List.contains_iff_mem]
  constructor
  · rintro ⟨binding, ⟨node, hn, hb⟩, hd⟩
    exact ⟨⟨node, hn, binding, hb⟩, hd⟩
  · rintro ⟨⟨node, hn, binding, hb⟩, hd⟩
    exact ⟨binding, ⟨node, hn, hb⟩, hd⟩

/-- A body owns what it declares and, at the top of a file, what its imports bind. -/
theorem owns_ofBody_iff : (ofBody atTop parameters statements).owns x ↔
    x ∈ declaredIn parameters statements ∨
      ∃ node ∈ statements, ∃ binding, (x, binding) ∈ node.bindings atTop := by
  have hr : ((ofBody atTop parameters statements).rename? x).isSome →
      x ∈ declaredIn parameters statements := by
    intro h
    obtain ⟨target, h⟩ := Option.isSome_iff_exists.1 h
    obtain ⟨node, hm, hn⟩ := mem_of_rename?_ofBody h
    exact mem_declaredIn.2 (.inl ⟨node, hm, declared?_of_rename? hn⟩)
  have hd : (ofBody atTop parameters statements).declared = declaredIn parameters statements := by
    rw [ofBody_eq]
  rw [owns, Bool.or_eq_true, Bool.or_eq_true, isSome_binding?_ofBody_iff, hd,
    List.contains_iff_mem]
  tauto

end Scope.Frame

end Polyglot
