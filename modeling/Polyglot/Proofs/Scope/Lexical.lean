import Polyglot.Proofs.Scope.Bound
import Polyglot.Proofs.Scope.Resolution
import Polyglot.Proofs.Searches

/-!
# Lexical resolution

A reference is read in layers: the bodies around it from the innermost outward, and the file. The
name at its root means what it means in the innermost layer that declares it. If it is an alias
there, the reference that it stands for takes its place and is read from that layer on; if it is
imported there, the reference means an export. `resolve?_lexical` says that scopes resolve
references in this way, through at most thirty-one aliases.
-/

namespace Polyglot

open Source

namespace Source

/-- The names that an import binds, one after the other. -/
def ImportDeclaration.bound (d : ImportDeclaration) : List (String × Scope.Binding) :=
  d.named.map (fun s => (s.localName, ⟨d.specifier, some s.name⟩)) ++
    d.byDefault.toList.map (·, ⟨d.specifier, some "default"⟩) ++
      d.whole.toList.map (·, ⟨d.specifier, none⟩)

namespace Node

/-- The names that a statement imports. -/
def imports : Node → List (String × Scope.Binding)
  | importDeclaration d => d.bound
  | _ => []

/-- The name at the root of a reference: the reference itself, or that of what it is a member of. -/
def root? : Node → Option String
  | identifier x => some x
  | propertyAccess expression _ => expression.root?
  | _ => none

/-- A reference with another expression at its root. -/
def withRoot : (reference target : Node) → Node
  | identifier _, target => target
  | propertyAccess expression name, target => propertyAccess (expression.withRoot target) name
  | node, _ => node

theorem root?_withRoot {reference target : Node} (h : reference.root?.isSome) :
    (reference.withRoot target).root? = target.root? := by
  fun_induction root? reference with
  | case1 => rfl
  | case2 expression name ih => exact ih h
  | case3 => cases h

end Node

end Source

namespace Scope

/-! ### Layers -/

/-- What gives names a meaning around a place: the parameters and statements of a body, or the
statements of a file, which alone may import. -/
structure Layer where
  parameters : List Parameter
  statements : List Node
  atTop : Bool := false

namespace Layer

/-- The parameters of a layer and the names that its statements declare. -/
def declared (layer : Layer) : List String :=
  layer.parameters.map (·.name) ++ layer.statements.filterMap Node.declared?

/-- The names that a layer imports. -/
def imported (layer : Layer) : List (String × Binding) :=
  if layer.atTop then layer.statements.flatMap Node.imports else []

/-- A layer gives a name a meaning. -/
def Declares (layer : Layer) (x : String) : Prop :=
  x ∈ layer.declared ∨ ∃ binding, (x, binding) ∈ layer.imported

/-- A name is an alias of a reference: the last constant of that name that is set to one is set to
this one. -/
def Renames (layer : Layer) (x : String) (target : Node) : Prop :=
  IsLast (·.1 = x) (layer.statements.filterMap Node.rename?) (x, target)

/-- A name is imported, last in this way, and not declared otherwise. -/
def Binds (layer : Layer) (x : String) (binding : Binding) : Prop :=
  x ∉ layer.declared ∧ IsLast (·.1 = x) layer.imported (x, binding)

/-- A name is a parameter or declared, and no alias. -/
def Hides (layer : Layer) (x : String) : Prop :=
  x ∈ layer.declared ∧ ∀ target, ¬layer.Renames x target

/-- The frame of a layer. -/
def frame (layer : Layer) : Frame :=
  .ofBody layer.atTop layer.parameters layer.statements

variable {layer : Layer} {x : String} {target : Node} {binding : Binding}

theorem bindings_eq {atTop : Bool} (node : Node) :
    node.bindings atTop = if atTop then node.imports.reverse else [] := by
  cases node with
  | importDeclaration d =>
    have hone {α : Type} (o : Option α) : o.toList.reverse = o.toList := by cases o <;> rfl
    simp [Node.bindings, Node.imports, ImportDeclaration.bindings, ImportDeclaration.bound,
      ← List.map_reverse, hone]
  | _ => simp [Node.bindings, Node.imports]

theorem flatMap_bindings_eq : layer.statements.reverse.flatMap (Node.bindings layer.atTop) =
    layer.imported.reverse := by
  rw [funext bindings_eq, imported]
  cases layer.atTop <;> simp [List.reverse_flatMap, Function.comp_def]

theorem mem_declared_iff : x ∈ layer.declared ↔
    x ∈ Frame.declaredIn layer.parameters layer.statements := by
  simp [declared, Frame.declaredIn, or_comm]

theorem mem_imported_iff {entry : String × Binding} : entry ∈ layer.imported ↔
    ∃ node ∈ layer.statements, entry ∈ node.bindings layer.atTop := by
  rw [← List.mem_reverse, ← flatMap_bindings_eq]
  simp

theorem owns_frame_iff : layer.frame.owns x ↔ layer.Declares x := by
  rw [frame, Frame.owns_ofBody_iff, Declares, mem_declared_iff]
  simp only [mem_imported_iff]
  refine or_congr_right ⟨?_, ?_⟩
  · rintro ⟨node, hn, binding, hb⟩
    exact ⟨binding, node, hn, hb⟩
  · rintro ⟨binding, node, hn, hb⟩
    exact ⟨node, hn, binding, hb⟩

theorem rename?_frame_eq_some_iff : layer.frame.rename? x = some target ↔
    layer.Renames x target := by
  rw [frame, Frame.rename?_ofBody, List.filterMap_reverse, lookup_reverse_eq_some_iff, Renames]

theorem lookup_filter {α : Type} {l : List (String × α)} (keep : String → Bool) :
    (l.filter fun entry => keep entry.1).lookup x = if keep x then l.lookup x else none := by
  induction l with
  | nil => simp
  | cons entry l ih => grind

theorem binding?_frame_eq_some_iff : layer.frame.binding? x = some binding ↔
    layer.Binds x binding := by
  rw [frame, Frame.ofBody_eq, Frame.binding?, flatMap_bindings_eq, Binds, mem_declared_iff,
    ← lookup_reverse_eq_some_iff,
    lookup_filter fun y => !(Frame.declaredIn layer.parameters layer.statements).contains y]
  simp

theorem Renames.mem_declared (h : layer.Renames x target) : x ∈ layer.declared := by
  obtain ⟨node, hn, hr⟩ := List.mem_filterMap.1 h.mem
  exact List.mem_append_right _
    (List.mem_filterMap.2 ⟨node, hn, Frame.declared?_of_rename? hr⟩)

theorem rename?_frame_eq_none_of_binds (h : layer.Binds x binding) :
    layer.frame.rename? x = none := by
  rw [Option.eq_none_iff_forall_ne_some]
  intro target ht
  exact h.1 (rename?_frame_eq_some_iff.1 ht).mem_declared

end Layer

/-! ### Aliases and imports -/

/-- The innermost of some layers that declares a name, and the layers around it. -/
inductive Innermost (x : String) : List Layer → Layer → List Layer → Prop
  | here {layer : Layer} {outer : List Layer} (h : layer.Declares x) :
      Innermost x (layer :: outer) layer outer
  | outward {first layer : Layer} {layers outer : List Layer} (h : ¬first.Declares x)
      (hi : Innermost x layers layer outer) : Innermost x (first :: layers) layer outer

/-- A reference and the layers in which it is read. -/
abbrev Reading := Node × List Layer

/-- The name at the root of a reference is an alias in the innermost layer that declares it: what it
stands for takes its place, and is read in that layer. -/
def AliasStep (reading next : Reading) : Prop :=
  ∃ x layer outer target, reading.1.root? = some x ∧ Innermost x reading.2 layer outer ∧
    layer.Renames x target ∧ next = (reading.1.withRoot target, layer :: outer)

/-- A reference is an export by its import: it is a name that is imported, by its own name or as the
default, in the innermost layer that declares it, or a member of one that is imported there as a
whole module. -/
inductive Imports (program : Program) : Reading → Export → Prop
  | name {x module name : String} {layers outer : List Layer} {layer : Layer} {e : Export}
      (hi : Innermost x layers layer outer) (hb : layer.Binds x ⟨module, some name⟩)
      (he : program.resolve? module name = some e) : Imports program (.identifier x, layers) e
  | member {x module name : String} {layers outer : List Layer} {layer : Layer} {e : Export}
      (hi : Innermost x layers layer outer) (hb : layer.Binds x ⟨module, none⟩)
      (he : program.resolve? module name = some e) :
      Imports program (.propertyAccess (.identifier x) name, layers) e

variable {program : Program} {x : String} {layers outer : List Layer} {layer : Layer} {e : Export}
  {target : Node} {reading next back other : Reading} {n : Nat}

theorem owner_of_innermost (h : Innermost x layers layer outer) :
    owner x (layers.map Layer.frame) = layer.frame :: outer.map Layer.frame := by
  induction h with
  | here h => exact owner_cons_of_owns (Layer.owns_frame_iff.2 h)
  | outward h _ ih =>
    exact (owner_cons_of_not_owns fun ho => h (Layer.owns_frame_iff.1 ho)).trans ih

/-- What a frame says about a name is what its layer makes of the name. -/
theorem cases_of_owner (x : String) (layers : List Layer) :
    owner x (layers.map Layer.frame) = [] ∨ ∃ layer outer, Innermost x layers layer outer ∧
      owner x (layers.map Layer.frame) = layer.frame :: outer.map Layer.frame ∧
      ((∃ target, layer.frame.rename? x = some target ∧ layer.Renames x target) ∨
        layer.frame.rename? x = none ∧ (layer.frame.binding? x = none ∨
          ∃ binding, layer.frame.binding? x = some binding ∧ layer.Binds x binding)) := by
  induction layers with
  | nil => exact .inl rfl
  | cons first layers ih =>
    by_cases hd : first.Declares x
    · refine .inr ⟨first, layers, .here hd, owner_of_innermost (.here hd), ?_⟩
      cases hr : first.frame.rename? x with
      | some target => exact .inl ⟨target, rfl, Layer.rename?_frame_eq_some_iff.1 hr⟩
      | none =>
        cases hb : first.frame.binding? x with
        | none => exact .inr ⟨rfl, .inl rfl⟩
        | some binding =>
          exact .inr ⟨rfl, .inr ⟨binding, rfl, Layer.binding?_frame_eq_some_iff.1 hb⟩⟩
    · rw [List.map_cons, owner_cons_of_not_owns fun ho => hd (Layer.owns_frame_iff.1 ho)]
      rcases ih with ho | ⟨layer, outer, hi, hrest⟩
      · exact .inl ho
      · exact .inr ⟨layer, outer, .outward hd hi, hrest⟩

/-- A member of a member means no export, whatever its root stands for. -/
theorem follow_member_eq_none {fuel : Nat} {frames : List Frame} {expression : Node}
    {member name : String} :
    follow program fuel (.propertyAccess (.propertyAccess expression member) name) frames =
      none := by
  rw [Option.eq_none_iff_forall_ne_some]
  intro e he
  cases isReference_of_follow he

/-- A name that means an export is imported or an alias. -/
theorem cases_of_follow_name {fuel : Nat}
    (h : follow program (fuel + 1) (.identifier x) (layers.map Layer.frame) = some e) :
    Imports program (.identifier x, layers) e ∨ ∃ next, AliasStep (.identifier x, layers) next := by
  rw [follow] at h
  rcases cases_of_owner x layers with ho | ⟨layer, outer, hi, ho, hl⟩
  · simp only [ho] at h
    cases h
  · simp only [ho] at h
    rcases hl with ⟨target, -, hr⟩ | ⟨ht, hb | ⟨⟨module, exportName⟩, hb, hbinds⟩⟩
    · exact .inr ⟨_, x, layer, outer, target, rfl, hi, hr, rfl⟩
    · simp only [ht, hb] at h
      cases h
    · simp only [ht, hb] at h
      cases exportName with
      | some name => exact .inl (.name hi hbinds h)
      | none => cases h

/-- A member of a name means an export only if the name is imported as a whole or an alias. -/
theorem cases_of_follow_member {fuel : Nat} {name : String}
    (h : follow program (fuel + 1) (.propertyAccess (.identifier x) name)
      (layers.map Layer.frame) = some e) :
    Imports program (.propertyAccess (.identifier x) name, layers) e ∨
      ∃ next, AliasStep (.propertyAccess (.identifier x) name, layers) next := by
  rw [follow] at h
  rcases cases_of_owner x layers with ho | ⟨layer, outer, hi, ho, hl⟩
  · simp only [ho] at h
    cases h
  · simp only [ho] at h
    rcases hl with ⟨target, -, hr⟩ | ⟨ht, hb | ⟨⟨module, exportName⟩, hb, hbinds⟩⟩
    · exact .inr ⟨_, x, layer, outer, target, rfl, hi, hr, rfl⟩
    · simp only [ht, hb] at h
      cases h
    · simp only [ht, hb] at h
      cases exportName with
      | some name => cases h
      | none => exact .inl (.member hi hbinds h)

/-- What a reference means is searched along the chain of its aliases. -/
theorem follows_aliasStep (program : Program) :
    Follows AliasStep (Imports program) fun fuel reading =>
      follow program fuel reading.1 (reading.2.map Layer.frame) where
  zero _ := follow.eq_1 ..
  next {fuel reading next} h := by
    obtain ⟨reference, layers⟩ := reading
    obtain ⟨x, layer, outer, target, hx, hi, hr, rfl⟩ := h
    have ho := owner_of_innermost hi
    have ht := Layer.rename?_frame_eq_some_iff.2 hr
    cases reference with
    | identifier =>
      cases hx
      rw [follow, ho]
      simp only [ht]
      rfl
    | propertyAccess expression name =>
      cases expression with
      | identifier =>
        cases hx
        rw [follow, ho]
        simp only [ht]
        rfl
      | propertyAccess =>
        exact follow_member_eq_none.trans follow_member_eq_none.symm
      | _ => cases hx
    | _ => cases hx
  answer {fuel reading e} h := by
    cases h with
    | name hi hb he =>
      have hn := Layer.rename?_frame_eq_none_of_binds hb
      rw [follow, owner_of_innermost hi]
      simp only [hn, Layer.binding?_frame_eq_some_iff.2 hb, he]
    | member hi hb he =>
      have hn := Layer.rename?_frame_eq_none_of_binds hb
      rw [follow, owner_of_innermost hi]
      simp only [hn, Layer.binding?_frame_eq_some_iff.2 hb, he]
  cases {fuel reading e} h := by
    obtain ⟨reference, layers⟩ := reading
    cases reference with
    | identifier => exact cases_of_follow_name h
    | propertyAccess expression name =>
      cases expression with
      | identifier => exact cases_of_follow_member h
      | _ => cases h
    | _ => cases h

/-! ### Hidden names and cycles -/

/-- Nothing is read through a name that the first layer hides. -/
theorem not_aliasStep_of_hides {reference : Node} (hh : layer.Hides x)
    (hx : reference.root? = some x) : ¬AliasStep (reference, layer :: outer) next := by
  rintro ⟨y, found, around, target, hy, hi, hr, -⟩
  obtain rfl := Option.some.inj (hx.symm.trans hy)
  cases hi with
  | here => exact hh.2 target hr
  | outward hd => exact hd (.inl hh.1)

theorem not_imports_of_hides {reference : Node} (hh : layer.Hides x)
    (hx : reference.root? = some x) : ¬Imports program (reference, layer :: outer) e := by
  intro h
  cases h with
  | name hi hb | member hi hb =>
    obtain rfl := Option.some.inj hx
    cases hi with
    | here => exact hb.1 hh.1
    | outward hd => exact hd (.inl hh.1)

/-- A layer that does not declare the root of a reference makes no difference to it. -/
theorem follow_cons_of_not_declares {fuel : Nat} {frames : List Frame} {reference : Node}
    (h : ∀ x ∈ reference.root?, ¬layer.Declares x) :
    follow program fuel reference (layer.frame :: frames) =
      follow program fuel reference frames := by
  have ho (x : String) (hx : reference.root? = some x) :
      owner x (layer.frame :: frames) = owner x frames :=
    owner_cons_of_not_owns fun hf => h x hx (Layer.owns_frame_iff.1 hf)
  cases fuel with
  | zero => rw [follow, follow]
  | succ fuel =>
    cases reference with
    | identifier x => rw [follow, follow, ho x rfl]
    | propertyAccess expression name =>
      cases expression with
      | identifier x => rw [follow, follow, ho x rfl]
      | _ => rfl
    | _ => rfl

/-- Two references with the same root that are read in the same layers. -/
def Reading.SameRoot (reading other : Reading) : Prop :=
  reading.1.root? = other.1.root? ∧ reading.2 = other.2

/-- Aliases are followed by the root of a reference and the layers alone. -/
theorem exists_leads_of_sameRoot (h : Leads AliasStep n reading next)
    (ho : Reading.SameRoot other reading) :
    ∃ later, Leads AliasStep n other later ∧ Reading.SameRoot later next := by
  induction h generalizing other with
  | refl => exact ⟨other, .refl other, ho⟩
  | @head n reading middle last h _ ih =>
    obtain ⟨x, layer, outer, target, hx, hi, hr, rfl⟩ := h
    have hy : other.1.root? = some x := ho.1.trans hx
    have hsame : Reading.SameRoot (other.1.withRoot target, layer :: outer)
        (reading.1.withRoot target, layer :: outer) :=
      ⟨(Node.root?_withRoot (by rw [hy]; rfl)).trans
        (Node.root?_withRoot (by rw [hx]; rfl)).symm, rfl⟩
    obtain ⟨later, hl, hs⟩ := ih hsame
    exact ⟨later, .head ⟨x, layer, outer, target, hy, ho.2 ▸ hi, hr, rfl⟩ hl, hs⟩

/-! ### Nested scopes -/

/-- The scope inside some bodies of a file, each in the next one. -/
def nested (program : Program) (file : SourceFile) : List (List Parameter × List Node) → Scope
  | [] => .ofFile program file
  | (parameters, statements) :: bodies =>
    (nested program file bodies).child parameters statements

/-- The layers around a place inside these bodies. -/
def layersOf (file : SourceFile) (bodies : List (List Parameter × List Node)) : List Layer :=
  bodies.map (fun body => ⟨body.1, body.2, false⟩) ++ [⟨[], file.statements, true⟩]

variable {file : SourceFile} {bodies : List (List Parameter × List Node)}

theorem nested_eq : nested program file bodies =
    ⟨program, (layersOf file bodies).map Layer.frame⟩ := by
  induction bodies with
  | nil => rfl
  | cons body bodies ih =>
    rw [nested, ih]
    rfl

theorem resolve?_nested {reference : Node} : (nested program file bodies).resolve? reference =
    follow program (31 + 1) reference ((layersOf file bodies).map Layer.frame) := by
  rw [nested_eq]
  rfl

/-- **References are resolved lexically.** In the scope inside any bodies of a file, a reference
means an export just where at most thirty-one aliases, each that of the innermost layer that
declares the name at the root, lead to an import of that export, again in the innermost layer that
declares the name. So a body hides the names of its parameters and declarations from a reference in
it, as its root too, unless it makes them aliases; a body that does not declare the root of a
reference makes no difference to it; and a chain of aliases that comes back to a name in the same
layers means nothing. -/
theorem resolve?_lexical (program : Program) (file : SourceFile)
    (bodies : List (List Parameter × List Node)) (reference : Node) :
    (∀ e, (nested program file bodies).resolve? reference = some e ↔
      ∃ n ≤ 31, ∃ reading, Leads AliasStep n (reference, layersOf file bodies) reading ∧
        Imports program reading e) ∧
    (∀ parameters statements x, Layer.Hides ⟨parameters, statements, false⟩ x →
      reference.root? = some x →
      ((nested program file bodies).child parameters statements).resolve? reference = none) ∧
    (∀ parameters statements,
      (∀ x ∈ reference.root?, ¬Layer.Declares ⟨parameters, statements, false⟩ x) →
      ((nested program file bodies).child parameters statements).resolve? reference =
        (nested program file bodies).resolve? reference) ∧
    (∀ n m reading back, Leads AliasStep n (reference, layersOf file bodies) reading →
      Leads AliasStep (m + 1) reading back → Reading.SameRoot back reading →
      (nested program file bodies).resolve? reference = none) := by
  have h := follows_aliasStep program
  refine ⟨fun e => ?_, fun parameters statements x hh hx => ?_, fun parameters statements hd => ?_,
    fun n m reading back hl hc hs => ?_⟩
  · rw [resolve?_nested]
    simp only [← Nat.lt_succ_iff]
    change follow program (31 + 1) (reference, layersOf file bodies).1
      ((reference, layersOf file bodies).2.map Layer.frame) = some e ↔ _
    exact h.eq_some_iff
  · change (nested program file ((parameters, statements) :: bodies)).resolve? reference = none
    rw [resolve?_nested]
    exact h.eq_none_of_stuck (.refl (reference, layersOf file ((parameters, statements) :: bodies)))
      (fun _ => not_aliasStep_of_hides hh hx) fun _ => not_imports_of_hides hh hx
  · change (nested program file ((parameters, statements) :: bodies)).resolve? reference = _
    rw [resolve?_nested, resolve?_nested]
    exact follow_cons_of_not_declares hd
  · -- the reference may have grown on the way back, but its root leads round again
    have hback : ∀ b, Reading.SameRoot b reading →
        ∃ n c, Leads AliasStep (n + 1) b c ∧ Reading.SameRoot c reading := by
      intro b hb
      obtain ⟨later, hlater, hsame⟩ := exists_leads_of_sameRoot hc hb
      exact ⟨m, later, hlater, hsame.1.trans hs.1, hsame.2.trans hs.2⟩
    rw [resolve?_nested]
    exact h.eq_none_of_returns hback hl ⟨rfl, rfl⟩

end Scope

end Polyglot
