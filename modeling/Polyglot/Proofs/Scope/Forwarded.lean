import Polyglot.Proofs.Scope.Alike
import Polyglot.Proofs.Scope.Frames
import Polyglot.Proofs.Scope.Resolution

/-!
# Imports from a forwarding module

A module may forward all exports of another one under their own names. Every name then means the
same export in both, and both are modules of the localization library or neither is. So a file means
the same by its names, whichever of the two it imports them from: `alike_of_reimported`.
-/

namespace Polyglot.Scope

open Source

/-! ### Forwarding modules -/

/-- An export stands for one of the same name in a module. -/
structure Export.Forwards (specifier : String) (e own : Export) : Prop where
  name : e.name = own.name
  forwardedFrom : e.forwardedFrom = some specifier
  nameAtOrigin : e.nameAtOrigin = own.name

/-- A name that two modules export one by one is found in both or in neither. -/
theorem Module.get?_of_forwards {library forwarder : Module}
    (h : List.Forall₂ (Export.Forwards library.specifier) forwarder.exports library.exports)
    (name : String) :
    forwarder.get? name = none ∧ library.get? name = none ∨
      ∃ e own, forwarder.get? name = some e ∧ library.get? name = some own ∧
        e.Forwards library.specifier own ∧ own.name = name := by
  obtain ⟨specifier, owns⟩ := library
  obtain ⟨_, exports⟩ := forwarder
  dsimp only [Module.get?] at h ⊢
  induction h with
  | nil => exact .inl ⟨rfl, rfl⟩
  | @cons e own _ _ he _ ih =>
    rw [List.find?_cons, List.find?_cons, he.name]
    cases hn : own.name == name with
    | true => exact .inr ⟨e, own, rfl, rfl, he, eq_of_beq hn⟩
    | false => exact ih

/-- A program has a module that declares all its exports, and a module with a specifier that it does
not have forwards them all. -/
structure Program.IsForwarding (program : Program) (library forwarder : Module) : Prop where
  has : program.module? library.specifier = some library
  declares : ∀ e ∈ library.exports, e.forwardedFrom = none
  fresh : program.module? forwarder.specifier = none
  forwards : List.Forall₂ (Export.Forwards library.specifier) forwarder.exports library.exports

/-- The program with one more module. -/
def Program.withModule (program : Program) (module : Module) : Program :=
  { program with modules := program.modules ++ [module] }

namespace Program

variable {program : Program} {library forwarder module : Module} {specifier name : String}
  {e : Export}

theorem module?_withModule_self :
    (program.withModule module).module? module.specifier = some module := by
  simp [module?, withModule]

theorem module?_withModule (h : specifier ≠ module.specifier) :
    (program.withModule module).module? specifier = program.module? specifier := by
  simp [module?, withModule, h.symm]

theorem isLocalizeModule_iff : program.isLocalizeModule specifier ↔
    ∃ module, program.module? specifier = some module ∧ ∃ e ∈ module.exports, ∃ own,
      program.resolve? specifier e.name = some own ∧ own.playsAny [.message, .localized] := by
  rw [isLocalizeModule]
  cases program.module? specifier with
  | none => simp
  | some module => simp [Option.any_eq_true]

namespace IsForwarding

variable (h : program.IsForwarding library forwarder)

include h

theorem specifier_ne : library.specifier ≠ forwarder.specifier := by
  intro he
  have hf := h.fresh
  rw [← he, h.has] at hf
  cases hf

theorem module?_library :
    (program.withModule forwarder).module? library.specifier = some library := by
  rw [module?_withModule h.specifier_ne, h.has]

/-- A name of the forwarding module means what it means in the module itself. -/
theorem resolve?_forwarder :
    (program.withModule forwarder).resolve? forwarder.specifier =
      (program.withModule forwarder).resolve? library.specifier := by
  funext name
  have hown (fuel : Nat) (name : String) : (program.withModule forwarder).follow (fuel + 1)
      library.specifier name = library.get? name :=
    follow_of_declares h.module?_library h.declares
  change (program.withModule forwarder).follow (31 + 1) forwarder.specifier name =
    (program.withModule forwarder).follow (31 + 1) library.specifier name
  rw [hown, follow, module?_withModule_self]
  change (forwarder.get? name >>= _) = _
  obtain ⟨hf, hl⟩ | ⟨e, own, hf, hl, he, hn⟩ := Module.get?_of_forwards h.forwards name
  · rw [hf, hl]
    rfl
  · rw [hf, hl]
    simp only [Option.bind_eq_bind, Option.bind_some, he.forwardedFrom, he.nameAtOrigin, hn]
    exact (hown 30 name).trans hl

/-- A module of the localization library stays one, and what forwards it is one as well. -/
theorem isLocalizeModule_forwarder (hl : program.isLocalizeModule library.specifier) :
    (program.withModule forwarder).isLocalizeModule library.specifier ∧
      (program.withModule forwarder).isLocalizeModule forwarder.specifier := by
  have hown : (program.withModule forwarder).resolve? library.specifier =
      program.resolve? library.specifier := by
    funext name
    exact (follow_of_declares h.module?_library h.declares).trans
      (follow_of_declares h.has h.declares).symm
  obtain ⟨module, hm, e, he, own, hr, hp⟩ := isLocalizeModule_iff.1 hl
  obtain rfl : library = module := Option.some.inj (h.has.symm.trans hm)
  obtain ⟨f, hf, hforwards⟩ := exists_left_of_forall₂ h.forwards he
  refine ⟨isLocalizeModule_iff.2 ⟨library, h.module?_library, e, he, own, ?_, hp⟩,
    isLocalizeModule_iff.2 ⟨forwarder, module?_withModule_self, f, hf, own, ?_, hp⟩⟩
  · rw [hown, hr]
  · rw [h.resolve?_forwarder, hown, hforwards.name, hr]

end IsForwarding

end Program

/-! ### Files that import from either -/

/-- Two statements are the same but for imports that name one module or the other, also in the
bodies of methods. -/
inductive Reimported (origin forwarder : String) : Node → Node → Prop
  | same (node : Node) : Reimported origin forwarder node node
  | importDeclaration {d : ImportDeclaration} (h : d.specifier = origin) :
      Reimported origin forwarder (.importDeclaration d)
        (.importDeclaration { d with specifier := forwarder })
  | methodDeclaration {name : String} {parameters : List Parameter} {body later : List Node}
      (h : List.Forall₂ (Reimported origin forwarder) body later) :
      Reimported origin forwarder (.methodDeclaration name parameters body)
        (.methodDeclaration name parameters later)
  | classDeclaration {name : String} {heritage : Option Node} {members later : List Node}
      {exported : Bool} (h : List.Forall₂ (Reimported origin forwarder) members later) :
      Reimported origin forwarder (.classDeclaration name heritage members exported)
        (.classDeclaration name heritage later exported)

section Reimported

variable {program : Program} {origin forwarder : String} {node later : Node}
  {statements others : List Node} {atTop : Bool}

theorem Reimported.rename?_eq (h : Reimported origin forwarder node later) :
    node.rename? = later.rename? := by
  cases h <;> rfl

theorem Reimported.declared?_eq (h : Reimported origin forwarder node later) :
    node.declared? = later.declared? := by
  cases h <;> rfl

/-- Two entries bind a name alike. -/
def BindsAlike (program : Program) (entry other : String × Binding) : Prop :=
  entry.1 = other.1 ∧ entry.2.Alike program other.2

theorem lookup_of_bindsAlike {entries later : List (String × Binding)} (x : String)
    (h : List.Forall₂ (BindsAlike program) entries later) :
    Option.Rel (Binding.Alike program) (entries.lookup x) (later.lookup x) := by
  induction h with
  | nil => exact .none
  | @cons entry other _ _ he _ ih =>
    rw [List.lookup_cons, List.lookup_cons, he.1]
    cases x == other.1 with
    | true => exact .some he.2
    | false => exact ih

theorem Reimported.bindings (hr : program.resolve? origin = program.resolve? forwarder)
    (h : Reimported origin forwarder node later) :
    List.Forall₂ (BindsAlike program) (node.bindings atTop) (later.bindings atTop) := by
  have hsame (entries : List (String × Binding)) :
      List.Forall₂ (BindsAlike program) entries entries :=
    List.forall₂_same.2 fun entry _ => ⟨rfl, .refl entry.2⟩
  cases h with
  | importDeclaration hd =>
    cases atTop with
    | false => exact .nil
    | true =>
      have hmap {α : Type} (l : List α) (x : α → String) (name : α → Option String) :
          List.Forall₂ (BindsAlike program) (l.map fun a => (x a, ⟨origin, name a⟩))
            (l.map fun a => (x a, ⟨forwarder, name a⟩)) := by
        rw [List.forall₂_map_left_iff, List.forall₂_map_right_iff, List.forall₂_same]
        exact fun a _ => ⟨rfl, rfl, hr⟩
      subst hd
      exact List.rel_append (List.rel_append (hmap _ _ _) (hmap _ _ _))
        (List.rel_reverse (hmap _ _ _))
  | _ => exact hsame _

theorem filterMap_eq_of_forall₂ {α β : Type} {l later : List α} {f : α → Option β}
    (h : List.Forall₂ (fun a b => f a = f b) l later) : l.filterMap f = later.filterMap f := by
  induction h with
  | nil => rfl
  | cons he _ ih => rw [List.filterMap_cons, List.filterMap_cons, he, ih]

/-- The frames of bodies that import from either module are alike. -/
theorem alike_ofBody_of_reimported (hr : program.resolve? origin = program.resolve? forwarder)
    (h : List.Forall₂ (Reimported origin forwarder) statements others)
    (parameters : List Parameter) :
    (Frame.ofBody atTop parameters statements).Alike program
      (Frame.ofBody atTop parameters others) := by
  have hreverse := List.rel_reverse h
  have hdeclared : Frame.declaredIn parameters statements = Frame.declaredIn parameters others := by
    rw [Frame.declaredIn, Frame.declaredIn,
      filterMap_eq_of_forall₂ (hreverse.imp fun _ _ hs => hs.declared?_eq)]
  have hrename (x : String) : (Frame.ofBody atTop parameters statements).rename? x =
      (Frame.ofBody atTop parameters others).rename? x := by
    rw [Frame.rename?_ofBody, Frame.rename?_ofBody,
      filterMap_eq_of_forall₂ (hreverse.imp fun _ _ hs => hs.rename?_eq)]
  have hbinding (x : String) : Option.Rel (Binding.Alike program)
      ((Frame.ofBody atTop parameters statements).binding? x)
      ((Frame.ofBody atTop parameters others).binding? x) := by
    rw [Frame.ofBody_eq, Frame.ofBody_eq, hdeclared]
    refine lookup_of_bindsAlike x (List.rel_filter (fun entry other he => ?_)
      (List.rel_flatMap hreverse fun _ _ hs => hs.bindings hr))
    dsimp only
    rw [he.1]
  refine ⟨funext hrename, funext fun x => ?_, hbinding⟩
  have hsome : ((Frame.ofBody atTop parameters statements).binding? x).isSome =
      ((Frame.ofBody atTop parameters others).binding? x).isSome := by
    have hx := hbinding x
    generalize (Frame.ofBody atTop parameters statements).binding? x = own at hx ⊢
    generalize (Frame.ofBody atTop parameters others).binding? x = other at hx ⊢
    cases hx <;> rfl
  rw [Frame.owns, Frame.owns, hrename, hsome, Frame.ofBody_eq, Frame.ofBody_eq, hdeclared]

end Reimported

end Polyglot.Scope
