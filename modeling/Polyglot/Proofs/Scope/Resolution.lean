import Polyglot.Localize.Transform
import Mathlib.Tactic.Common

/-!
# What references mean

Only a name, or a member of a name, can mean an export. An export that asks for messages or
localizes a base class is only reached through a module of the localization library.
-/

namespace Polyglot.Scope

open Source

variable {scope : Scope} {reference : Node} {e : Export} {role : Role}

/-- A name, or a member of a name. -/
def isReference : Node → Bool
  | .identifier _ | .propertyAccess (.identifier _) _ => true
  | _ => false

theorem isReference_of_follow {program : Program} {fuel : Nat} {frames : List Frame}
    (h : follow program fuel reference frames = some e) : isReference reference := by
  unfold follow at h
  split at h <;> first | rfl | cases h

theorem isReference_of_resolve? (h : scope.resolve? reference = some e) : isReference reference :=
  isReference_of_follow h

theorem mem_of_owner {x : String} {frames outer : List Frame} {frame : Frame}
    (h : owner x frames = frame :: outer) : ∀ f ∈ frame :: outer, f ∈ frames := by
  intro f hf
  exact (List.dropWhile_sublist _).subset (h ▸ hf : f ∈ owner x frames)

/-- A reference means an export of a module that some frame imports from. -/
theorem exists_binding_of_follow {program : Program} {fuel : Nat} {frames : List Frame}
    (h : follow program fuel reference frames = some e) :
    ∃ frame ∈ frames, ∃ x binding name, frame.binding? x = some binding ∧
      program.resolve? binding.module name = some e := by
  fun_induction follow program fuel reference frames with
  | case3 _ _ _ _ _ ho _ _ ih | case7 _ _ _ _ _ _ ho _ _ ih =>
    obtain ⟨frame, hf, hb⟩ := ih h
    exact ⟨frame, mem_of_owner ho frame hf, hb⟩
  | case4 _ x _ frame _ ho module name hb =>
    exact ⟨frame, mem_of_owner ho frame List.mem_cons_self, x, _, name, hb, h⟩
  | case8 _ x name _ frame _ ho module hb =>
    exact ⟨frame, mem_of_owner ho frame List.mem_cons_self, x, _, name, hb, h⟩
  | _ => cases h

/-- A module that declares all its exports answers for them itself. -/
theorem Program.follow_of_declares {program : Program} {module : Module} {specifier name : String}
    {fuel : Nat} (hm : program.module? specifier = some module)
    (hd : ∀ e ∈ module.exports, e.forwardedFrom = none) :
    program.follow (fuel + 1) specifier name = module.get? name := by
  rw [follow, hm]
  change (module.get? name >>= _) = _
  cases he : module.get? name with
  | none => rfl
  | some e =>
    have hown := hd e (List.mem_of_find?_eq_some he)
    simp only [Option.bind_eq_bind, Option.bind_some, hown]

/-- A module with an export that asks for messages or localizes a base class is a module of the
localization library. -/
theorem isLocalizeModule_of_resolve? {program : Program} {module name : String}
    (h : program.resolve? module name = some e) (he : e.playsAny [.message, .localized]) :
    program.isLocalizeModule module := by
  have hf := h
  rw [Program.resolve?, Program.chainLimit, Program.follow] at h
  obtain ⟨m, hm, h⟩ := Option.bind_eq_some_iff.1 h
  obtain ⟨own, ho, -⟩ := Option.bind_eq_some_iff.1 h
  have hn : own.name = name :=
    eq_of_beq (List.find?_some (p := fun e : Export => e.name == name) ho)
  rw [Program.isLocalizeModule, hm]
  refine List.any_eq_true.2 ⟨own, List.mem_of_find?_eq_some ho, ?_⟩
  rw [hn, hf]
  exact he

theorem plays_iff : scope.plays role reference ↔
    ∃ e, scope.resolve? reference = some e ∧ e.plays role :=
  Option.any_eq_true ..

theorem isReference_of_plays (h : scope.plays role reference) : isReference reference := by
  obtain ⟨e, he, -⟩ := plays_iff.1 h
  exact isReference_of_resolve? he

end Polyglot.Scope

namespace Polyglot.Localize

open Source Scope

variable {scope : Scope} {callee reference : Node} {role : Role}

theorem isReference_of_statusEvent? (h : (statusEvent? scope reference).isSome) :
    isReference reference := by
  obtain ⟨event, h⟩ := Option.isSome_iff_exists.1 h
  obtain ⟨e, he, -⟩ := Option.bind_eq_some_iff.1 h
  exact isReference_of_resolve? he

theorem plays_of_calleeRole? (h : calleeRole? scope callee = some role) :
    scope.plays role callee :=
  List.find?_some (p := fun role => scope.plays role callee) h

/-- A callee that asks for messages plays no other part. -/
theorem calleeRole?_eq_message_iff :
    calleeRole? scope callee = some .message ↔ scope.plays .message callee :=
  ⟨plays_of_calleeRole?, fun h => List.find?_cons_of_pos h⟩

theorem calleeRole?_eq_none_iff :
    calleeRole? scope callee = none ↔ ∀ role, ¬scope.plays role callee := by
  rw [calleeRole?, List.find?_eq_none]
  refine ⟨fun h role => h role ?_, fun h role _ => h role⟩
  cases role <;> decide

end Polyglot.Localize
