import Polyglot.Proofs.Scope.Forwarded
import Polyglot.Proofs.Searches

/-!
# What names of modules stand for

An export may be forwarded from another module, and that one from a third. The name of a module
stands for the export that is declared where the chain of forwards ends, if it ends after at most
thirty-one of them: `resolve?_leads`. Where a module or a name is missing, where the chain comes
back to where it was and where it is longer, the name stands for nothing.
-/

namespace Polyglot.Scope

/-- The name that a forwarded export has in the module it comes from: the one that is given, or its
own if none is given or an empty one. -/
inductive Export.IsNamedAtOrigin (e : Export) : String → Prop
  | given {name : String} (h : e.forwardedName = some name) (hn : name ≠ "") :
      IsNamedAtOrigin e name
  | own (h : ∀ name ∈ e.forwardedName, name = "") : IsNamedAtOrigin e e.name

/-- The export of a name in a module's table, the first if there were several. -/
def Module.Has (module : Module) (name : String) (e : Export) : Prop :=
  IsFirst (·.name = name) module.exports e

namespace Program

/-- The module of a specifier, the last of those declared with it. -/
def Has (program : Program) (specifier : String) (module : Module) : Prop :=
  IsLast (·.specifier = specifier) program.modules module

/-- An export stands in a program under a specifier and a name. -/
def Exports (program : Program) (place : String × String) (e : Export) : Prop :=
  ∃ module, program.Has place.1 module ∧ module.Has place.2 e

/-- The export of a place is forwarded from another place. -/
def Forwards (program : Program) (place origin : String × String) : Prop :=
  ∃ e, program.Exports place e ∧ e.forwardedFrom = some origin.1 ∧ e.IsNamedAtOrigin origin.2

/-- The export of a place is declared there. -/
def Declares (program : Program) (place : String × String) (e : Export) : Prop :=
  program.Exports place e ∧ e.forwardedFrom = none

variable {program : Program} {module : Module} {specifier name : String}
  {place origin : String × String} {e : Export}

theorem isNamedAtOrigin_iff : e.IsNamedAtOrigin name ↔ name = e.nameAtOrigin := by
  rw [Export.nameAtOrigin]
  constructor
  · rintro (⟨h, hn⟩ | h)
    · simp [h, hn, Option.filter_some]
    · cases hf : e.forwardedName with
      | none => rfl
      | some given => simp [h given hf, Option.filter_some]
  · rintro rfl
    cases hf : e.forwardedName with
    | none => exact .own (by simp [hf])
    | some given =>
      by_cases hg : given = ""
      · subst hg
        exact .own (by simp [hf])
      · simpa [hg, Option.filter_some] using Export.IsNamedAtOrigin.given hf hg

theorem get?_eq_some_iff : module.get? name = some e ↔ module.Has name e := by
  simp [Module.get?, Module.Has, find?_eq_some_iff_isFirst]

theorem module?_eq_some_iff : program.module? specifier = some module ↔
    program.Has specifier module := by
  simp [module?, Has, find?_reverse_eq_some_iff]

theorem exports_iff : program.Exports place e ↔
    (program.module? place.1).bind (·.get? place.2) = some e := by
  simp only [Exports, Option.bind_eq_some_iff, module?_eq_some_iff, get?_eq_some_iff]

/-- Following an export looks at its place first. -/
theorem follow_succ_eq {fuel : Nat} : program.follow (fuel + 1) place.1 place.2 =
    ((program.module? place.1).bind (·.get? place.2)).bind fun e =>
      match e.forwardedFrom with
      | none => some e
      | some origin => program.follow fuel origin e.nameAtOrigin :=
  (Option.bind_assoc _ _ _).symm

/-- What a name stands for is searched along the chain of forwards. -/
theorem follows_forwards (program : Program) :
    Follows program.Forwards program.Declares fun fuel place =>
      program.follow fuel place.1 place.2 where
  zero _ := rfl
  next {fuel place origin} h := by
    obtain ⟨e, he, hf, hn⟩ := h
    rw [follow_succ_eq, exports_iff.1 he, Option.bind_some, hf, isNamedAtOrigin_iff.1 hn]
  answer {fuel place e} h := by
    rw [follow_succ_eq, exports_iff.1 h.1, Option.bind_some, h.2]
  cases {fuel place e} h := by
    rw [follow_succ_eq] at h
    obtain ⟨own, ho, h⟩ := Option.bind_eq_some_iff.1 h
    cases hf : own.forwardedFrom with
    | none =>
      rw [hf] at h
      cases h
      exact .inl ⟨exports_iff.2 ho, hf⟩
    | some origin =>
      exact .inr ⟨(origin, own.nameAtOrigin), own, exports_iff.2 ho, hf, isNamedAtOrigin_iff.2 rfl⟩

theorem resolve?_eq_some_iff : program.resolve? specifier name = some e ↔
    ∃ n ≤ 31, ∃ place, Leads program.Forwards n (specifier, name) place ∧
      program.Declares place e := by
  simp only [← Nat.lt_succ_iff]
  change program.follow (31 + 1) (specifier, name).1 (specifier, name).2 = some e ↔ _
  exact (follows_forwards program).eq_some_iff

/-- **The name of a module stands for the export at the end of its chain of forwards.** It stands
for an export just where at most thirty-one forwards lead from it to where that export is declared.
It stands for nothing if they lead to a module that the program does not have or to a name that is
not in its table, if they lead to a place from which they come back to it, and if there are more of
them. So a module belongs to the localization library just where one of its exports stands in this
way for one that asks for messages or localizes a base class. -/
theorem resolve?_leads (program : Program) (specifier name : String) :
    (∀ e, program.resolve? specifier name = some e ↔
      ∃ n ≤ 31, ∃ place, Leads program.Forwards n (specifier, name) place ∧
        program.Declares place e) ∧
    (∀ n place, Leads program.Forwards n (specifier, name) place →
      (∀ module, program.Has place.1 module → ∀ e ∈ module.exports, e.name ≠ place.2) →
        program.resolve? specifier name = none) ∧
    (∀ n place m, Leads program.Forwards n (specifier, name) place →
      Leads program.Forwards (m + 1) place place → program.resolve? specifier name = none) ∧
    (∀ n place, Leads program.Forwards n (specifier, name) place → 31 < n →
      program.resolve? specifier name = none) ∧
    (program.isLocalizeModule specifier ↔ ∃ module, program.Has specifier module ∧
      ∃ e ∈ module.exports, ∃ n ≤ 31, ∃ place own,
        Leads program.Forwards n (specifier, e.name) place ∧ program.Declares place own ∧
          (own.plays .message ∨ own.plays .localized)) := by
  have h := follows_forwards program
  refine ⟨fun e => resolve?_eq_some_iff, fun n place hl hm => ?_, fun n place m hl hc => ?_,
    fun n place hl hn => ?_, ?_⟩
  · have hnone (e : Export) : ¬program.Exports place e := by
      rintro ⟨module, hp, he⟩
      exact hm module hp e he.mem he.1
    exact h.eq_none_of_stuck hl (fun _ ⟨e, he, _⟩ => hnone e he) fun e he => hnone e he.1
  · exact h.eq_none_of_cycle hl hc
  · exact h.eq_none_of_le hl hn
  · rw [isLocalizeModule_iff]
    simp only [module?_eq_some_iff, resolve?_eq_some_iff, Export.playsAny, List.any_cons,
      List.any_nil, Bool.or_false, Bool.or_eq_true]
    constructor
    · rintro ⟨module, hm, e, he, own, ⟨n, hn, place, hl, hd⟩, hp⟩
      exact ⟨module, hm, e, he, n, hn, place, own, hl, hd, hp⟩
    · rintro ⟨module, hm, e, he, n, hn, place, own, hl, hd, hp⟩
      exact ⟨module, hm, e, he, own, ⟨n, hn, place, hl, hd⟩, hp⟩

/-- Modules that forward a name from one to the next, up to one that declares it. -/
def relay (forwards : Nat) : Program where
  files := []
  modules := (List.range (forwards + 1)).map fun i =>
    { specifier := String.ofList (List.replicate i 'm')
      exports := [{
        name := "msg"
        forwardedFrom :=
          if i < forwards then some (String.ofList (List.replicate (i + 1) 'm')) else none }] }

example : ((relay 31).resolve? "" "msg").isSome ∧ (relay 32).resolve? "" "msg" = none := by
  decide +kernel

end Program

end Polyglot.Scope
