import Polyglot.Proofs.Scope.Stands

/-!
# Scopes that answer alike

Two scopes are alike if they give the same names a meaning, by the same declarations or by imports
of modules with the same exports. Then every reference means the same export in both, and they stay
alike inside functions and methods.
-/

namespace Polyglot.Scope

open Source

/-- Two imports give the same export of modules that have the same exports. -/
structure Binding.Alike (program : Program) (binding other : Binding) : Prop where
  exportName : binding.exportName = other.exportName
  resolve? : program.resolve? binding.module = program.resolve? other.module

/-- Two frames give the same names a meaning, and alike ones. -/
structure Frame.Alike (program : Program) (frame other : Frame) : Prop where
  rename? : frame.rename? = other.rename?
  owns : frame.owns = other.owns
  binding? : ∀ x, Option.Rel (Binding.Alike program) (frame.binding? x) (other.binding? x)

/-- Two scopes of a program have alike frames, one by one. -/
structure Alike (scope other : Scope) : Prop where
  program : scope.program = other.program
  frames : List.Forall₂ (Frame.Alike scope.program) scope.frames other.frames

variable {program : Program} {frame later : Frame} {frames outer : List Frame} {scope other : Scope}
  {x : String} {node : Node}

theorem Binding.Alike.refl (binding : Binding) : binding.Alike program binding :=
  ⟨rfl, rfl⟩

theorem Frame.Alike.refl (frame : Frame) : frame.Alike program frame := by
  refine ⟨rfl, rfl, fun x => ?_⟩
  cases frame.binding? x with
  | none => exact .none
  | some binding => exact .some (.refl binding)

theorem Alike.refl (scope : Scope) : scope.Alike scope :=
  ⟨rfl, List.forall₂_same.2 fun frame _ => .refl frame⟩

/-- A name that two alike frames bind is imported under the same name from modules with the same
exports. -/
theorem Frame.Alike.cases_binding? (h : frame.Alike program later) (x : String) :
    frame.binding? x = none ∧ later.binding? x = none ∨
      ∃ module origin exportName, frame.binding? x = some ⟨module, exportName⟩ ∧
        later.binding? x = some ⟨origin, exportName⟩ ∧
          program.resolve? module = program.resolve? origin := by
  have hb := h.binding? x
  generalize frame.binding? x = given at hb ⊢
  generalize later.binding? x = other at hb ⊢
  cases hb with
  | none => exact .inl ⟨rfl, rfl⟩
  | @some binding other hb =>
    refine .inr ⟨binding.module, other.module, binding.exportName, rfl, ?_, hb.resolve?⟩
    rw [hb.exportName]

/-- The frames from the one that gives a name its meaning outward are alike. -/
theorem alike_owner (h : List.Forall₂ (Frame.Alike program) frames outer) (x : String) :
    owner x frames = [] ∧ owner x outer = [] ∨
      ∃ frame rest later others, owner x frames = frame :: rest ∧ owner x outer = later :: others ∧
        frame.Alike program later ∧ List.Forall₂ (Frame.Alike program) rest others := by
  induction h with
  | nil => exact .inl ⟨rfl, rfl⟩
  | @cons frame later frames outer hf h ih =>
    by_cases ho : frame.owns x
    · have hl : later.owns x := hf.owns ▸ ho
      refine .inr ⟨frame, frames, later, outer, ?_, ?_, hf, h⟩
      · exact List.dropWhile_cons_of_neg (by simp [ho])
      · exact List.dropWhile_cons_of_neg (by simp [hl])
    · have hl : ¬later.owns x := hf.owns ▸ ho
      rw [owner, owner, List.dropWhile_cons_of_pos (by simp [ho]),
        List.dropWhile_cons_of_pos (by simp [hl])]
      exact ih

/-- What a reference means is followed through alike frames in the same way. -/
theorem follow_eq_of_alike {fuel : Nat} {reference : Node}
    (h : List.Forall₂ (Frame.Alike program) frames outer) :
    follow program fuel reference frames = follow program fuel reference outer := by
  induction fuel generalizing reference frames outer with
  | zero => rw [follow, follow]
  | succ fuel ih =>
    cases reference with
    | identifier x =>
      rw [follow, follow]
      obtain ⟨hx, hy⟩ | ⟨frame, rest, later, others, hx, hy, hf, hrest⟩ := alike_owner h x
      · rw [hx, hy]
      · simp only [hx, hy, hf.rename?]
        cases later.rename? x with
        | some target => exact ih (.cons hf hrest)
        | none =>
          obtain ⟨hb, hc⟩ | ⟨module, origin, exportName, hb, hc, hr⟩ := hf.cases_binding? x
          · rw [hb, hc]
          · rw [hb, hc]
            cases exportName with
            | none => rfl
            | some name => exact congrFun hr name
    | propertyAccess expression member =>
      cases expression with
      | identifier base =>
        rw [follow, follow]
        obtain ⟨hx, hy⟩ | ⟨frame, rest, later, others, hx, hy, hf, hrest⟩ := alike_owner h base
        · rw [hx, hy]
        · simp only [hx, hy, hf.rename?]
          cases later.rename? base with
          | some target => exact ih (.cons hf hrest)
          | none =>
            obtain ⟨hb, hc⟩ | ⟨module, origin, exportName, hb, hc, hr⟩ := hf.cases_binding? base
            · rw [hb, hc]
            · rw [hb, hc]
              cases exportName with
              | none => exact congrFun hr member
              | some name => rfl
      | _ => rfl
    | _ => rfl

namespace Alike

theorem resolve?_eq (h : scope.Alike other) (reference : Node) :
    scope.resolve? reference = other.resolve? reference := by
  rw [resolve?, resolve?, ← h.program]
  exact follow_eq_of_alike h.frames

theorem isRename_eq (h : scope.Alike other) (x : String) :
    scope.isRename x = other.isRename x := by
  rw [isRename, isRename]
  obtain ⟨program, frames⟩ := scope
  obtain ⟨_, outer⟩ := other
  cases h.frames with
  | nil => rfl
  | cons hf => simp [hf.rename?]

theorem importsLocalizeModule_eq (h : scope.Alike other) (d : ImportDeclaration) :
    scope.importsLocalizeModule d = other.importsLocalizeModule d := by
  rw [importsLocalizeModule, importsLocalizeModule, h.program]

theorem child (h : scope.Alike other) (parameters : List Parameter) (statements : List Node) :
    (scope.child parameters statements).Alike (other.child parameters statements) :=
  ⟨h.program, .cons (.refl _) h.frames⟩

theorem inside (h : scope.Alike other) (node : Node) :
    (scope.inside node).Alike (other.inside node) := by
  cases node with
  | methodDeclaration | arrowFunction => exact h.child _ _
  | _ => exact h

end Alike

end Polyglot.Scope
