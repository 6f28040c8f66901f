import Polyglot.Proofs.Scope.Frames

/-!
# Bound names

A name is bound in a scope if some frame of the scope gives it a meaning. A body in between changes
what a name means only if the body owns the name.
-/

namespace Polyglot.Scope

open Source

/-- Some frame of the scope gives the name a meaning. -/
def binds (scope : Scope) (x : String) : Bool :=
  scope.frames.any (·.owns x)

/-- What the name means comes from the localization library: it is imported from a module of the
library, or it stands for an export that plays a part. -/
def IsLibraryName (scope : Scope) (x : String) : Prop :=
  (∃ binding, scope.binding? x = some binding ∧ scope.program.isLocalizeModule binding.module) ∨
    (∃ frame ∈ (owner x scope.frames).head?, (frame.rename? x).isSome) ∧
      ∃ e, scope.resolve? (.identifier x) = some e ∧ e.playsAny Role.all

/-- The name is bound, and not to the library. -/
def IsOwnName (scope : Scope) (x : String) : Prop :=
  scope.binds x ∧ ¬scope.IsLibraryName x

variable {scope : Scope} {program : Program} {frame : Frame} {frames : List Frame} {x : String}
  {parameters : List Parameter} {statements : List Node}

theorem owner_cons_of_owns (h : frame.owns x) : owner x (frame :: frames) = frame :: frames :=
  List.dropWhile_cons_of_neg (by simp [h])

theorem owner_cons_of_not_owns (h : ¬frame.owns x) : owner x (frame :: frames) = owner x frames :=
  List.dropWhile_cons_of_pos (by simp [h])

theorem binds_child_iff : (scope.child parameters statements).binds x ↔
    (Frame.ofBody false parameters statements).owns x ∨ scope.binds x := by
  simp [binds, child]

/-- What a name means in a body that does not own it is what it means outside. -/
theorem isLibraryName_child_iff (h : ¬(Frame.ofBody false parameters statements).owns x) :
    (scope.child parameters statements).IsLibraryName x ↔ scope.IsLibraryName x := by
  have ho : owner x (scope.child parameters statements).frames = owner x scope.frames :=
    owner_cons_of_not_owns h
  have hb : (scope.child parameters statements).binding? x = scope.binding? x := by
    rw [binding?, binding?, ho]
  have hr : (scope.child parameters statements).resolve? (.identifier x) =
      scope.resolve? (.identifier x) := by
    rw [resolve?, resolve?, Program.chainLimit, follow, follow, ho]
    rfl
  rw [IsLibraryName, IsLibraryName, hb, hr, ho]
  rfl

/-- A function owns its parameters. -/
theorem owns_ofParameters_iff {atTop : Bool} :
    (Frame.ofBody atTop parameters []).owns x ↔ ∃ p ∈ parameters, p.name = x := by
  simp [Frame.owns_ofBody_iff, Frame.mem_declaredIn]

theorem isOwnName_of_child (hp : ∀ p ∈ parameters, p.name ≠ x)
    (h : (scope.child parameters []).IsOwnName x) : scope.IsOwnName x := by
  have hf : ¬(Frame.ofBody false parameters []).owns x := by
    rw [owns_ofParameters_iff]
    rintro ⟨p, hm, hx⟩
    exact hp p hm hx
  refine ⟨(binds_child_iff.1 h.1).resolve_left hf, fun hl => h.2 ?_⟩
  exact (isLibraryName_child_iff hf).2 hl

end Polyglot.Scope
