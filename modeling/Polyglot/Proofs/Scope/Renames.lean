import Polyglot.Proofs.Scope.Bound
import Polyglot.Proofs.Scope.Resolution
import Polyglot.Proofs.Scope.Stands

/-!
# Names that stand for references

A constant that is set to a reference is another name for it. In a file, what such a name of the
innermost body stands for is written in that body, so it stands in the same scope
(`renamesStand_of_stands`), and the name means the export that it means
(`exists_rename_of_resolve?`).
-/

namespace Polyglot.Scope

open Source

variable {program : Program} {scope inner outer : Scope} {node place target root : Node}
  {frames : List Frame} {e : Export} {x : String}

/-- More links of a chain of names lead to the same export. -/
theorem follow_succ {fuel : Nat} {reference : Node}
    (h : follow program fuel reference frames = some e) :
    follow program (fuel + 1) reference frames = some e := by
  fun_induction follow program fuel reference frames with
  | case1 | case2 | case5 | case6 | case9 | case10 => cases h
  | case3 frames fuel x frame outer ho target ht ih =>
    rw [follow, ho]
    simp only [ht]
    exact ih h
  | case4 frames fuel x frame outer ho module name hb ht =>
    rw [follow, ho]
    simp only [ht, hb]
    exact h
  | case7 frames fuel base member frame outer ho target ht ih =>
    rw [follow, ho]
    simp only [ht]
    exact ih h
  | case8 frames fuel base member frame outer ho module hb ht =>
    rw [follow, ho]
    simp only [ht, hb]
    exact h

theorem Frame.eq_of_reference? {keyword : String} {initializer : Option Node}
    (h : reference? keyword initializer = some target) : initializer = some target := by
  unfold reference? at h
  split at h
  · split_ifs at h
    rw [Option.some.inj h]
  · split_ifs at h
    rw [Option.some.inj h]
  · cases h

theorem mem_children_of_rename? (h : node.rename? = some (x, target)) : target ∈ node.children := by
  cases node with
  | variableDeclaration name initializer keyword exported =>
    obtain ⟨reference, hr, heq⟩ := Option.map_eq_some_iff.1 h
    obtain rfl := congrArg Prod.snd heq
    exact Option.mem_toList.2 (Frame.eq_of_reference? hr)
  | _ => cases h

/-- Every name that stands for a reference in the innermost frame does so for one that stands in
that scope of a tree. -/
def RenamesStand (outer : Scope) (root : Node) (scope : Scope) : Prop :=
  ∀ frame ∈ scope.frames.head?, ∀ x target, frame.rename? x = some target →
    Stands scope target outer root

/-- The references that names of a body stand for stand in its scope. -/
theorem renamesStand_ofBody {atTop : Bool} {parameters : List Parameter} {statements : List Node}
    {frames : List Frame}
    (h : ∀ statement ∈ statements, Stands ⟨program, .ofBody atTop parameters statements :: frames⟩
      statement outer root) :
    RenamesStand outer root ⟨program, .ofBody atTop parameters statements :: frames⟩ := by
  intro frame hf x target hx
  obtain rfl := Option.some.inj hf
  obtain ⟨statement, hm, hr⟩ := Frame.mem_of_rename?_ofBody hx
  refine (Stands.inside (mem_children_of_rename? hr) ?_).trans (h statement hm)
  cases statement with
  | variableDeclaration => exact .here
  | _ => cases hr

theorem renamesStand_of_stands (h : Stands inner place scope node)
    (hs : Stands scope node outer root) (hr : RenamesStand outer root scope) :
    RenamesStand outer root inner := by
  induction h with
  | here => exact hr
  | @inside scope node child hc _ ih =>
    -- only a method has a frame of its own with names that stand for references
    have hchild (child : Node) (hc : child ∈ node.children) :
        Stands (scope.inside node) child outer root := (Stands.inside hc .here).trans hs
    refine ih (hchild child hc) ?_
    cases node with
    | methodDeclaration name parameters body => exact renamesStand_ofBody hchild
    | arrowFunction parameters body =>
      exact renamesStand_ofBody (List.forall_mem_nil _)
    | _ => exact hr

theorem renamesStand_ofFile {file : SourceFile}
    (h : Stands inner place (.ofFile program file) file.toNode) :
    RenamesStand (.ofFile program file) file.toNode inner :=
  renamesStand_of_stands h .here (renamesStand_ofBody fun _ hm => .inside hm .here)

/-- A name that stands for a reference in the innermost frame means what the reference means. -/
theorem exists_rename_of_resolve? (hx : scope.isRename x)
    (h : scope.resolve? (.identifier x) = some e) :
    ∃ frame ∈ scope.frames.head?, ∃ target, frame.rename? x = some target ∧
      scope.resolve? target = some e := by
  obtain ⟨program, frames⟩ := scope
  cases frames with
  | nil => cases hx
  | cons frame frames =>
    obtain ⟨target, ht⟩ := Option.isSome_iff_exists.1 hx
    refine ⟨frame, rfl, target, ht, follow_succ ?_⟩
    have ho : owner x (frame :: frames) = frame :: frames :=
      owner_cons_of_owns (by simp [Frame.owns, ht])
    change follow program (31 + 1) (.identifier x) (frame :: frames) = some e at h
    rw [follow, ho] at h
    simp only [ht] at h
    exact h

end Polyglot.Scope
