import Polyglot.Files.Path
import Mathlib.Data.List.Basic
import Mathlib.Tactic.Common

/-!
# Names in paths

A text without a slash that is neither empty nor a single dot is one name: the path that it spells
is that name behind no anchor. No name of a path that was read holds a slash, so that rows of such
names which are spelled alike are equal: `names_eq_of_text_eq`. A proper name in a directory is a
child of it, and children of one directory that are spelled alike have one name.
-/

namespace Polyglot.Files

theorem Anchor.ofChars_eq_here {text : List Char} (h : '/' ∉ text) : ofChars text = here := by
  cases text with
  | nil => rfl
  | cons c rest =>
    have hc : c ≠ '/' := fun hc => h (hc ▸ List.mem_cons_self)
    unfold ofChars
    split
    · next heq => exact absurd (List.cons.inj heq).1 hc
    · next heq => exact absurd (List.cons.inj heq).1 hc
    · next heq => exact absurd (List.cons.inj heq).1 hc
    · rfl

/-- No part of a text that is split holds what it is split at. -/
theorem not_mem_of_mem_splitOn {mark : Char} {text part : List Char}
    (h : part ∈ text.splitOn mark) : mark ∉ part := by
  induction text generalizing part with
  | nil => simp_all
  | cons c text ih =>
    rw [List.splitOn_eq_splitOnP] at h ih
    rw [List.splitOnP_cons_eq_if_modifyHead] at h
    split at h
    · rcases List.mem_cons.1 h with rfl | h
      · exact List.not_mem_nil
      · exact ih h
    · next hc =>
      obtain ⟨next, others, hnext⟩ :=
        List.exists_cons_of_ne_nil (List.splitOnP_ne_nil (· == mark) text)
      rw [hnext] at h ih
      rcases List.mem_cons.1 h with rfl | h
      · rw [List.mem_cons, not_or]
        exact ⟨fun hm => hc (beq_iff_eq.2 hm.symm), ih List.mem_cons_self⟩
      · exact ih (List.mem_cons_of_mem next h)

namespace Path

variable {anchor : Anchor} {front names others : List String}

/-- A name by itself spells the path of that name. -/
theorem parse_of_isName {text : String} (hs : '/' ∉ text.toList) (hn : isName text.toList) :
    parse text = ⟨.here, [text]⟩ := by
  have hone : text.toList.splitOn '/' = [text.toList] := by
    rw [List.splitOn_eq_splitOnP]
    refine List.splitOnP_eq_singleton fun c hc => beq_eq_false_iff_ne.2 ?_
    rintro rfl
    exact hs hc
  simp [parse, hone, hn, Anchor.ofChars_eq_here hs]

theorem slash_not_mem_of_mem_parse {text name : String} (h : name ∈ (parse text).names) :
    '/' ∉ name.toList := by
  obtain ⟨part, hp, rfl⟩ := List.mem_map.1 h
  rw [String.toList_ofList]
  exact not_mem_of_mem_splitOn (List.mem_filter.1 hp).1

/-! ### Spelling -/

theorem text_of_ne_nil (hn : names ≠ []) :
    text ⟨anchor, names⟩ = anchor.text ++ "/".intercalate names := by
  cases names with
  | nil => exact absurd rfl hn
  | cons => cases anchor <;> rfl

theorem intercalate_inj (hn : names ≠ []) (ho : others ≠ [])
    (hns : ∀ name ∈ names, '/' ∉ name.toList) (hos : ∀ name ∈ others, '/' ∉ name.toList)
    (h : "/".intercalate names = "/".intercalate others) : names = others := by
  have hsplit {names : List String} (hn : names ≠ []) (hs : ∀ name ∈ names, '/' ∉ name.toList) :
      ("/".intercalate names).toList.splitOn '/' = names.map String.toList := by
    rw [String.toList_intercalate]
    refine List.splitOn_intercalate '/' (fun part hp => ?_) (by simpa using hn)
    obtain ⟨name, hm, rfl⟩ := List.mem_map.1 hp
    exact hs name hm
  have hmap : names.map String.toList = others.map String.toList := by
    rw [← hsplit hn hns, ← hsplit ho hos, h]
  exact List.map_injective_iff.2 (fun _ _ => String.toList_injective) hmap

/-- Paths with the same front are spelled alike only if they are the same. -/
theorem names_eq_of_text_eq (hn : names ≠ []) (ho : others ≠ [])
    (hns : ∀ name ∈ names, '/' ∉ name.toList) (hos : ∀ name ∈ others, '/' ∉ name.toList)
    (h : text ⟨anchor, front ++ names⟩ = text ⟨anchor, front ++ others⟩) : names = others := by
  rw [text_of_ne_nil (List.append_ne_nil_of_right_ne_nil front hn),
    text_of_ne_nil (List.append_ne_nil_of_right_ne_nil front ho), String.append_right_inj] at h
  refine intercalate_inj hn ho hns hos ?_
  by_cases hf : front = []
  · simpa [hf] using h
  · rwa [String.intercalate_append_of_ne_nil hf hn, String.intercalate_append_of_ne_nil hf ho,
      String.append_right_inj] at h

/-! ### Children -/

/-- A text is one name, which neither stands for a directory itself nor leads out of it. -/
def IsProperName (name : String) : Prop :=
  '/' ∉ name.toList ∧ name ∉ ["", ".", ".."]

/-- A path is directly below a directory: the directory and one proper name more. -/
def IsChildOf (path directory : Path) : Prop :=
  ∃ name, path = directory.child name ∧ IsProperName name

variable {directory : Path} {name other : String}

theorem IsProperName.append (h : IsProperName name) (hs : '/' ∉ other.toList) :
    IsProperName (name ++ other) := by
  obtain ⟨hslash, hname⟩ := h
  simp only [List.mem_cons, List.not_mem_nil, or_false, not_or] at hname
  obtain ⟨hempty, hdot, hdots⟩ := hname
  refine ⟨by simp [hslash, hs], ?_⟩
  simp only [List.mem_cons, List.not_mem_nil, or_false, not_or,
    ← String.toList_inj] at hempty hdot hdots ⊢
  rw [String.toList_append]
  -- the longer name has the shorter one in front, which is none of the three
  cases hl : name.toList with
  | nil => simp [hl] at hempty
  | cons c rest =>
    rw [hl] at hdot hdots
    cases rest with
    | nil => simp_all
    | cons d rest => simp_all

theorem IsProperName.join_parse (h : IsProperName name) :
    directory.join (parse name) = directory.child name := by
  have hn : isName name.toList := by
    obtain ⟨-, hname⟩ := h
    simp only [List.mem_cons, not_or] at hname
    simpa [isName] using ⟨hname.1, fun h => hname.2.1 (String.toList_inj.1 h)⟩
  rw [parse_of_isName h.1 hn, join_of_here rfl, child]

/-- A proper name is the name of a child. -/
theorem IsProperName.isChildOf (h : IsProperName name) :
    (directory.join (parse name)).IsChildOf directory :=
  ⟨name, h.join_parse, h⟩

/-- Children of one directory are spelled alike only if they have the same name. -/
theorem IsProperName.eq_of_text_eq (hn : IsProperName name) (ho : IsProperName other)
    (h : (directory.join (parse name)).text = (directory.join (parse other)).text) :
    name = other := by
  rw [hn.join_parse, ho.join_parse] at h
  exact (List.cons.inj (names_eq_of_text_eq (List.cons_ne_nil name []) (List.cons_ne_nil other [])
    (by simpa using hn.1) (by simpa using ho.1) h)).1

end Path

end Polyglot.Files
