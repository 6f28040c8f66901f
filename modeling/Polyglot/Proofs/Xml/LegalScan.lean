import Polyglot.Proofs.Keeps
import Polyglot.Proofs.Xml.Legal

/-!
# Scans of legal texts

A scan of a legal text leaves a legal text, and the characters that it answers are legal.
-/

namespace Polyglot.Xml.Scan

variable {text front later mark : List Char} {α : Type}

/-- A scan that goes from legal texts to legal texts. -/
abbrev Safe (scan : Scan α) : Prop :=
  Keeps LegalChars (fun _ => True) scan

theorem legalChars_takeWhile (h : LegalChars text) (test : Char → Bool) :
    LegalChars (text.takeWhile test) :=
  fun c hc => h c ((List.takeWhile_sublist test).subset hc)

theorem legalChars_dropWhile (h : LegalChars text) (test : Char → Bool) :
    LegalChars (text.dropWhile test) :=
  fun c hc => h c ((List.dropWhile_sublist test).subset hc)

theorem legalChars_of_after? (h : LegalChars text) (ha : after? front text = some later) :
    LegalChars later := by
  rw [eq_append_of_after? ha] at h
  exact (List.forall_mem_append.1 h).2

theorem eq_append_of_splitAt? (h : splitAt? mark text = some (front, later)) :
    text = front ++ (mark ++ later) := by
  induction text generalizing front with
  | nil =>
    obtain ⟨rest, hr, he⟩ := Option.map_eq_some_iff.1 h
    obtain ⟨rfl, rfl⟩ := Prod.mk.inj he
    rw [List.nil_append]
    exact eq_append_of_after? hr
  | cons c text ih =>
    rw [splitAt?] at h
    cases ha : after? mark (c :: text) with
    | some rest =>
      rw [ha] at h
      obtain ⟨rfl, rfl⟩ := Prod.mk.inj (Option.some.inj h)
      rw [List.nil_append]
      exact eq_append_of_after? ha
    | none =>
      rw [ha] at h
      obtain ⟨⟨inner, rest⟩, hr, he⟩ := Option.map_eq_some_iff.1 h
      obtain ⟨rfl, rfl⟩ := Prod.mk.inj he
      rw [ih hr, List.cons_append]

/-! ### Basic scans -/

theorem keeps_rest : Keeps LegalChars LegalChars Scan.rest :=
  Keeps.get

theorem safe_literal (front : String) : Safe (literal front) := by
  refine Keeps.get.bind fun text ht => ?_
  exact (Keeps.ofOption fun later ha => legalChars_of_after? ht ha).bind fun later hl => .set hl

theorem safe_tryLiteral (front : String) : Safe (tryLiteral front) := by
  refine Keeps.get.bind fun text ht => ?_
  cases ha : after? front.toList text with
  | some later => exact (Keeps.set (legalChars_of_after? ht ha)).andThen fun _ => .pure True.intro
  | none => exact .pure True.intro

theorem keeps_takeWhile (test : Char → Bool) : Keeps LegalChars LegalChars (takeWhile test) := by
  refine Keeps.get.bind fun text ht => ?_
  exact (Keeps.set (legalChars_dropWhile ht test)).andThen fun _ =>
    .pure (legalChars_takeWhile ht test)

theorem safe_space : Safe space :=
  (keeps_takeWhile isSpace).andThen fun _ => .pure True.intro

theorem safe_someSpace : Safe someSpace :=
  safe_space.andThen fun _ => Keeps.ofGuard.trivial

theorem keeps_takeThrough (mark : String) : Keeps LegalChars LegalChars (takeThrough mark) := by
  intro text ht front later hr
  rw [run_takeThrough] at hr
  rw [eq_append_of_splitAt? hr] at ht
  obtain ⟨hf, hl⟩ := List.forall_mem_append.1 ht
  exact ⟨(List.forall_mem_append.1 hl).2, hf⟩

theorem keeps_name : Keeps LegalChars (fun name => LegalChars name.toList) Scan.name := by
  refine (keeps_takeWhile _).bind fun text ht => Keeps.ofGuard.andThen fun _ => .pure ?_
  rwa [String.toList_ofList]

theorem keeps_plainName : Keeps LegalChars (fun name => LegalChars name.toList) plainName := by
  refine (keeps_takeWhile _).bind fun text ht => Keeps.ofGuard.andThen fun _ => .pure ?_
  rwa [String.toList_ofList]

theorem keeps_quoted : Keeps LegalChars LegalChars quoted := by
  refine Keeps.get.andThen fun text => ?_
  cases text.head? with
  | none => exact .failure
  | some mark =>
    refine Keeps.ofGuard.andThen fun _ => Keeps.get.bind fun text ht => ?_
    have hl : LegalChars text.tail := fun c hc => ht c (List.mem_of_mem_tail hc)
    exact (Keeps.set hl).andThen fun _ => keeps_takeThrough _

theorem safe_close : Safe close :=
  safe_space.andThen fun _ => safe_literal ">"

theorem keeps_comment : Keeps LegalChars LegalChars comment :=
  (keeps_takeThrough "--").bind fun _ ht => (safe_literal ">").andThen fun _ => .pure ht

theorem safe_instruction : Safe instruction := by
  refine keeps_name.andThen fun target => Keeps.ofGuard.andThen fun _ =>
    (safe_tryLiteral "?>").andThen fun closed => .ite (fun _ => .pure True.intro) fun _ => ?_
  exact safe_someSpace.andThen fun _ => (keeps_takeThrough "?>").andThen fun _ => .pure True.intro

end Polyglot.Xml.Scan
