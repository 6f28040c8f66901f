import Polyglot.Proofs.Xml.Escape
import Polyglot.Proofs.Xml.Scan
import Polyglot.Xml.Markup

/-!
# Tags read back

A written tag is cut from the text behind it as one piece of markup, with its attributes in order
and their values as they are written.
-/

namespace Polyglot.Xml.Markup

open Scan

variable {c : Char} {name : String} {attributes : List Attribute} {rest : List Char}

/-- The characters that a written attribute consists of. -/
def attributeChars (entry : Attribute) : List Char :=
  ' ' :: (entry.1.toList ++ '=' :: '"' :: ((escapeValue entry.2).toList ++ ['"']))

@[simp] theorem toList_writeAttribute (entry : Attribute) :
    (writeAttribute entry).toList = attributeChars entry := by
  simp [writeAttribute, attributeChars]

/-- The end of a start tag. -/
def tagEnd (closed : Bool) : List Char :=
  if closed then ['/', '>'] else ['>']

/-- An attribute with its value as it is written. -/
def written (entry : Attribute) : Attribute :=
  (entry.1, escapeValue entry.2)

/-! ### Names -/

theorem exists_cons_of_isName {text : List Char} (h : isName text) :
    ∃ c later, text = c :: later ∧ (isNameStart c || c == ':') := by
  cases text with
  | nil => simp [isName, isMark] at h
  | cons c later =>
    simp only [isName, List.head?_cons, Option.all_some, Bool.and_eq_true] at h
    exact ⟨c, later, rfl, h.1.2⟩

theorem ne_of_isNameStart (h : isNameStart c || c == ':') :
    isSpace c = false ∧ c ≠ '>' ∧ c ≠ '/' ∧ c ≠ '!' ∧ c ≠ '?' := by
  refine ⟨?_, ?_, ?_, ?_, ?_⟩
  · by_contra hs
    simp only [isSpace, Bool.not_eq_false, Bool.or_eq_true, beq_iff_eq] at hs
    rcases hs with ((rfl | rfl) | rfl) | rfl <;> exact absurd h (by decide)
  all_goals
    rintro rfl
    exact absurd h (by decide)

theorem isNameChar_of_mem (h : isName name.toList) :
    ∀ c ∈ name.toList, isNameChar c || c == ':' := by
  simp only [isName, isMark, Bool.and_eq_true, List.all_eq_true] at h
  exact h.1.1.2

theorem ne_bracket_of_isNameChar (h : isNameChar c || c == ':') : c ≠ '<' := by
  rintro rfl
  exact absurd h (by decide)

/-- What may stand behind a name. -/
theorem stops_name (h : c = '=' ∨ c = ' ' ∨ c = '>' ∨ c = '/') :
    Stops (fun c => isNameChar c || c == ':') (c :: rest) := by
  intro d hd
  obtain rfl := Option.some.inj hd
  rcases h with rfl | rfl | rfl | rfl <;> decide

/-- Nothing that scans for space or for the end of a tag reads the front of a name. -/
theorem stops_space_name {key : String} (h : isName key.toList) :
    Stops isSpace (key.toList ++ rest) := by
  obtain ⟨c, later, hc, hs⟩ := exists_cons_of_isName h
  intro d hd
  rw [hc] at hd
  obtain rfl := Option.some.inj hd
  exact (ne_of_isNameStart hs).1

/-- No name begins as the other parts of markup do. -/
theorem after?_name {key front : String} (h : isName key.toList)
    (hf : front.toList.head?.any ['>', '/', '!', '?'].contains) :
    after? front.toList (key.toList ++ rest) = none := by
  obtain ⟨c, later, hc, hs⟩ := exists_cons_of_isName h
  obtain ⟨-, hg, hl, hb, hq⟩ := ne_of_isNameStart hs
  cases hd : front.toList with
  | nil =>
    rw [hd] at hf
    simp at hf
  | cons d front =>
    simp only [hd, List.head?_cons, Option.any_some, List.contains_iff_mem, List.mem_cons,
      List.not_mem_nil, or_false] at hf
    rw [hc, List.cons_append]
    rcases hf with rfl | rfl | rfl | rfl
    · exact after?_cons_ne hg.symm
    · exact after?_cons_ne hl.symm
    · exact after?_cons_ne hb.symm
    · exact after?_cons_ne hq.symm

theorem run_tryLiteral_name {key front : String} (h : isName key.toList)
    (hf : front.toList.head?.any ['>', '/', '!', '?'].contains) :
    (tryLiteral front).run (key.toList ++ rest) = some (false, key.toList ++ rest) := by
  rw [run_tryLiteral, after?_name h hf]

theorem run_space_none (h : Stops isSpace rest) : space.run rest = some (false, rest) := by
  have ht : ([] ++ rest).takeWhile isSpace = [] := takeWhile_append_stop (by simp) h
  have hd : ([] ++ rest).dropWhile isSpace = rest := dropWhile_append_stop (by simp) h
  rw [List.nil_append] at ht hd
  rw [run_space, ht, hd]
  rfl

theorem run_space_blank (h : Stops isSpace rest) :
    space.run (' ' :: rest) = some (true, rest) := by
  have hs : ∀ c ∈ [' '], isSpace c := List.forall_mem_singleton.2 (by decide)
  rw [run_space, ← List.singleton_append, takeWhile_append_stop hs h,
    dropWhile_append_stop hs h]
  rfl

/-! ### Attributes -/

theorem mark_not_mem_escapeValue (value : String) : '"' ∉ (escapeValue value).toList := by
  rw [escapeValue, String.toList_ofList]
  intro h
  obtain ⟨c, -, hc⟩ := List.mem_flatMap.1 h
  exact (mem_escapeValueChar hc).2.1 rfl

theorem run_attributes_nil (fuel : Nat) (closed : Bool) :
    (Markup.attributes (fuel + 1)).run (tagEnd closed ++ rest) = some (([], closed), rest) := by
  cases closed with
  | false =>
    have hs : Stops isSpace ('>' :: rest) := by simp [Stops, isSpace]
    simp [Markup.attributes, tagEnd, run_space_none hs, run_tryLiteral, after?, -run_space]
  | true =>
    have hs : Stops isSpace ('/' :: '>' :: rest) := by simp [Stops, isSpace]
    simp [Markup.attributes, tagEnd, run_space_none hs, run_tryLiteral, after?, -run_space]

theorem run_attributes_cons {fuel : Nat} {entry : Attribute} (h : isName entry.1.toList) :
    (Markup.attributes (fuel + 1)).run (attributeChars entry ++ rest) =
      ((Markup.attributes fuel).run rest).map
        fun (answer, later) => ((written entry :: answer.1, answer.2), later) := by
  have hn : Stops (fun c => isNameChar c || c == ':')
      ('=' :: '"' :: ((escapeValue entry.2).toList ++ '"' :: rest)) := stops_name (.inl rfl)
  have he : Stops isSpace ('=' :: '"' :: ((escapeValue entry.2).toList ++ '"' :: rest)) := by
    simp [Stops, isSpace]
  have hq : Stops isSpace ('"' :: ((escapeValue entry.2).toList ++ '"' :: rest)) := by
    simp [Stops, isSpace]
  simp only [attributeChars, List.cons_append, List.append_assoc, List.nil_append]
  rw [Markup.attributes]
  simp [run_space_blank (stops_space_name h), run_tryLiteral_name h, run_name_append h hn,
    run_space_none he, run_space_none hq, run_literal, after?,
    run_quoted_append (mark_not_mem_escapeValue entry.2), -run_space]
  rfl

theorem run_attributes {fuel : Nat} (h : ∀ entry ∈ attributes, isName entry.1.toList)
    (hf : attributes.length < fuel) (closed : Bool) :
    (Markup.attributes fuel).run (attributes.flatMap attributeChars ++ (tagEnd closed ++ rest)) =
      some ((attributes.map written, closed), rest) := by
  induction attributes generalizing fuel with
  | nil =>
    obtain ⟨fuel, rfl⟩ := Nat.exists_eq_add_of_lt hf
    exact run_attributes_nil _ closed
  | cons entry attributes ih =>
    obtain ⟨fuel, rfl⟩ := Nat.exists_eq_add_of_lt hf
    have hl : attributes.length < (entry :: attributes).length + fuel := by simp; omega
    rw [List.flatMap_cons, List.append_assoc, run_attributes_cons (h entry List.mem_cons_self),
      ih (fun e he => h e (List.mem_cons_of_mem _ he)) hl]
    rfl

/-! ### Tags -/

theorem bracket_not_mem_attributeChars {entry : Attribute} (h : isName entry.1.toList) :
    '<' ∉ attributeChars entry := by
  intro hm
  simp only [attributeChars, List.mem_cons, List.mem_append, List.not_mem_nil, or_false] at hm
  rcases hm with hm | hm | hm | hm | hm | hm
  · exact absurd hm (by decide)
  · exact ne_bracket_of_isNameChar (isNameChar_of_mem h _ hm) rfl
  · exact absurd hm (by decide)
  · exact absurd hm (by decide)
  · rw [escapeValue, String.toList_ofList] at hm
    obtain ⟨c, -, hc⟩ := List.mem_flatMap.1 hm
    exact (mem_escapeValueChar hc).1 rfl
  · exact absurd hm (by decide)

theorem length_le_count (attributes : List Attribute) :
    attributes.length ≤ (attributes.flatMap attributeChars).count '=' := by
  induction attributes with
  | nil => simp
  | cons entry attributes ih =>
    have h : 1 ≤ (attributeChars entry).count '=' :=
      List.count_pos_iff.2 (by simp [attributeChars])
    rw [List.flatMap_cons, List.count_append, List.length_cons]
    omega

/-- Written attributes are no more than the bound that the text in front of a tag's end gives. -/
theorem length_lt_attributeBound (h : ∀ entry ∈ attributes, isName entry.1.toList) :
    attributes.length < attributeBound (attributes.flatMap attributeChars ++ rest) := by
  have hm : ∀ c ∈ attributes.flatMap attributeChars, c != '<' := by
    intro c hc
    obtain ⟨entry, he, hc⟩ := List.mem_flatMap.1 hc
    have hn := bracket_not_mem_attributeChars (h entry he)
    exact bne_iff_ne.2 fun h => hn (h ▸ hc)
  have hl := length_le_count attributes
  rw [attributeBound, List.takeWhile_append_of_pos hm, List.count_append]
  omega

/-- The characters of a start tag behind its bracket. -/
def startChars (name : String) (attributes : List Attribute) (closed : Bool) : List Char :=
  name.toList ++ (attributes.flatMap attributeChars ++ tagEnd closed)

/-- A start tag reads back. -/
theorem run_bracketed_start {closed : Bool} (hn : isName name.toList)
    (ha : ∀ entry ∈ attributes, isName entry.1.toList) :
    bracketed.run (startChars name attributes closed ++ rest) =
      some (.start name (attributes.map written) closed, rest) := by
  have hs : Stops (fun c => isNameChar c || c == ':')
      (attributes.flatMap attributeChars ++ (tagEnd closed ++ rest)) := by
    cases attributes with
    | nil =>
      cases closed with
      | false => exact stops_name (.inr (.inr (.inl rfl)))
      | true => exact stops_name (.inr (.inr (.inr rfl)))
    | cons entry attributes => exact stops_name (.inr (.inl rfl))
  have hb : attributes.length <
      attributeBound (attributes.flatMap attributeChars ++ (tagEnd closed ++ rest)) :=
    length_lt_attributeBound ha
  simp only [startChars, List.append_assoc]
  simp [bracketed, startTag, run_tryLiteral_name hn, run_name_append hn hs,
    run_attributes ha hb closed]

/-- An end tag reads back. -/
theorem run_bracketed_finish (hn : isName name.toList) :
    bracketed.run ('/' :: (name.toList ++ '>' :: rest)) = some (.finish name, rest) := by
  have hs : Stops (fun c => isNameChar c || c == ':') ('>' :: rest) :=
    stops_name (.inr (.inr (.inl rfl)))
  have hg : Stops isSpace ('>' :: rest) := by simp [Stops, isSpace]
  simp [bracketed, close, run_tryLiteral, run_literal, after?, run_name_append hn hs,
    run_space_none hg, -run_space]

end Polyglot.Xml.Markup
