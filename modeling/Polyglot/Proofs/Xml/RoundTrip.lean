import Polyglot.Proofs.Xml.Review

/-!
# Documents read back

A written document reads as its tree with the runs of text joined. Main statement:
`Node.parse_writeDocument`.
-/

namespace Polyglot.Xml

open Markup Scan

variable {name : String} {value text rest : List Char}

/-! ### The declaration -/

theorem run_plainName_append (hn : isName name.toList) (hp : ∀ c ∈ name.toList, isNameChar c)
    (hr : Stops isNameChar rest) : plainName.run (name.toList ++ rest) = some (name, rest) := by
  simp [plainName, takeWhile_append_stop hp hr, dropWhile_append_stop hp hr, hn]

/-- An item of a declaration reads back. -/
theorem run_items_cons {fuel : Nat} (hn : isName name.toList)
    (hp : ∀ c ∈ name.toList, isNameChar c) (hv : '"' ∉ value) :
    (Declaration.items (fuel + 1)).run
        (' ' :: (name.toList ++ '=' :: '"' :: (value ++ '"' :: rest))) =
      ((Declaration.items fuel).run rest).map
        fun (entries, later) => ((name, value) :: entries, later) := by
  have hs : Stops isNameChar ('=' :: '"' :: (value ++ '"' :: rest)) := by
    intro c hc
    obtain rfl := Option.some.inj hc
    decide
  have he : Stops isSpace ('=' :: '"' :: (value ++ '"' :: rest)) := by simp [Stops, isSpace]
  have hq : Stops isSpace ('"' :: (value ++ '"' :: rest)) := by simp [Stops, isSpace]
  rw [Declaration.items]
  simp [run_space_blank (stops_space_name hn), run_tryLiteral_name hn,
    run_plainName_append hn hp hs, run_space_none he, run_space_none hq, run_literal, after?,
    run_quoted_append hv, -run_space]

theorem run_items_end (fuel : Nat) :
    (Declaration.items (fuel + 1)).run ("?>".toList ++ rest) = some ([], rest) := by
  have hs : Stops isSpace ('?' :: '>' :: rest) := by simp [Stops, isSpace]
  simp [Declaration.items, run_space_none hs, run_tryLiteral, after?, -run_space]

/-- The declaration of a written document, after its first characters. -/
def itemChars : List Char :=
  ' ' :: ("version".toList ++ '=' :: '"' :: ("1.0".toList ++ '"' ::
    (' ' :: ("encoding".toList ++ '=' :: '"' :: ("UTF-8".toList ++ '"' :: "?>".toList)))))

theorem run_items : (Declaration.items 4).run (itemChars ++ rest) =
    some ([("version", "1.0".toList), ("encoding", "UTF-8".toList)], rest) := by
  simp only [itemChars, List.cons_append, List.append_assoc]
  rw [run_items_cons (by decide) (List.all_eq_true.1 (by decide)) (by decide),
    run_items_cons (by decide) (List.all_eq_true.1 (by decide)) (by decide), run_items_end]
  rfl

theorem run_scan {c : Char} {entries : List (String × List Char)} {declaration : Declaration}
    (hc : isSpace c) (hi : (Declaration.items 4).run (c :: text) = some (entries, rest))
    (ho : Declaration.ofItems? entries = some declaration) :
    Declaration.scan.run ("<?xml".toList ++ c :: text) = some (declaration, rest) := by
  simp only [Declaration.scan, StateT.run_bind, StateT.run_get, Option.pure_def,
    Option.bind_eq_bind, Option.bind_some, after?_append, if_pos hc, StateT.run_set, hi, ho]
  rfl

/-- What a written document declares. -/
theorem run_scan_declaration : Declaration.scan.run ("<?xml".toList ++ (itemChars ++ rest)) =
    some ({ encoding := some "UTF-8" }, rest) :=
  run_scan (by decide) run_items (by decide)

/-- A document with the declaration of a written one is its body in the same encoding. -/
theorem parseChars_declaration (h : ∀ c ∈ text, isLegal c) :
    parseChars ("<?xml".toList ++ (itemChars ++ text)) =
      parseBody { encoding := some "UTF-8" } (Text.unifyLineEnds text) := by
  have hs : Declaration.scan.run ("<?xml".toList ++ (itemChars ++ text)) =
      some ({ encoding := some "UTF-8" }, text) := run_scan_declaration
  have hd : ({ encoding := some "UTF-8" } : Declaration).decode? text = some text := rfl
  -- the text begins with no mark, so that it may declare its encoding
  change ((Declaration.scan.run ("<?xml".toList ++ (itemChars ++ text))) >>= _) = _
  rw [hs, Option.bind_eq_bind, Option.bind_some]
  have hg : (guard (text.all isLegal) : Option Unit) = some () := if_pos (List.all_eq_true.2 h)
  simp only [hd, hg, Option.bind_eq_bind, Option.bind_some, ite_self]

/-! ### The body -/

theorem unifyLineEnds_of_not_mem (h : '\r' ∉ text) : Text.unifyLineEnds text = text := by
  induction text with
  | nil => rfl
  | cons c text ih =>
    rw [List.mem_cons, not_or] at h
    rw [Text.unifyLineEnds.eq_4 _ _ (fun _ he _ => h.1 he.symm) (fun he => h.1 he.symm), ih h.2]

/-- Nothing stands in front of a root on the second line. -/
theorem run_prolog {fuel : Nat} {doctype : Doctype} (hn : isName name.toList) :
    (prolog (fuel + 1) doctype).run ('\n' :: '<' :: (name.toList ++ rest)) =
      some (doctype, '<' :: (name.toList ++ rest)) := by
  have hs : Stops isSpace ('<' :: (name.toList ++ rest)) := by simp [Stops, isSpace]
  have hb : ∀ c ∈ ['\n'], isSpace c := List.forall_mem_singleton.2 (by decide)
  have hr : space.run ('\n' :: '<' :: (name.toList ++ rest)) =
      some (true, '<' :: (name.toList ++ rest)) := by
    rw [run_space, ← List.singleton_append, takeWhile_append_stop hb hs,
      dropWhile_append_stop hb hs]
    rfl
  have hc : after? "!--".toList (name.toList ++ rest) = none := after?_name hn (by decide)
  have hi : after? "?".toList (name.toList ++ rest) = none := after?_name hn (by decide)
  have hd : after? "!DOCTYPE".toList (name.toList ++ rest) = none := after?_name hn (by decide)
  have hl (front : String) {later : String} (h : after? later.toList (name.toList ++ rest) = none)
      (hf : front.toList = '<' :: later.toList) : (tryLiteral front).run
        ('<' :: (name.toList ++ rest)) = some (false, '<' :: (name.toList ++ rest)) := by
    rw [run_tryLiteral, hf, after?, if_pos (beq_self_eq_true _), h]
  simp [prolog, hr, hl "<!--" hc rfl, hl "<?" hi rfl, hl "<!DOCTYPE" hd rfl, -run_space]

namespace Node

variable {levels : Nat} {attributes : List Attribute} {children : List Node}

/-- What a document holds after its declaration. -/
def bodyChars (root : Node) : List Char :=
  '\n' :: (root.write.toList ++ ['\n'])

theorem toList_declaration : "<?xml version=\"1.0\" encoding=\"UTF-8\"?>\n".toList =
    "<?xml".toList ++ (itemChars ++ ['\n']) := by
  simp [itemChars]

theorem toList_writeDocument (root : Node) :
    root.writeDocument.toList = "<?xml".toList ++ (itemChars ++ bodyChars root) := by
  have hn : "\n".toList = ['\n'] := by decide
  unfold writeDocument
  simp only [String.toList_append, toList_declaration, hn, bodyChars, List.append_assoc,
    List.cons_append, List.nil_append]

theorem Writable.isKept_bodyChars {root : Node} (h : Writable levels [] root) :
    ∀ c ∈ bodyChars root, IsKept c := by
  have hb : IsKept '\n' := ⟨by decide, by decide⟩
  simp only [bodyChars, List.forall_mem_cons, List.forall_mem_append]
  exact ⟨hb, h.isKept, hb, by simp⟩

theorem exists_write_eq (name : String) (attributes : List Attribute) (children : List Node) :
    ∃ later, (write (element name attributes children)).toList = '<' :: (name.toList ++ later) := by
  by_cases hc : children = []
  · subst hc
    exact ⟨_, by rw [toList_write_closed, startChars, List.append_assoc]⟩
  · exact ⟨_, by rw [toList_write_opened hc, startChars, List.append_assoc]⟩

/-- The body of a document reads as its root with a line end behind it. -/
theorem ofText?_write (h : Writable levels [] (.element name attributes children)) :
    ∃ markup, ofText? ((write (.element name attributes children)).toList ++ ['\n']) = some markup ∧
      isOutsideClean 0 markup ∧ nodes? markup =
        some [joinedWith written (.element name attributes children), .text "\n"] := by
  have hr : Reads ⟨"", [], [joinedWith written (.element name attributes children)]⟩ [] ['\n']
      [joinedWith written (.element name attributes children), .text "\n"] := by
    refine ⟨[.characters ['\n'] true], ?_, by decide, ?_⟩
    · change Cuts ['\n'] ([.characters ['\n'] true] ++ [])
      exact .run (by decide) rfl .nil
    · rfl
  have hb := h.readsBack _ _ _ rfl
  obtain ⟨markup, hc, ho, hb⟩ := @hb ⟨"", [], []⟩ _ _ _ hr
  exact ⟨markup, hc.ofText?, ho, hb⟩

theorem run_prolog_bodyChars {fuel : Nat} {doctype : Doctype} (hn : isName name.toList) :
    (prolog (fuel + 1) doctype).run (bodyChars (element name attributes children)) =
      some (doctype, (write (element name attributes children)).toList ++ ['\n']) := by
  obtain ⟨later, hw⟩ := exists_write_eq name attributes children
  have hp : (prolog (fuel + 1) doctype).run ('\n' :: '<' :: (name.toList ++ (later ++ ['\n']))) =
      some (doctype, '<' :: (name.toList ++ (later ++ ['\n']))) := run_prolog hn
  simpa only [bodyChars, hw, List.cons_append, List.append_assoc] using hp

theorem run_reviewContent {doctype : Doctype} {review : Review} (hb : doctype.attributeRules = [])
    (h : Writable levels [] (.element name attributes children)) (hl : levels ≤ Review.maxDepth) :
    (Review.reviewContent doctype
        [joinedWith written (element name attributes children), .text "\n"]).run review =
      some ([joined (element name attributes children), .text "\n"], review) := by
  have hd : 0 + levels ≤ Review.maxDepth := by omega
  simp [Review.reviewContent, Review.reviewNodes, Review.reviewNode, Review.run_reviewNode hb h hd]

/-- The body of a written document, read after its declaration. -/
theorem parseBody_bodyChars (h : Writable levels [] (.element name attributes children))
    (hl : levels ≤ Review.maxDepth) :
    parseBody { encoding := some "UTF-8" } (bodyChars (element name attributes children)) =
      some (joined (element name attributes children)) := by
  obtain ⟨markup, hm, ho, hn⟩ := ofText?_write h
  have ht : isName name.toList := by cases h with | element ht _ => exact ht.tag
  obtain ⟨fuel, hf⟩ : ∃ fuel, (bodyChars (element name attributes children)).length = fuel + 1 :=
    ⟨_, List.length_cons⟩
  have hr (length : Nat) : (Review.reviewContent
        (({ encoding := some "UTF-8" } : Declaration).doctype length)
        [joinedWith written (element name attributes children), .text "\n"]).run { length } =
      some ([joined (element name attributes children), .text "\n"], { length }) :=
    run_reviewContent rfl h hl
  have hv (length : Nat) : (({ encoding := some "UTF-8" } : Declaration).doctype length).review =
      { length } := rfl
  rw [parseBody, hf, run_prolog_bodyChars ht]
  simp [hm, ho, hn, hv, hr, Findings.isAcceptable]
  rfl

/-- **A writable document reads as its tree, the runs of text joined.** -/
theorem parse_writeDocument (h : Writable levels [] (.element name attributes children))
    (hl : levels ≤ Review.maxDepth) :
    parse (writeDocument (.element name attributes children)) =
      some (joined (.element name attributes children)) := by
  have hk := h.isKept_bodyChars
  have hu : '\r' ∉ bodyChars (element name attributes children) := fun hm => (hk _ hm).2 rfl
  rw [parse, toList_writeDocument, parseChars_declaration fun c hc => (hk c hc).1,
    unifyLineEnds_of_not_mem hu, parseBody_bodyChars h hl]

end Node

end Polyglot.Xml
