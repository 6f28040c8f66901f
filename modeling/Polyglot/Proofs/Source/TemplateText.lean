import Polyglot.Proofs.Source.Slot
import Polyglot.Source.Printer

/-!
# Templates read back

The body that is printed for a template reads as that template, if its slots hold expressions that
reading could have put there: names and balanced texts without blanks at their ends. Those are the
only expressions that reading puts into slots, so what was read once prints and reads as itself.
-/

namespace Polyglot.Source.TemplateText

variable {offset : Nat} {c : Char} {text rest : List Char}

/-! ### Escaped text -/

/-- Characters of the piece before are passed over. -/
theorem tokens_skip (offset : Nat) (front rest : List Char) :
    tokens front.length offset (front ++ rest) = tokens 0 (offset + front.length) rest := by
  induction front generalizing offset with
  | nil => rfl
  | cons c front ih =>
    rw [List.cons_append, List.length_cons, tokens, ih, Nat.add_assoc, Nat.add_comm 1]

theorem tokens_plain (he : c ≠ '\\') (hs : c = '$' → rest.head? ≠ some '{') :
    tokens 0 offset (c :: rest) = (.point c.toNat :: ·) <$> tokens 0 (offset + 1) rest := by
  have hd : ¬(c = '$' ∧ rest.head? = some '{') := fun h => hs h.1 h.2
  rw [tokens]
  simp only [beq_iff_eq, he, if_false, Bool.and_eq_true, hd]
  rfl

/-- An escape stands for its code points. -/
theorem tokens_backslash {codes : List Nat} {length : Nat}
    (h : readEscape offset rest = .ok (codes, length)) :
    tokens 0 offset ('\\' :: rest) =
      (codes.map .point ++ ·) <$> tokens length (offset + 1) rest := by
  rw [tokens]
  simp only [beq_self_eq_true, if_true, h, bind_ok]
  rfl

/-- An escape of one character stands for one code point. -/
theorem tokens_escape {code : Nat} (h : readEscape offset (c :: rest) = .ok ([code], 1)) :
    tokens 0 offset ('\\' :: c :: rest) =
      (.point code :: ·) <$> tokens 0 (offset + 2) rest := by
  have hr : tokens 1 (offset + 1) (c :: rest) = tokens 0 (offset + 2) rest :=
    tokens_skip _ [c] rest
  rw [tokens_backslash h, hr]
  rfl

theorem readEscape_special (h : c = '\\' ∨ c = backtick ∨ c = '$') :
    readEscape offset (c :: rest) = .ok ([c.toNat], 1) := by
  rcases h with rfl | rfl | rfl <;> simp [readEscape, simpleEscape?, backtick]

theorem readEscape_r : readEscape offset ('r' :: rest) = .ok (['\r'.toNat], 1) := by
  simp [readEscape, simpleEscape?]

/-- An escaped character reads back as itself; a dollar sign must not meet a brace. -/
theorem tokens_escapeChar (hs : c = '$' → rest.head? ≠ some '{') :
    tokens 0 offset (escapeChar c ++ rest) =
      (.point c.toNat :: ·) <$> tokens 0 (offset + (escapeChar c).length) rest := by
  unfold escapeChar
  simp only [Bool.or_eq_true, beq_iff_eq]
  split_ifs with hq hr
  · exact tokens_escape (readEscape_special (hq.imp_right .inl))
  · subst hr
    exact tokens_escape readEscape_r
  · exact tokens_plain (fun h => hq (.inl h)) hs

theorem head?_escapeChars_ne (h : text.head? ≠ some '{') :
    (escapeChars text).head? ≠ some '{' := by
  fun_cases escapeChars text with
  | case1 => simp
  | case2 => simp
  | case3 c rest hn =>
    simp only [List.head?_cons, ne_eq, Option.some.injEq] at h
    simp only [escapeChar, Bool.or_eq_true, beq_iff_eq]
    split_ifs <;> simp [h]

/-- Escaped text reads back as its own characters, whatever follows that is no brace. -/
theorem tokens_escapeChars (hr : rest.head? ≠ some '{') :
    tokens 0 offset (escapeChars text ++ rest) =
      (text.map (.point ·.toNat) ++ ·) <$>
        tokens 0 (offset + (escapeChars text).length) rest := by
  induction text using escapeChars.induct generalizing offset with
  | case1 => simp
  | case2 later ih =>
    -- the dollar sign is escaped here since a brace follows
    have hl : offset + 2 + 1 + (escapeChars later).length =
        offset + (escapeChars ('$' :: '{' :: later)).length := by
      simp only [escapeChars, List.length_cons]
      omega
    rw [← hl]
    simp only [escapeChars, List.cons_append]
    rw [tokens_escape (readEscape_special (.inr (.inr rfl))), tokens_plain (by simp) (by simp),
      ih, Functor.map_map, Functor.map_map]
    rfl
  | case3 c later hn ih =>
    have hs (hc : c = '$') : (escapeChars later ++ rest).head? ≠ some '{' :=
      head?_append_ne (head?_escapeChars_ne fun h => by
        obtain ⟨tail, rfl⟩ := List.head?_eq_some_iff.1 h
        exact hn tail hc rfl) hr
    rw [escapeChars.eq_3 c later hn, List.append_assoc, tokens_escapeChar hs, ih,
      Functor.map_map, List.length_append, Nat.add_assoc]
    rfl

/-! ### Slots -/

/-- An expression that reads back from a slot: a name, or a text without blanks at its ends that is
no name and that the scanner of slots reads up to a brace behind it. -/
def IsReadable : Node → Prop
  | .identifier name => isName name.toList
  | .rawExpression text => text ≠ "" ∧ Text.trim text.toList = text.toList ∧
      ¬isName text.toList ∧
      closing (.slot 0 0) [] 0 (text.toList ++ ['}']) = .ok (text.toList ++ ['}'])
  | _ => False

/-- What a slot holds for an expression that reads back. -/
def slotText : Node → String
  | .identifier name => name
  | .rawExpression text => text
  | _ => ""

/-- The character may stand in a name. -/
def isNameChar (c : Char) : Bool :=
  c.isAlphanum || c == '_' || c == '$'

theorem isNameChar_of_isDigit (h : c.isDigit) : isNameChar c := by
  simp [isNameChar, Char.isAlphanum, h]

theorem toNat_of_isAlphanum (h : c.isAlphanum) : 48 ≤ c.toNat ∧ c.toNat ≤ 122 := by
  have hb {low high : Char} (hl : low.val ≤ c.val) (hh : c.val ≤ high.val) :
      low.toNat ≤ c.toNat ∧ c.toNat ≤ high.toNat :=
    ⟨UInt32.le_iff_toNat_le.1 hl, UInt32.le_iff_toNat_le.1 hh⟩
  have hs : '0'.toNat = 48 ∧ '9'.toNat = 57 ∧ 'A'.toNat = 65 ∧ 'Z'.toNat = 90 ∧
      'a'.toNat = 97 ∧ 'z'.toNat = 122 := by decide
  rcases Bool.or_eq_true_iff.1 h with h | hd
  · rcases Bool.or_eq_true_iff.1 h with hu | hl
    · obtain ⟨hl, hh⟩ := of_decide_eq_true hu
      have hr := hb hl hh
      omega
    · obtain ⟨hl, hh⟩ := Bool.and_eq_true_iff.1 hl
      have hr := hb (of_decide_eq_true hl) (of_decide_eq_true hh)
      omega
  · obtain ⟨hl, hh⟩ := Bool.and_eq_true_iff.1 hd
    have hr := hb (of_decide_eq_true hl) (of_decide_eq_true hh)
    omega

theorem isBlank_of_isNameChar (h : isNameChar c) : Text.isBlank c = false := by
  simp only [isNameChar, Bool.or_eq_true, beq_iff_eq] at h
  rcases h with (h | rfl) | rfl
  · have hn := toNat_of_isAlphanum h
    simp only [Text.isBlank, Bool.or_eq_false_iff, Bool.and_eq_false_iff, decide_eq_false_iff_not,
      beq_eq_false_iff_ne]
    omega
  · decide
  · decide

theorem isPlain_of_isNameChar (h : isNameChar c) : isQuote c = false ∧ c ≠ '{' ∧ c ≠ '}' := by
  refine ⟨?_, ?_, ?_⟩
  · by_contra hq
    simp only [isQuote, Bool.not_eq_false, Bool.or_eq_true, beq_iff_eq] at hq
    rcases hq with (rfl | rfl) | rfl <;> simp [isNameChar, backtick] at h
  all_goals
    rintro rfl
    simp [isNameChar] at h

theorem isNameChar_of_isName (h : isName text) : ∀ c ∈ text, isNameChar c := by
  cases text with
  | nil => simp
  | cons c rest =>
    simp only [isName, Bool.and_eq_true, List.all_eq_true] at h
    intro d hd
    rcases List.mem_cons.1 hd with rfl | hd
    · have hc := h.1
      simp only [isNameChar, Char.isAlphanum, Bool.or_eq_true] at hc ⊢
      tauto
    · exact h.2 d hd

theorem balanced_of_forall_isNameChar (h : ∀ c ∈ text, isNameChar c) : Balanced none text :=
  balanced_of_forall_plain fun c hc => isPlain_of_isNameChar (h c hc)

/-- An expression that reads back is printed as a balanced text that stands for it. -/
theorem balanced_slotText {expression : Node} (h : IsReadable expression) :
    Balanced none (slotText expression).toList ∧
      slotExpression? (slotText expression).toList = some expression := by
  -- no blank stands in a name, and none at the ends of any other text
  cases expression with
  | identifier name =>
    have hn := isNameChar_of_isName h
    have ht := Text.trim_eq_self fun c hc => isBlank_of_isNameChar (hn c hc)
    refine ⟨balanced_of_forall_isNameChar hn, ?_⟩
    simp only [slotText, slotExpression?, ht]
    cases hl : name.toList with
    | nil => simp [IsReadable, hl, isName] at h
    | cons c rest =>
      simpa [← hl, IsReadable] using h
  | rawExpression text =>
    obtain ⟨hne, ht, hn, hc⟩ := h
    refine ⟨closing_brace_iff.1 hc, ?_⟩
    simp only [slotText, slotExpression?, ht]
    cases hl : text.toList with
    | nil => exact absurd (String.toList_eq_nil_iff.1 hl) hne
    | cons c rest =>
      simp [← hl, hn]
  | _ => exact absurd h (by simp [IsReadable])

/-- What reading puts into a slot reads back. -/
theorem isReadable_of_slotExpression? {expression : Node} (hb : Balanced none text)
    (h : slotExpression? text = some expression) : IsReadable expression := by
  unfold slotExpression? at h
  split at h
  · cases h
  · rename_i hne
    split_ifs at h with hn
    · cases h
      simpa [IsReadable] using hn
    · cases h
      have ht : String.ofList (Text.trim text) ≠ "" := by
        simpa using hne
      exact ⟨ht, by simp, by simpa using hn, by simpa using closing_brace_iff.2 hb.trim⟩

/-- A slot stands for the expression of the text up to the brace that closes it. -/
theorem tokens_slot {read : List Char} {expression : Node}
    (hc : closing (.slot 0 offset) [] (offset + 2) text = .ok read)
    (he : slotExpression? read.dropLast = some expression) :
    tokens 0 offset ('$' :: '{' :: text) =
      (.slot expression :: ·) <$> tokens (read.length + 1) (offset + 1) ('{' :: text) := by
  rw [tokens.eq_3]
  simp only [show ('$' == '\\') = false by decide, List.head?_cons, beq_self_eq_true,
    Bool.and_self, if_true, List.tail_cons, hc, bind_ok, he]
  rfl

/-- A slot reads as the expression that its balanced text stands for. -/
theorem tokens_source {source : List Char} {expression : Node} (hb : Balanced none source)
    (he : slotExpression? source = some expression) :
    tokens 0 offset ('$' :: '{' :: (source ++ '}' :: rest)) =
      (.slot expression :: ·) <$> tokens 0 (offset + source.length + 3) rest := by
  have hc : closing (.slot 0 offset) [] (offset + 2) (source ++ '}' :: rest) =
      .ok (source ++ ['}']) :=
    closing_eq_ok_iff.2 ⟨_, hb, rfl, rest, by simp⟩
  have hs := tokens_skip (offset + 1) ('{' :: (source ++ ['}'])) rest
  simp only [List.length_cons, List.length_append, List.length_nil, List.cons_append,
    List.append_assoc, List.nil_append] at hs
  rw [tokens_slot hc (by rwa [List.dropLast_concat])]
  simp only [List.length_append, List.length_cons, List.length_nil, Nat.zero_add, hs]
  rw [show offset + 1 + (source.length + 1 + 1) = offset + source.length + 3 by omega]

/-- Every slot that is read holds an expression that reads back. -/
theorem isReadable_of_mem_tokens {skip : Nat} {pieces : List Token} {expression : Node}
    (h : tokens skip offset text = .ok pieces) (hm : .slot expression ∈ pieces) :
    IsReadable expression := by
  fun_induction tokens skip offset text generalizing pieces with
  | case1 =>
    cases h
    simp at hm
  | case2 offset c rest skip ih => exact ih h hm
  | case3 offset c rest hc ih =>
    obtain ⟨⟨codes, length⟩, -, h⟩ := bind_eq_ok_iff.1 h
    obtain ⟨after, ha, h⟩ := bind_eq_ok_iff.1 h
    cases h
    exact ih length ha (by simpa using hm)
  | case4 offset c rest hc hs ih =>
    obtain ⟨slot, hslot, h⟩ := bind_eq_ok_iff.1 h
    split at h
    · rename_i read hread
      obtain ⟨after, ha, h⟩ := bind_eq_ok_iff.1 h
      cases h
      rcases List.mem_cons.1 hm with hm | hm
      · cases hm
        obtain ⟨inner, hi, rfl, -⟩ := closing_eq_ok_iff.1 hslot
        rw [List.dropLast_concat] at hread
        exact isReadable_of_slotExpression? hi hread
      · exact ih slot ha hm
    · cases h
  | case5 offset c rest hc hs ih =>
    obtain ⟨after, ha, h⟩ := bind_eq_ok_iff.1 h
    cases h
    exact ih ha (by simpa using hm)

/-! ### Templates -/

theorem assemble_points (text : List Char) (pieces : List Token) :
    assemble (text.map (.point ·.toNat) ++ pieces) =
      (text.map Char.toNat ++ (assemble pieces).1, (assemble pieces).2) := by
  induction text with
  | nil => rfl
  | cons c text ih => simp [assemble, ih]

theorem mem_tokens_of_mem_assemble {pieces : List Token} {span : Node × List Nat}
    (h : span ∈ (assemble pieces).2) : .slot span.1 ∈ pieces := by
  induction pieces generalizing span with
  | nil => simp [assemble] at h
  | cons piece pieces ih =>
    cases piece with
    | point code => exact List.mem_cons_of_mem _ (ih h)
    | slot expression =>
      rcases List.mem_cons.1 h with rfl | h
      · exact List.mem_cons_self
      · exact List.mem_cons_of_mem _ (ih h)

/-- Reading puts only expressions that read back into slots. -/
theorem isReadable_of_parse {body : String} {template : Template}
    (h : Template.parse body = .ok template) :
    ∀ span ∈ template.spans, IsReadable span.expression := by
  obtain ⟨pieces, hp, rfl⟩ := map_eq_ok_iff.1 h
  intro span hs
  obtain ⟨part, hm, rfl⟩ := List.mem_map.1 hs
  exact isReadable_of_mem_tokens hp (mem_tokens_of_mem_assemble hm)

/-- The pieces of a template's body. -/
def piecesOf (template : Template) : List Token :=
  template.head.toList.map (.point ·.toNat) ++
    template.spans.flatMap fun span =>
      .slot span.expression :: span.literal.toList.map (.point ·.toNat)

theorem ofTokens_piecesOf (template : Template) : ofTokens (piecesOf template) = template := by
  obtain ⟨head, spans⟩ := template
  have ha : assemble (spans.flatMap fun span =>
      .slot span.expression :: span.literal.toList.map (.point ·.toNat)) =
      ([], spans.map fun span => (span.expression, span.literal.toList.map Char.toNat)) := by
    induction spans with
    | nil => rfl
    | cons span spans ih => simp [assemble, assemble_points, ih]
  simp [ofTokens, piecesOf, assemble_points, ha, textOf, Function.comp_def]

/-- The body of a template from its head and from its slots, each with its source. -/
def bodyWith (head : String) (slots : List (String × Span)) : String :=
  escape head ++ String.join (slots.map fun slot =>
    "$\x7b" ++ slot.1 ++ "\x7d" ++ escape slot.2.literal)

/-- The source of a slot is balanced and stands for the slot's expression. -/
def IsSource (slot : String × Span) : Prop :=
  Balanced none slot.1.toList ∧ slotExpression? slot.1.toList = some slot.2.expression

/-- Slots with the texts behind them read back. -/
theorem tokens_sources {slots : List (String × Span)} (h : ∀ slot ∈ slots, IsSource slot) :
    tokens 0 offset (slots.flatMap fun slot => '$' :: '{' ::
      (slot.1.toList ++ '}' :: escapeChars slot.2.literal.toList)) =
      .ok (slots.flatMap fun slot =>
        .slot slot.2.expression :: slot.2.literal.toList.map (.point ·.toNat)) := by
  induction slots generalizing offset with
  | nil => rfl
  | cons slot slots ih =>
    rw [List.forall_mem_cons] at h
    have hr : (slots.flatMap fun slot => '$' :: '{' :: (slot.1.toList ++
        '}' :: escapeChars slot.2.literal.toList)).head? ≠ some '{' := by
      cases slots <;> simp
    rw [List.flatMap_cons, List.flatMap_cons]
    simp only [List.cons_append, List.append_assoc]
    rw [tokens_source h.1.1 h.1.2, tokens_escapeChars hr, ih h.2]
    rfl

/-- A body reads as the template of its head and its slots. -/
theorem parse_bodyWith {head : String} {slots : List (String × Span)}
    (h : ∀ slot ∈ slots, IsSource slot) :
    Template.parse (bodyWith head slots) = .ok ⟨head, slots.map (·.2)⟩ := by
  have hr : (slots.flatMap fun slot => '$' :: '{' :: (slot.1.toList ++
      '}' :: escapeChars slot.2.literal.toList)).head? ≠ some '{' := by
    cases slots <;> simp
  have hc : (bodyWith head slots).toList = escapeChars head.toList ++
      slots.flatMap fun slot => '$' :: '{' :: (slot.1.toList ++
        '}' :: escapeChars slot.2.literal.toList) := by
    simp [bodyWith, escape, String.toList_join, List.flatMap_map]
  have ho := ofTokens_piecesOf ⟨head, slots.map (·.2)⟩
  rw [piecesOf, List.flatMap_map] at ho
  rw [Template.parse, hc, tokens_escapeChars hr, tokens_sources h, map_ok, map_ok]
  exact congrArg Except.ok ho

/-- The body that is printed for a template. -/
def bodyOf (template : Template) : String :=
  bodyWith template.head (template.spans.map fun span => (slotText span.expression, span))

/-- The printed body of a template reads back as the template. -/
theorem parse_bodyOf {template : Template}
    (h : ∀ span ∈ template.spans, IsReadable span.expression) :
    Template.parse (bodyOf template) = .ok template := by
  have hs (slot : String × Span)
      (hm : slot ∈ template.spans.map fun span => (slotText span.expression, span)) :
      IsSource slot := by
    obtain ⟨span, hspan, rfl⟩ := List.mem_map.1 hm
    exact balanced_slotText (h span hspan)
  rw [bodyOf, parse_bodyWith hs]
  simp [Function.comp_def]

/-- An expression that reads back is printed as it stands in a slot. -/
theorem printExpression_slotText {expression : Node} (h : IsReadable expression) (limit : Int)
    (room : Nat) :
    Printer.printExpression limit (room + 1) expression = .ok (slotText expression) := by
  cases expression with
  | identifier | rawExpression => rw [Printer.printExpression]; rfl
  | _ => exact absurd h (by simp [IsReadable])

theorem printSlots_readable {spans : List Span} (h : ∀ span ∈ spans, IsReadable span.expression)
    (limit : Int) (room : Nat) :
    Printer.printSlots (Printer.printExpression limit (room + 1)) (spans.map Span.toNode) =
      .ok (spans.map fun span => (slotText span.expression, span.literal)) := by
  induction spans with
  | nil => rfl
  | cons span spans ih =>
    have hs := printExpression_slotText (h span List.mem_cons_self) limit room
    have ih := ih fun span hs => h span (List.mem_cons_of_mem _ hs)
    rw [Printer.printSlots] at ih ⊢
    rw [List.map_cons, List.mapM_cons, ih]
    simp only [Span.ofNode_toNode, hs]
    rfl

theorem print_toNode {template : Template}
    (h : ∀ span ∈ template.spans, IsReadable span.expression) :
    template.toNode.print = .ok ("\x60" ++ bodyOf template ++ "\x60") := by
  -- 100 is the number of levels that are printed at most; a template takes two
  have hp := printSlots_readable h 100 98
  change Printer.printExpression 100 (99 + 1)
    (.templateLiteral template.head (template.spans.map Span.toNode)) = _
  rw [Printer.printExpression]
  simp only [Printer.printTemplate, hp, bind_ok, Printer.templateSource]
  simp [bodyOf, bodyWith, Function.comp_def, String.append_assoc, pure, Except.pure]

end Polyglot.Source.TemplateText

namespace Polyglot.Source

open TemplateText

/-- **Templates read back as they were printed.** A template whose slots hold expressions that read
back prints as a body between backticks that reads as the template; reading puts only such
expressions into slots, so that a body that was read once prints as one that reads the same; and an
escaped text reads as a template without slots. -/
theorem Template.parse_print :
    (∀ template : Template, (∀ span ∈ template.spans, IsReadable span.expression) →
      ∃ body, template.toNode.print = .ok ("\x60" ++ body ++ "\x60") ∧
        Template.parse body = .ok template) ∧
    (∀ body template, Template.parse body = .ok template →
      (∀ span ∈ template.spans, IsReadable span.expression) ∧
        ∃ printed, template.toNode.print = .ok ("\x60" ++ printed ++ "\x60") ∧
          Template.parse printed = .ok template) ∧
    ∀ text, Template.parse (escape text) = .ok ⟨text, []⟩ := by
  have hprint (template : Template)
      (h : ∀ span ∈ template.spans, IsReadable span.expression) :
      ∃ body, template.toNode.print = .ok ("\x60" ++ body ++ "\x60") ∧
        Template.parse body = .ok template :=
    ⟨bodyOf template, print_toNode h, parse_bodyOf h⟩
  refine ⟨hprint, fun body template h => ?_, fun text => ?_⟩
  · have hs := isReadable_of_parse h
    exact ⟨hs, hprint template hs⟩
  · have h : Template.parse (bodyOf ⟨text, []⟩) = .ok ⟨text, []⟩ := parse_bodyOf (by simp)
    simpa [bodyOf, bodyWith] using h

/-- A slot that holds a nested template with a brace in a quoted string. -/
theorem Template.parse_print_nested :
    (∀ span ∈ [Span.mk (.rawExpression "f(\x60$\x7b'\x7d'\x7d\x60)") "\x7b"],
      IsReadable span.expression) ∧
    ∃ body, (Template.toNode ⟨"$",
        [⟨.rawExpression "f(\x60$\x7b'\x7d'\x7d\x60)", "\x7b"⟩]⟩).print =
        .ok ("\x60" ++ body ++ "\x60") ∧
      Template.parse body =
        .ok ⟨"$", [⟨.rawExpression "f(\x60$\x7b'\x7d'\x7d\x60)", "\x7b"⟩]⟩ := by
  have h : IsReadable (.rawExpression "f(\x60$\x7b'\x7d'\x7d\x60)") :=
    ⟨by decide, by decide +kernel, by decide +kernel, by cbv⟩
  have hs : ∀ span ∈ [Span.mk (.rawExpression "f(\x60$\x7b'\x7d'\x7d\x60)") "\x7b"],
      IsReadable span.expression := by simpa using h
  exact ⟨hs, Template.parse_print.1 ⟨"$", _⟩ hs⟩

end Polyglot.Source
