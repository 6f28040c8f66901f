import Polyglot.Proofs.Source.Printable
import Polyglot.Proofs.Source.Reader

/-!
# Printed expressions read back

The reader takes a printed expression as the tree that it was printed from, so that different trees
never print alike. The trees are those that are made of words: names are names, numbers are digits,
and no text stands in them as it is. Main statement: `eq_of_printWithin`.
-/

namespace Polyglot.Source

/-- The words that a node itself has are names and numbers, and it is no raw text. -/
def Node.HasPlainWords : Node → Prop
  | .identifier name | .propertyAccess _ name | .propertyAssignment name _ =>
    TemplateText.isName name.toList
  | .numericLiteral raw => raw ≠ "" ∧ ∀ c ∈ raw.toList, c.isDigit
  | .rawExpression _ => False
  | .arrowFunction parameters _ => ∀ parameter ∈ parameters,
      TemplateText.isName parameter.name.toList ∧ parameter.typeAnnotation = none
  | _ => True

/-- A tree of plain words that may stand in a place. -/
structure Node.IsPlain (place : Place) (node : Node) : Prop where
  fits : node.fits place
  words : node.Everywhere Node.HasPlainWords

namespace Node.IsPlain

variable {place inner : Place} {node child : Node} {nodes : List Node}

theorem of_mem (h : node.IsPlain place) (hc : child ∈ node.children) (hf : child.fits inner) :
    child.IsPlain inner :=
  ⟨hf, h.words.of_mem hc⟩

theorem all (h : node.IsPlain place) (hs : nodes ⊆ node.children) (hf : fitsAll inner nodes) :
    ∀ child ∈ nodes, child.IsPlain inner :=
  fun child hm => h.of_mem (hs hm) (fitsAll_iff.1 hf child hm)

end Node.IsPlain

namespace Reader

open TemplateText Printer

variable {print : Node → Except Failure String} {read : Taker Node} {node : Node}
  {text front back : String} {rest : List Char} {limit : Int} {room : Nat}

/-! ### Parts of expressions -/

/-- What a printer prints a reader reads. -/
structure Reads (print : Node → Except Failure String) (read : Taker Node) : Prop where
  back : ∀ node text, print node = .ok text → node.IsPlain .expression → ReadsAs read node text
  closed : ∀ close ∈ closers, ∀ rest, read (close :: rest) = none

theorem toList_templateSource_append (head : String) (slots : List (String × String))
    (rest : List Char) : (templateSource head slots).toList ++ rest =
      '\x60' :: (escapeChars head.toList ++ (slots.flatMap slotChars ++ backtick :: rest)) := by
  simp [toList_templateSource, backtick]

theorem endsText_slots (slots : List (String × String)) (rest : List Char) :
    EndsText (slots.flatMap slotChars ++ backtick :: rest) := by
  cases slots with
  | nil => exact .inl rfl
  | cons slot slots => exact .inr (by simp [slotChars])

theorem length_le_flatMap_slotChars (slots : List (String × String)) :
    slots.length ≤ (slots.flatMap slotChars).length := by
  induction slots with
  | nil => exact Nat.le_refl 0
  | cons slot slots ih =>
    rw [List.flatMap_cons, List.length_append, slotChars, List.length_cons, List.length_cons]
    omega

section Parts

variable (hr : Reads print read)

include hr

theorem Reads.mapM {nodes : List Node} {texts : List String} (h : nodes.mapM print = .ok texts)
    (hn : ∀ node ∈ nodes, node.IsPlain .expression) : List.Forall₂ (ReadsAs read) nodes texts :=
  forall₂_of_mapM h fun node hm text ht => hr.back node text ht (hn node hm)

theorem Reads.property (h : printProperty print node = .ok text) (hn : node.IsPlain .property) :
    ReadsAs (readProperty read) node text := by
  obtain ⟨name, value, back, rfl, hv, rfl⟩ := printProperty_eq_ok_iff.1 h
  have hp : value.IsPlain .expression := hn.of_mem List.mem_cons_self hn.fits
  intro rest hs
  have hx : (name ++ ": " ++ back).toList ++ rest =
      name.toList ++ ([':', ' '] ++ (back.toList ++ rest)) := by simp
  have he : EndsWord ([':', ' '] ++ (back.toList ++ rest)) := by simp [EndsWord, isNameChar]
  rw [hx, readProperty, readName_append hn.words.root he]
  simp only [Option.bind_eq_bind, Option.bind_some, skip_append, hr.back value back hv hp rest hs]
  rfl

theorem Reads.slots {spans : List Node} {slots : List (String × String)}
    (h : printSlots print spans = .ok slots) (hn : ∀ span ∈ spans, span.IsPlain .span)
    {count : Nat} (hl : spans.length < count) (rest : List Char) :
    readSlots read count (slots.flatMap slotChars ++ backtick :: rest) = some (spans, rest) := by
  induction spans generalizing slots count with
  | nil =>
    cases h
    obtain ⟨count, rfl⟩ := Nat.exists_eq_add_one_of_ne_zero (Nat.ne_zero_of_lt hl)
    have hd : skip ['$', '{'] (backtick :: rest) = none := skip_of_head?_ne (by simp [backtick])
    have hk : skip [backtick] (backtick :: rest) = some rest := skip_append [backtick] rest
    simp [readSlots, hd, hk]
  | cons span spans ih =>
    obtain ⟨count, rfl⟩ := Nat.exists_eq_add_one_of_ne_zero (Nat.ne_zero_of_lt hl)
    rw [printSlots, List.mapM_cons] at h
    obtain ⟨slot, hs, h⟩ := bind_eq_ok_iff.1 h
    obtain ⟨later, ht, h⟩ := bind_eq_ok_iff.1 h
    obtain rfl := Except.ok.inj h
    obtain ⟨hn, hm⟩ := List.forall_mem_cons.1 hn
    have hi := ih ht hm (Nat.lt_of_succ_lt_succ hl)
    have hf := hn.fits
    cases span with
    | templateSpan expression literal =>
      obtain ⟨source, he, hs⟩ := bind_eq_ok_iff.1 hs
      obtain rfl : (source, literal) = slot := Except.ok.inj hs
      have hp : expression.IsPlain .expression := hn.of_mem List.mem_cons_self hf
      have hx : ((source, literal) :: later).flatMap slotChars ++ backtick :: rest =
          ['$', '{'] ++ (source.toList ++ (['}'] ++ (escapeChars literal.toList ++
            (later.flatMap slotChars ++ backtick :: rest)))) := by
        simp [slotChars]
      have hc : Stops (['}'] ++ (escapeChars literal.toList ++
          (later.flatMap slotChars ++ backtick :: rest))) := stops_closer (by simp [closers]) _
      rw [hx, readSlots, skip_append]
      simp only [Option.bind_eq_bind, Option.bind_some, hr.back expression source he hp _ hc,
        skip_append, readText_append _ (endsText_slots later rest), hi, String.ofList_toList]
      rfl
    | _ => simp [Node.fits] at hf

/-- The source of a template is read as the template. -/
theorem Reads.template {head : String} {spans : List Node} {slots : List (String × String)}
    (h : printSlots print spans = .ok slots) (hn : ∀ span ∈ spans, span.IsPlain .span)
    (rest : List Char) :
    readTemplate read
        (escapeChars head.toList ++ (slots.flatMap slotChars ++ backtick :: rest)) =
      some (.templateLiteral head spans, rest) := by
  have hl : spans.length < (slots.flatMap slotChars ++ backtick :: rest).length := by
    have hs := (mapM_eq_ok_iff_forall₂.1 h).length_eq
    have hc := length_le_flatMap_slotChars slots
    rw [List.length_append, List.length_cons]
    omega
  rw [readTemplate, readText_append _ (endsText_slots slots rest)]
  simp only [Option.bind_eq_bind, Option.bind_some, hr.slots h hn hl, String.ofList_toList]
  rfl

theorem Reads.array {elements : List Node} {texts : List String}
    (h : elements.mapM print = .ok texts) (hn : ∀ element ∈ elements, element.IsPlain .expression)
    (rest : List Char) :
    readPrimary read (("[" ++ commaSeparated texts ++ "]").toList ++ rest) =
      some (.arrayLiteral elements, rest) := by
  have hx : ("[" ++ commaSeparated texts ++ "]").toList ++ rest =
      '[' :: ((commaSeparated texts).toList ++ ']' :: rest) := by simp
  have hc : ']' ∈ closers := by simp [closers]
  rw [hx, readPrimary, readList_append (hr.mapM h hn) hc (hr.closed _ hc)]
  rfl

theorem Reads.object {properties : List Node} {texts : List String}
    (h : properties.mapM (printProperty print) = .ok texts)
    (hn : ∀ property ∈ properties, property.IsPlain .property) (rest : List Char) :
    readPrimary read (("\x7b" ++ commaSeparated texts ++ "\x7d").toList ++ rest) =
      some (.objectLiteral properties, rest) := by
  have hx : ("\x7b" ++ commaSeparated texts ++ "\x7d").toList ++ rest =
      '{' :: ((commaSeparated texts).toList ++ '}' :: rest) := by simp
  have ho (rest : List Char) : readProperty read ('}' :: rest) = none := by
    rw [readProperty, readName_of_endsWord (by simp [EndsWord, isNameChar])]
    rfl
  have hp := forall₂_of_mapM h fun property hm text ht => hr.property ht (hn property hm)
  rw [hx, readPrimary, readList_append hp (by simp [closers]) ho]
  rfl

theorem Reads.call {arguments : List Node} {texts : List String}
    (h : arguments.mapM print = .ok texts)
    (hn : ∀ argument ∈ arguments, argument.IsPlain .expression) (operand : Node)
    (rest : List Char) :
    readSuffix read operand (("(" ++ (commaSeparated texts ++ ")")).toList ++ rest) =
      some (.callExpression operand arguments, rest) := by
  have hx : ("(" ++ (commaSeparated texts ++ ")")).toList ++ rest =
      '(' :: ((commaSeparated texts).toList ++ ')' :: rest) := by simp
  have hc : ')' ∈ closers := by simp [closers]
  rw [hx, readSuffix, readList_append (hr.mapM h hn) hc (hr.closed _ hc)]
  rfl

end Parts

theorem readParameters_append {parameters : List Parameter}
    (h : ∀ parameter ∈ parameters,
      isName parameter.name.toList ∧ parameter.typeAnnotation = none) (rest : List Char) :
    readList readParameter ')' ((commaSeparated (parameters.map printParameter)).toList ++
      ')' :: rest) = some (parameters, rest) := by
  refine readList_append ?_ (by simp [closers]) (fun rest => ?_) rest
  · rw [List.forall₂_map_right_iff, List.forall₂_same]
    intro parameter hm rest hs
    obtain ⟨hn, ht⟩ := h parameter hm
    rw [printParameter, ht, readParameter, readName_append hn hs.endsWord]
    cases parameter
    cases ht
    rfl
  · rw [readParameter, readName_of_endsWord (by simp [EndsWord, isNameChar])]
    rfl

/-! ### Operands -/

theorem readPrimary_word {word : List Char} (hw : word ≠ []) (hc : ∀ c ∈ word, isNameChar c)
    (rest : List Char) : readPrimary read (word ++ rest) = readWord (word ++ rest) := by
  cases word with
  | nil => exact absurd rfl hw
  | cons c later =>
    have hc := hc c List.mem_cons_self
    rw [List.cons_append, readPrimary.eq_6]
    all_goals
      rintro rest ⟨rfl, -⟩
      simp [isNameChar] at hc

/-- A text is read as an operand, in front of whatever may be a suffix. -/
def ReadsAsOperand (read : Taker Node) (node : Node) (text : String) : Prop :=
  ∃ suffixes ≤ text.toList.length, ∀ count rest, EndsWord rest →
    readOperand read (suffixes + count) (text.toList ++ rest) = readSuffixes read count node rest

theorem ReadsAsOperand.of_primary
    (h : ∀ rest, EndsWord rest → readPrimary read (text.toList ++ rest) = some (node, rest)) :
    ReadsAsOperand read node text := by
  refine ⟨0, Nat.zero_le _, fun count rest he => ?_⟩
  rw [readOperand, h rest he, Nat.zero_add]
  rfl

/-- An operand with a suffix is an operand. -/
theorem ReadsAsOperand.suffix {operand : Node} (h : ReadsAsOperand read operand front)
    (hb : ∃ c later, back.toList = c :: later ∧ isNameChar c = false)
    (hs : ∀ rest, EndsWord rest →
      readSuffix read operand (back.toList ++ rest) = some (node, rest)) :
    ReadsAsOperand read node (front ++ back) := by
  obtain ⟨suffixes, hl, h⟩ := h
  obtain ⟨c, later, hb, hc⟩ := hb
  refine ⟨suffixes + 1, ?_, fun count rest he => ?_⟩
  · rw [String.toList_append, List.length_append, hb, List.length_cons]
    omega
  · have hw : EndsWord (back.toList ++ rest) := by
      rw [hb]
      intro d hd
      obtain rfl := Option.some.inj hd
      exact hc
    rw [String.toList_append, List.append_assoc, Nat.add_assoc, Nat.add_comm 1, h _ _ hw,
      readSuffixes, hs rest he]

/-- How an operand is read, given how the operands inside it are read. -/
theorem Reads.operand (hr : Reads print read)
    (ho : ∀ operand front, print operand = .ok front → operand.IsPlain .expression →
      ReadsAsOperand read operand (parenthesizedIf (needsParentheses operand) front))
    (h : Written print node text) (hn : node.IsPlain .expression)
    (ha : ∀ parameters body, node ≠ .arrowFunction parameters body) :
    ReadsAsOperand read node text := by
  have hf := hn.fits
  have hw := hn.words.root
  -- suffixes may follow, so that all that is known of the rest is that no word goes on in it
  cases h with
  | identifier =>
    refine .of_primary fun rest he => ?_
    have hne : text.toList ≠ [] := by
      intro hl
      simp [Node.HasPlainWords, hl, isName] at hw
    rw [readPrimary_word hne (isNameChar_of_isName hw), readWord_name hw he]
  | stringLiteral value =>
    refine .of_primary fun rest _ => ?_
    have hx : (Text.quoteDouble value).toList ++ rest =
        '"' :: (value.toList.flatMap Text.quoteDoubleChar ++ '"' :: rest) := by
      simp [Text.quoteDouble, Text.quoteDoubleChars]
    rw [hx, readPrimary, readQuoted_append]
    simp [String.ofList_toList]
  | numericLiteral =>
    refine .of_primary fun rest he => ?_
    rw [readPrimary_word (by simpa using hw.1) (isNameChar_number hw.2),
      readWord_number hw.2 hw.1 he]
  | rawExpression => exact hw.elim
  | @templateLiteral head spans slots hs =>
    refine .of_primary fun rest _ => ?_
    rw [toList_templateSource_append, readPrimary, hr.template hs (hn.all (List.Subset.refl _) hf)]
  | @taggedTemplate tag front head spans slots ht hs =>
    obtain ⟨hf, hl⟩ := Bool.and_eq_true_iff.1 hf
    have hp : (Node.templateLiteral head spans).IsPlain .template :=
      hn.of_mem (List.mem_cons_of_mem _ List.mem_cons_self) hl
    refine (ho tag front ht (hn.of_mem List.mem_cons_self hf)).suffix ?_ fun rest _ => ?_
    · exact ⟨backtick, _, toList_templateSource head slots, by decide⟩
    · rw [toList_templateSource_append, readSuffix,
        hr.template hs (hp.all (List.Subset.refl _) hl)]
      rfl
  | @callExpression callee arguments front texts hc hl =>
    obtain ⟨hf, ha⟩ := Bool.and_eq_true_iff.1 hf
    have hp := hn.all (List.subset_cons_self callee arguments) ha
    rw [String.append_assoc, String.append_assoc]
    refine (ho callee front hc (hn.of_mem List.mem_cons_self hf)).suffix ?_
      fun rest _ => hr.call hl hp callee rest
    exact ⟨'(', (commaSeparated texts).toList ++ [')'], by simp, by decide⟩
  | @propertyAccess expression name front he =>
    rw [String.append_assoc]
    refine (ho expression front he (hn.of_mem List.mem_cons_self hf)).suffix ?_ fun rest hs => ?_
    · exact ⟨'.', name.toList, by simp, by decide⟩
    · have hx : ("." ++ name).toList ++ rest = '.' :: (name.toList ++ rest) := by simp
      rw [hx, readSuffix, readName_append hw hs]
      rfl
  | arrowFunction => exact absurd rfl (ha _ _)
  | @objectLiteral properties texts hl =>
    exact .of_primary fun rest _ => hr.object hl (hn.all (List.Subset.refl _) hf) rest
  | @arrayLiteral elements texts hl =>
    exact .of_primary fun rest _ => hr.array hl (hn.all (List.Subset.refl _) hf) rest

/-! ### Parentheses -/

/-- What stands in parentheses is never taken for parameters. -/
theorem readParameters_eq_none (h : Written print node text) (hn : node.IsPlain .expression)
    (hp : needsParentheses node) (he : EndsWord rest) :
    readList readParameter ')' (text.toList ++ rest) = none := by
  have hw := hn.words.root
  have hs (c : Char) (later : List Char) (hc : isNameChar c = false) (hb : c ≠ ')') :
      readList readParameter ')' (c :: later) = none := by
    refine readList_eq_none ?_ (by simpa using hb)
    rw [readParameter, readName_of_endsWord (by simpa [EndsWord] using hc)]
    rfl
  cases h with
  | numericLiteral =>
    refine readList_eq_none ?_ ?_
    · rw [readParameter, readName_number hw.2 he]
      rfl
    · obtain ⟨hne, hd⟩ := hw
      cases hl : text.toList with
      | nil => exact absurd (String.toList_eq_nil_iff.1 hl) hne
      | cons c later =>
        have hc := hd c (hl ▸ List.mem_cons_self)
        rw [List.cons_append, List.head?_cons]
        rintro ⟨⟩
        simp at hc
  | rawExpression => exact hw.elim
  | arrowFunction =>
    simp only [printParameters, String.toList_append, List.append_assoc]
    exact hs '(' _ (by decide) (by decide)
  | objectLiteral =>
    simp only [String.toList_append, List.append_assoc]
    exact hs '{' _ (by decide) (by decide)
  | _ => cases hp

theorem Reads.parenthesized (hr : Reads (printExpression limit room) read)
    (h : printExpression limit room node = .ok text) (hn : node.IsPlain .expression)
    (hp : needsParentheses node) (rest : List Char) :
    readPrimary read (("(" ++ text ++ ")").toList ++ rest) = some (node, rest) := by
  have hx : ("(" ++ text ++ ")").toList ++ rest =
      '(' :: (text.toList ++ ([')'] ++ rest)) := by simp
  have hc : Stops ([')'] ++ rest) := stops_closer (by simp [closers]) rest
  cases room with
  | zero => cases h
  | succ room =>
    have hl := readParameters_eq_none (written_of_printExpression h) hn hp hc.endsWord
    rw [hx, readPrimary, readEnclosed, hl]
    simp only [Option.bind_eq_bind, Option.bind_some, hr.back node text h hn _ hc, skip_append]
    rfl

theorem Reads.lower (hr : Reads (printExpression limit (room + 1)) read) :
    Reads (printExpression limit room) read :=
  ⟨fun node text h => hr.back node text (printExpression_mono (Nat.le_succ _) h), hr.closed⟩

/-- An operand is read as it is printed, in parentheses if it needs them. -/
theorem readsAsOperand_of_printExpression (hr : Reads (printExpression limit room) read)
    (h : printExpression limit room node = .ok text) (hn : node.IsPlain .expression) :
    ReadsAsOperand read node (parenthesizedIf (needsParentheses node) text) := by
  induction room generalizing node text with
  | zero => cases h
  | succ room ih =>
    cases hp : needsParentheses node with
    | true => exact .of_primary fun rest _ => hr.parenthesized h hn hp rest
    | false =>
      refine hr.lower.operand (fun _ _ => ih hr.lower) (written_of_printExpression h) hn ?_
      rintro parameters body rfl
      cases hp

/-! ### Expressions -/

theorem readSuffixes_of_stops (h : Stops rest) (count : Nat) :
    readSuffixes read count node rest = some (node, rest) := by
  cases count with
  | zero => rfl
  | succ count =>
    have hn : readSuffix read node rest = none := by
      rw [readSuffix.eq_4]
      all_goals
        rintro later rfl
        simp [Stops, backtick] at h
    rw [readSuffixes, hn]

theorem ReadsAsOperand.readsAs (h : ReadsAsOperand (readExpression room) node text) :
    ReadsAs (readExpression (room + 1)) node text := by
  -- there are enough characters for the suffixes, and none is left behind them
  obtain ⟨suffixes, hl, h⟩ := h
  intro rest hs
  obtain ⟨count, hc⟩ := Nat.exists_eq_add_of_le (show suffixes ≤ (text.toList ++ rest).length by
    rw [List.length_append]
    omega)
  rw [readExpression, hc, h count rest hs.endsWord, readSuffixes_of_stops hs]

theorem readsAs_of_primary (h : ∀ rest, Stops rest →
      readPrimary (readExpression room) (text.toList ++ rest) = some (node, rest)) :
    ReadsAs (readExpression (room + 1)) node text := by
  intro rest hs
  rw [readExpression, readOperand, h rest hs]
  exact readSuffixes_of_stops hs _

theorem readExpression_closer {close : Char} (hc : close ∈ closers) (room : Nat)
    (rest : List Char) : readExpression room (close :: rest) = none := by
  cases room with
  | zero => rfl
  | succ room =>
    have hw := readWord_of_endsWord (stops_closer hc rest).endsWord
    have hp : readPrimary (readExpression room) (close :: rest) = none := by
      rw [readPrimary.eq_6, hw]
      all_goals
        rintro later ⟨rfl, -⟩
        simp [closers] at hc
    rw [readExpression, readOperand, hp]
    rfl

/-- An arrow function is read where its body is. -/
theorem readsAs_arrowFunction {parameters : List Parameter} {body : Node}
    (hw : ∀ parameter ∈ parameters,
      isName parameter.name.toList ∧ parameter.typeAnnotation = none)
    (hb : ReadsAs (readExpression room) body back) :
    ReadsAs (readExpression (room + 1)) (.arrowFunction parameters body)
      (printParameters parameters ++ " => " ++ back) := by
  refine readsAs_of_primary fun rest hs => ?_
  have hx : (printParameters parameters ++ " => " ++ back).toList ++ rest =
      '(' :: ((commaSeparated (parameters.map printParameter)).toList ++
        ')' :: ([' ', '=', '>', ' '] ++ (back.toList ++ rest))) := by
    simp [printParameters]
  rw [hx, readPrimary, readEnclosed, readParameters_append hw]
  simp only [Option.bind_eq_bind, Option.bind_some, skip_append, hb rest hs]
  rfl

/-- **A printed expression is read as the tree that it was printed from**, with two levels for each
level of the printer: the body of an arrow function may stand in parentheses. -/
theorem reads_printExpression {levels : Nat} (h : 2 * room ≤ levels) :
    Reads (printExpression limit room) (readExpression levels) := by
  induction room generalizing levels with
  | zero => exact ⟨nofun, fun close hc => readExpression_closer hc levels⟩
  | succ room ih =>
    obtain ⟨levels, rfl⟩ := Nat.exists_eq_add_of_le' (show 2 ≤ levels by omega)
    have hr : Reads (printExpression limit room) (readExpression (levels + 1)) := ih (by omega)
    refine ⟨fun node text hp hn => ?_, fun close hc => readExpression_closer hc _⟩
    have hw := written_of_printExpression hp
    by_cases ha : ∃ parameters body, node = .arrowFunction parameters body
    · obtain ⟨parameters, body, rfl⟩ := ha
      cases hw with
      | @arrowFunction _ _ back hb =>
        have hi : body.IsPlain .expression := hn.of_mem List.mem_cons_self hn.fits
        refine readsAs_arrowFunction hn.words.root ?_
        cases ho : isObjectLiteral body with
        | false => exact hr.back body back hb hi
        | true =>
          -- the parentheses take the level that the printer did not count
          have hl : Reads (printExpression limit room) (readExpression levels) := ih (by omega)
          have hp : needsParentheses body := by
            cases body with
            | objectLiteral => rfl
            | _ => cases ho
          exact readsAs_of_primary fun rest _ => hl.parenthesized hb hi hp rest
    · exact (hr.operand (fun _ _ => readsAsOperand_of_printExpression hr) hw hn
        fun parameters body he => ha ⟨parameters, body, he⟩).readsAs

end Reader

open Printer

variable {node : Node} {text : String} {limit : Int} {room : Nat}

/-- A printed expression reads back as a whole. -/
theorem Node.read?_of_printExpression {levels : Nat} (hl : 2 * room ≤ levels)
    (h : printExpression limit room node = .ok text) (hn : node.IsPlain .expression) :
    Node.read? levels text = some node := by
  have hr := (Reader.reads_printExpression hl).back node text h hn [] nofun
  rw [List.append_nil] at hr
  rw [Node.read?, hr]

/-- **Different trees never print alike**, within whatever limits. -/
theorem eq_of_printWithin {a b : Node} {text : String} {limit other : Int}
    (ha : a.IsPlain .expression) (hb : b.IsPlain .expression)
    (hp : a.printWithin limit = .ok text) (hq : b.printWithin other = .ok text) : a = b := by
  rw [Node.printWithin_of_fits ha.fits] at hp
  rw [Node.printWithin_of_fits hb.fits] at hq
  generalize (Depth.clamp Depth.standardReserve limit).toNat = room at hp
  generalize (Depth.clamp Depth.standardReserve other).toNat = later at hq
  have hp := Node.read?_of_printExpression (Nat.le_add_right (2 * room) (2 * later)) hp ha
  have hq := Node.read?_of_printExpression (Nat.le_add_left (2 * later) (2 * room)) hq hb
  exact Option.some.inj (hp.symm.trans hq)

/-- An arrow function with an object literal for a body, as the base of a member, and a tagged
template with a slot. -/
def callTree : Node :=
  .callExpression
    (.propertyAccess (.arrowFunction [⟨"a", none⟩] (.objectLiteral [])) "x")
    [.taggedTemplate (.identifier "t")
      (.templateLiteral "$" [.templateSpan (.numericLiteral "1") "\x7b\x60"])]

/-- Its source. -/
def callSource : String :=
  "((a) => (\x7b\x7d)).x(t\x60$$\x7b1\x7d\x7b\\\x60\x60)"

/-- No other tree has this source. -/
theorem eq_of_printWithin_call :
    callTree.IsPlain .expression ∧ callTree.printWithin 100 = .ok callSource ∧
      ∀ other : Node, other.IsPlain .expression → other.printWithin 200 = .ok callSource →
        callTree = other := by
  have leaf {node : Node} (h : node.HasPlainWords) (hc : node.children = []) :
      node.Everywhere Node.HasPlainWords := Node.everywhere_iff.2 ⟨h, by simp [hc]⟩
  have wrap (node : Node) {child : Node} (h : node.HasPlainWords) (hc : node.children = [child])
      (hw : child.Everywhere Node.HasPlainWords) : node.Everywhere Node.HasPlainWords :=
    Node.everywhere_iff.2 ⟨h, by simpa [hc] using hw⟩
  have pair (node : Node) {child other : Node} (h : node.HasPlainWords)
      (hc : node.children = [child, other]) (hw : child.Everywhere Node.HasPlainWords)
      (ho : other.Everywhere Node.HasPlainWords) : node.Everywhere Node.HasPlainWords :=
    Node.everywhere_iff.2 ⟨h, by simpa [hc] using ⟨hw, ho⟩⟩
  have hnames : TemplateText.isName "a".toList ∧ TemplateText.isName "x".toList ∧
      TemplateText.isName "t".toList := by decide +kernel
  have hone : (Node.numericLiteral "1").HasPlainWords :=
    ⟨by decide, show ∀ c ∈ ['1'], c.isDigit from List.forall_mem_singleton.2 (by decide)⟩
  have harrow : (Node.arrowFunction [⟨"a", none⟩] (.objectLiteral [])).HasPlainWords :=
    List.forall_mem_singleton.2 ⟨hnames.1, rfl⟩
  have hcallee := wrap (.propertyAccess _ "x") hnames.2.1 rfl
    (wrap (.arrowFunction _ _) harrow rfl (leaf trivial rfl))
  have htag := pair (.taggedTemplate (.identifier "t") _) trivial rfl (leaf hnames.2.2 rfl)
    (wrap (.templateLiteral "$" [_]) trivial rfl
      (wrap (.templateSpan _ "\x7b\x60") trivial rfl (leaf hone rfl)))
  have hplain : callTree.IsPlain .expression :=
    ⟨by decide, pair (.callExpression _ [_]) trivial rfl hcallee htag⟩
  have hprint : callTree.printWithin 100 = .ok callSource := by decide +kernel
  exact ⟨hplain, hprint, fun other ho hp => eq_of_printWithin hplain ho hprint hp⟩

end Polyglot.Source
