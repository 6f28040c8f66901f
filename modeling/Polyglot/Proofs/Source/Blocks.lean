import Polyglot.Proofs.Source.Printable
import Polyglot.Proofs.Source.PrintedSlot

/-!
# What could be taken for a block

Behind the arrow of a function, and at the start of a statement, an opening brace opens a block. A
printed expression starts with a brace just where it is an object literal or starts with a word that
does, `startsBlock_printExpression_iff`: an object literal further inside stands in parentheses
wherever it would come first, as callee, as base of a member or as tag. So neither a statement nor
the body of a function starts with a brace where no word does: `printed_opens_no_block`.
-/

namespace Polyglot.Source

/-- The text starts with an opening brace. -/
def StartsBlock (text : String) : Prop :=
  text.toList.head? = some '{'

instance (text : String) : Decidable (StartsBlock text) :=
  inferInstanceAs (Decidable (_ = _))

namespace Node

/-- The word of a node that prints as its word alone. -/
def word? : Node → Option String
  | identifier word | numericLiteral word | rawExpression word => some word
  | _ => none

/-- The word that a printed expression starts with, if it is a word or its first operand, which
stands there without parentheses, starts with one. -/
def firstWord? : Node → Option String
  | taggedTemplate operand _ | callExpression operand _ | propertyAccess operand _ =>
    if Printer.needsParentheses operand then none else operand.firstWord?
  | node => node.word?

/-- The word of a node does not start with a brace. -/
def HasUnbracedWord (node : Node) : Prop :=
  ∀ word ∈ node.word?, ¬StartsBlock word

theorem Everywhere.not_startsBlock {node : Node} (h : node.Everywhere HasUnbracedWord) :
    ∀ word ∈ node.firstWord?, ¬StartsBlock word := by
  fun_induction firstWord? node with
  | case1 | case3 | case5 => exact nofun
  | case2 operand _ _ ih | case4 operand _ _ ih | case6 operand _ _ ih =>
    exact ih (h.of_mem List.mem_cons_self)
  | case7 => exact h.root

end Node

namespace Printer

variable {limit : Int} {room level : Nat} {node operand : Node} {text front back : String}

/-! ### How printed expressions start -/

theorem startsBlock_append_iff (hb : ¬StartsBlock back) :
    StartsBlock (front ++ back) ↔ StartsBlock front := by
  unfold StartsBlock at *
  rw [String.toList_append]
  cases front.toList with
  | nil => simpa using hb
  | cons c rest => simp

theorem not_startsBlock_parenthesized : ¬StartsBlock (parenthesizedIf true text) := by
  simp [StartsBlock, parenthesizedIf]

theorem not_startsBlock_templateSource {head : String} {slots : List (String × String)} :
    ¬StartsBlock (templateSource head slots) := by
  simp [StartsBlock, templateSource]

/-- An operand starts with a brace just where it is a word that does or starts with one. -/
theorem startsBlock_operand_iff
    (h : StartsBlock text ↔
      isObjectLiteral operand ∨ ∃ word ∈ operand.firstWord?, StartsBlock word) :
    StartsBlock (parenthesizedIf (needsParentheses operand) text) ↔
      ∃ word ∈ (if needsParentheses operand then none else operand.firstWord?),
        StartsBlock word := by
  by_cases hn : needsParentheses operand
  · simp [hn, not_startsBlock_parenthesized]
  · have ho : isObjectLiteral operand = false := by
      cases operand <;> simp_all [needsParentheses, isObjectLiteral]
    simpa [hn, parenthesizedIf, ho] using h

/-- **How a printed expression starts with a brace**: as an object literal, or with a word that
starts with one. -/
theorem startsBlock_printExpression_iff (h : printExpression limit room node = .ok text) :
    StartsBlock text ↔ isObjectLiteral node ∨ ∃ word ∈ node.firstWord?, StartsBlock word := by
  induction room generalizing node text with
  | zero => cases h
  | succ room ih =>
    cases written_of_printExpression h with
    | identifier | numericLiteral | rawExpression =>
      simp [isObjectLiteral, Node.firstWord?, Node.word?]
    | stringLiteral =>
      simp [isObjectLiteral, Node.firstWord?, Node.word?, StartsBlock, Text.quoteDouble,
        Text.quoteDoubleChars]
    | templateLiteral =>
      simp [isObjectLiteral, Node.firstWord?, Node.word?, not_startsBlock_templateSource]
    | taggedTemplate ht =>
      rw [startsBlock_append_iff not_startsBlock_templateSource, startsBlock_operand_iff (ih ht)]
      simp [isObjectLiteral, Node.firstWord?]
    | callExpression hc =>
      rw [String.append_assoc, String.append_assoc, startsBlock_append_iff (by simp [StartsBlock]),
        startsBlock_operand_iff (ih hc)]
      simp [isObjectLiteral, Node.firstWord?]
    | propertyAccess he =>
      rw [String.append_assoc, startsBlock_append_iff (by simp [StartsBlock]),
        startsBlock_operand_iff (ih he)]
      simp [isObjectLiteral, Node.firstWord?]
    | arrowFunction =>
      simp [isObjectLiteral, Node.firstWord?, Node.word?, StartsBlock, printParameters]
    | objectLiteral => simp [isObjectLiteral, StartsBlock]
    | arrayLiteral => simp [isObjectLiteral, Node.firstWord?, Node.word?, StartsBlock]

/-- Where a block could be opened, only a word does. -/
theorem startsBlock_parenthesized_iff (h : printExpression limit room node = .ok text) :
    StartsBlock (parenthesizedIf (isObjectLiteral node) text) ↔
      ∃ word ∈ node.firstWord?, StartsBlock word := by
  have hiff := startsBlock_printExpression_iff h
  cases node with
  | objectLiteral =>
    simp [isObjectLiteral, not_startsBlock_parenthesized, Node.firstWord?, Node.word?]
  | _ => simpa [isObjectLiteral, parenthesizedIf] using hiff

/-! ### Parts of printed texts -/

/-- A text stands somewhere in another one. -/
def IsPart (part text : String) : Prop :=
  ∃ front back, text = front ++ part ++ back

namespace IsPart

variable {part : String} {texts : List String}

theorem refl (text : String) : IsPart text text :=
  ⟨"", "", by simp⟩

theorem append_left (front : String) (h : IsPart part text) : IsPart part (front ++ text) := by
  obtain ⟨before, after, rfl⟩ := h
  exact ⟨front ++ before, after, by simp [String.append_assoc]⟩

theorem append_right (back : String) (h : IsPart part text) : IsPart part (text ++ back) := by
  obtain ⟨before, after, rfl⟩ := h
  exact ⟨before, after ++ back, by simp [String.append_assoc]⟩

theorem trans (h : IsPart part text) (hb : IsPart text back) : IsPart part back := by
  obtain ⟨before, after, rfl⟩ := hb
  exact (h.append_left before).append_right after

theorem parenthesizedIf (condition : Bool) (h : IsPart part text) :
    IsPart part (parenthesizedIf condition text) := by
  unfold Printer.parenthesizedIf
  split_ifs
  · exact (h.append_left "(").append_right ")"
  · exact h

theorem join (h : part ∈ texts) : IsPart part (String.join texts) := by
  obtain ⟨before, after, rfl⟩ := List.append_of_mem h
  exact ⟨String.join before, String.join after, by simp [String.append_assoc]⟩

theorem commaSeparated (h : part ∈ texts) : IsPart part (commaSeparated texts) := by
  unfold Printer.commaSeparated
  induction texts with
  | nil => cases h
  | cons text texts ih =>
    by_cases hn : texts = []
    · subst hn
      rw [List.mem_singleton.1 h, String.intercalate_singleton]
      exact refl text
    · rw [String.intercalate_cons_of_ne_nil hn]
      rcases List.mem_cons.1 h with rfl | h
      · exact ((refl _).append_right _).append_right _
      · exact (ih h).append_left _

end IsPart

/-! ### Where functions are printed -/

section Functions

variable {parameters : List Parameter} {body tree : Node}

/-- A text holds the printed text of a node. -/
def Holds (limit : Int) (room : Nat) (node : Node) (text : String) : Prop :=
  ∃ part, printExpression limit room node = .ok part ∧ IsPart part text

theorem Holds.isPart (h : Holds limit room node text) (hp : IsPart text back) :
    Holds limit room node back := by
  obtain ⟨part, hprinted, hpart⟩ := h
  exact ⟨part, hprinted, hpart.trans hp⟩

theorem Holds.succ (h : Holds limit room node text) : Holds limit (room + 1) node text := by
  obtain ⟨part, hprinted, hpart⟩ := h
  exact ⟨part, printExpression_mono (Nat.le_succ room) hprinted, hpart⟩

/-- Whatever is printed of a node holds the functions within it. -/
def HoldsFunctions (limit : Int) (room : Nat) (parameters : List Parameter) (body : Node)
    (print : Node → Except Failure String) : Prop :=
  ∀ node text, print node = .ok text → Node.Within (.arrowFunction parameters body) node →
    Holds limit room (.arrowFunction parameters body) text

section Parts

variable {print : Node → Except Failure String} {nodes : List Node}
  (hf : HoldsFunctions limit room parameters body print)

include hf

theorem holds_commaSeparated {texts : List String} (h : nodes.mapM print = .ok texts)
    (hm : node ∈ nodes) (hw : Node.Within (.arrowFunction parameters body) node) :
    Holds limit room (.arrowFunction parameters body) (commaSeparated texts) := by
  obtain ⟨text, ht, hprinted⟩ := exists_right_of_forall₂ (mapM_eq_ok_iff_forall₂.1 h) hm
  exact (hf node text hprinted hw).isPart (.commaSeparated ht)

theorem holds_templateSource {slots : List (String × String)} (head : String)
    (h : printSlots print nodes = .ok slots) (hm : node ∈ nodes)
    (hw : Node.Within (.arrowFunction parameters body) node) :
    Holds limit room (.arrowFunction parameters body) (templateSource head slots) := by
  obtain ⟨slot, ht, hprinted⟩ := exists_right_of_forall₂ (mapM_eq_ok_iff_forall₂.1 h) hm
  obtain ⟨source, he, hprinted⟩ := bind_eq_ok_iff.1 hprinted
  cases hprinted
  have hin : Node.Within (.arrowFunction parameters body) (Span.ofNode node).expression := by
    cases node with
    | templateSpan expression literal =>
      cases hw with
      | inside hc hw => rwa [List.mem_singleton.1 hc] at hw
    | _ => exact hw
  have hpart : IsPart source
      ("$\x7b" ++ source ++ "\x7d" ++ TemplateText.escape (Span.ofNode node).literal) :=
    (((IsPart.refl source).append_left _).append_right _).append_right _
  refine (hf _ source he hin).isPart (hpart.trans ?_)
  have hslot := IsPart.join (List.mem_map_of_mem ht
    (f := fun slot : String × String => "$\x7b" ++ slot.1 ++ "\x7d" ++ TemplateText.escape slot.2))
  exact (hslot.append_left _).append_right _

theorem holdsFunctions_printProperty :
    HoldsFunctions limit room parameters body (printProperty print) := by
  intro property text h hw
  obtain ⟨name, value, back, rfl, hv, rfl⟩ := printProperty_eq_ok_iff.1 h
  cases hw with
  | inside hc hw =>
    rw [List.mem_singleton.1 hc] at hw
    exact (hf value back hv hw).isPart ((IsPart.refl back).append_left _)

end Parts

/-- A printed expression holds the printed text of each function within it. -/
theorem holdsFunctions_printExpression :
    HoldsFunctions limit room parameters body (printExpression limit room) := by
  induction room with
  | zero => exact fun _ _ h => nomatch h
  | succ room ih =>
    intro node text h hw
    cases hw with
    | here => exact ⟨text, h, .refl text⟩
    | @inside _ child hc hw =>
      refine Holds.succ ?_
      cases written_of_printExpression h with
      | identifier | stringLiteral | numericLiteral | rawExpression => cases hc
      | templateLiteral hs => exact holds_templateSource ih _ hs hc hw
      | taggedTemplate ht hs =>
        rcases List.mem_cons.1 hc with rfl | hc
        · exact (ih _ _ ht hw).isPart (((IsPart.refl _).parenthesizedIf _).append_right _)
        · rw [List.mem_singleton.1 hc] at hw
          cases hw with
          | inside hc hw =>
            exact (holds_templateSource ih _ hs hc hw).isPart ((IsPart.refl _).append_left _)
      | callExpression hcallee ha =>
        rcases List.mem_cons.1 hc with rfl | hc
        · exact (ih _ _ hcallee hw).isPart
            (((((IsPart.refl _).parenthesizedIf _).append_right _).append_right _).append_right _)
        · exact (holds_commaSeparated ih ha hc hw).isPart
            (((IsPart.refl _).append_left _).append_right _)
      | propertyAccess he =>
        rw [List.mem_singleton.1 hc] at hw
        exact (ih _ _ he hw).isPart
          ((((IsPart.refl _).parenthesizedIf _).append_right _).append_right _)
      | arrowFunction hb =>
        rw [List.mem_singleton.1 hc] at hw
        exact (ih _ _ hb hw).isPart (((IsPart.refl _).parenthesizedIf _).append_left _)
      | objectLiteral hp =>
        exact (holds_commaSeparated (holdsFunctions_printProperty ih) hp hc hw).isPart
          (((IsPart.refl _).append_left _).append_right _)
      | arrayLiteral he =>
        exact (holds_commaSeparated ih he hc hw).isPart
          (((IsPart.refl _).append_left _).append_right _)

theorem holdsFunctions_lines {print : Node → Except Failure String} {nodes : List Node}
    {lines : List String} (hf : HoldsFunctions limit room parameters body print)
    (h : nodes.mapM print = .ok lines) (hm : node ∈ nodes)
    (hw : Node.Within (.arrowFunction parameters body) node) :
    Holds limit room (.arrowFunction parameters body) (String.join (lines.map (· ++ "\n"))) := by
  obtain ⟨line, hl, hprinted⟩ := exists_right_of_forall₂ (mapM_eq_ok_iff_forall₂.1 h) hm
  have hjoin := IsPart.join (List.mem_map_of_mem hl (f := (· ++ "\n")))
  exact (hf node line hprinted hw).isPart (((IsPart.refl line).append_right _).trans hjoin)

theorem isPart_printBody (level : Nat) (lines : List String) :
    IsPart (String.join (lines.map (· ++ "\n"))) (printBody level lines) :=
  (((IsPart.refl _).append_left _).append_right _).append_right _

/-- What stands behind the head of a class or of a method with parts: their lines, printed with a
level less. -/
def IsBodyOf (print : Nat → Node → Except Failure String) (room level : Nat) (nodes : List Node)
    (text : String) : Prop :=
  nodes ≠ [] → ∃ inner lines, room = inner + 1 ∧ nodes.mapM (print inner) = .ok lines ∧
    text = printBody level lines

/-- What a printed class consists of: its base, if there is one, and the lines of its methods, if
there are any. -/
theorem exists_of_printClass {name : String} {heritage : Option Node} {members : List Node}
    {exported : Bool}
    (h : printStatement limit room level (.classDeclaration name heritage members exported) =
      .ok text) :
    ∃ base, (∀ extended ∈ heritage, ∃ source,
        printExpression limit room extended = .ok source ∧ base = " extends " ++ source) ∧
      ∃ back, IsBodyOf (fun inner => printMethod limit inner (level + 1)) room level members back ∧
        text = indentation level ++
          ((if exported then "export " else "") ++ "class " ++ name ++ base ++ back) := by
  rw [printStatement] at h
  obtain ⟨line, hl, rfl⟩ := map_eq_ok_iff.1 h
  clear h
  extract_lets continued at hl
  have hmembers (base : String) (hl : continued base = .ok line) :
      ∃ back, IsBodyOf (fun inner => printMethod limit inner (level + 1)) room level members back ∧
        line = (if exported then "export " else "") ++ "class " ++ name ++ base ++ back := by
    cases members with
    | nil =>
      cases hl
      exact ⟨_, fun h => absurd rfl h, rfl⟩
    | cons member members =>
      cases room with
      | zero => cases hl
      | succ room =>
        obtain ⟨back, hb, hl⟩ := bind_eq_ok_iff.1 hl
        cases hl
        obtain ⟨lines, hlines, rfl⟩ := map_eq_ok_iff.1 hb
        exact ⟨_, fun _ => ⟨room, lines, rfl, hlines, rfl⟩, rfl⟩
  cases heritage with
  | none =>
    obtain ⟨back, hback, rfl⟩ := hmembers "" hl
    exact ⟨"", by simp, back, hback, rfl⟩
  | some extended =>
    obtain ⟨base, hb, hl⟩ := bind_eq_ok_iff.1 hl
    obtain ⟨source, hs, rfl⟩ := map_eq_ok_iff.1 hb
    obtain ⟨back, hback, rfl⟩ := hmembers _ hl
    refine ⟨_, fun other ho => ?_, back, hback, rfl⟩
    cases ho
    exact ⟨source, hs, rfl⟩

/-- What a printed method consists of: its name with its parameters, and the lines of its
statements, if there are any. -/
theorem exists_of_printMethod (h : printMethod limit room level node = .ok text) :
    ∃ name parameters statements, node = .methodDeclaration name parameters statements ∧
      ∃ back, IsBodyOf (fun inner => printStatement limit inner (level + 1)) room level statements
          back ∧
        text = indentation level ++ name ++ printParameters parameters ++ back := by
  rw [printMethod.eq_def] at h
  cases node with
  | methodDeclaration name parameters statements =>
    refine ⟨name, parameters, statements, rfl, ?_⟩
    cases statements with
    | nil =>
      cases h
      exact ⟨_, fun h => absurd rfl h, rfl⟩
    | cons statement statements =>
      cases room with
      | zero => cases h
      | succ room =>
        obtain ⟨back, hb, hl⟩ := bind_eq_ok_iff.1 h
        cases hl
        obtain ⟨lines, hlines, rfl⟩ := map_eq_ok_iff.1 hb
        exact ⟨_, fun _ => ⟨room, lines, rfl, hlines, rfl⟩, rfl⟩
  | _ => cases h

theorem holdsFunctions_body {print : Nat → Nat → Node → Except Failure String}
    {nodes : List Node}
    (hf : ∀ inner, room = inner + 1 → ∀ level,
      HoldsFunctions limit inner parameters body (print inner level))
    (h : IsBodyOf (fun inner => print inner (level + 1)) room level nodes text) (hm : node ∈ nodes)
    (hw : Node.Within (.arrowFunction parameters body) node) :
    Holds limit room (.arrowFunction parameters body) text := by
  obtain ⟨inner, lines, rfl, hlines, rfl⟩ := h (List.ne_nil_of_mem hm)
  exact ((holdsFunctions_lines (hf inner rfl _) hlines hm hw).isPart
    (isPart_printBody level lines)).succ

/-- A statement holds the functions within it, if the methods in it do one level below. -/
theorem holdsFunctions_printStatement_of
    (hm : ∀ inner, room = inner + 1 → ∀ level,
      HoldsFunctions limit inner parameters body (printMethod limit inner level)) :
    HoldsFunctions limit room parameters body (printStatement limit room level) := by
  intro node text h hw
  cases hw with
  | here =>
    rw [printStatement.eq_def] at h
    obtain ⟨_, h, _⟩ := map_eq_ok_iff.1 h
    cases h
  | @inside _ child hc hw =>
    have hp {source : String} (hs : printExpression limit room child = .ok source) :=
      holdsFunctions_printExpression _ _ hs hw
    cases node with
    | expressionStatement expression =>
      rw [printStatement] at h
      obtain ⟨line, hl, rfl⟩ := map_eq_ok_iff.1 h
      obtain ⟨source, hs, hl⟩ := bind_eq_ok_iff.1 hl
      cases hl
      rw [← List.mem_singleton.1 hc] at hs
      exact (hp hs).isPart
        ((((IsPart.refl source).parenthesizedIf _).append_right _).append_left _)
    | variableDeclaration name initializer keyword exported =>
      rw [printStatement] at h
      obtain ⟨line, hl, rfl⟩ := map_eq_ok_iff.1 h
      cases initializer with
      | none => cases hc
      | some value =>
        obtain ⟨written, hv, hl⟩ := bind_eq_ok_iff.1 hl
        cases hl
        obtain ⟨source, hs, rfl⟩ := map_eq_ok_iff.1 hv
        rw [← List.mem_singleton.1 hc] at hs
        exact (hp hs).isPart
          (((((IsPart.refl source).append_left _).append_left _).append_right _).append_left _)
    | returnStatement expression =>
      cases expression with
      | none => cases hc
      | some expression =>
        rw [printStatement] at h
        obtain ⟨line, hl, rfl⟩ := map_eq_ok_iff.1 h
        obtain ⟨source, hs, hl⟩ := bind_eq_ok_iff.1 hl
        cases hl
        rw [← List.mem_singleton.1 hc] at hs
        exact (hp hs).isPart
          ((((IsPart.refl source).append_left _).append_right _).append_left _)
    | classDeclaration name heritage members exported =>
      obtain ⟨base, hb, back, hmem, rfl⟩ := exists_of_printClass h
      rcases List.mem_append.1 hc with hc | hc
      · obtain ⟨source, hs, rfl⟩ := hb child (Option.mem_toList.1 hc)
        exact (hp hs).isPart
          ((((IsPart.refl source).append_left _).append_left _).append_right _ |>.append_left _)
      · exact (holdsFunctions_body hm hmem hc hw).isPart
          (((IsPart.refl back).append_left _).append_left _)
    | importDeclaration => cases hc
    | _ =>
      rw [printStatement.eq_def] at h
      obtain ⟨_, h, _⟩ := map_eq_ok_iff.1 h
      cases h

/-- A method holds the functions within it, if the statements in it do one level below. -/
theorem holdsFunctions_printMethod_of
    (hs : ∀ inner, room = inner + 1 → ∀ level,
      HoldsFunctions limit inner parameters body (printStatement limit inner level)) :
    HoldsFunctions limit room parameters body (printMethod limit room level) := by
  intro node text h hw
  obtain ⟨name, declared, statements, rfl, back, hback, rfl⟩ := exists_of_printMethod h
  cases hw with
  | inside hc hw =>
    exact (holdsFunctions_body hs hback hc hw).isPart ((IsPart.refl back).append_left _)

theorem holdsFunctions_printStatement_and_printMethod (limit : Int) (room : Nat)
    (parameters : List Parameter) (body : Node) :
    (∀ level, HoldsFunctions limit room parameters body (printStatement limit room level)) ∧
      ∀ level, HoldsFunctions limit room parameters body (printMethod limit room level) := by
  induction room with
  | zero =>
    exact ⟨fun _ => holdsFunctions_printStatement_of fun _ h => absurd h (Nat.succ_ne_zero _).symm,
      fun _ => holdsFunctions_printMethod_of fun _ h => absurd h (Nat.succ_ne_zero _).symm⟩
  | succ room ih =>
    refine ⟨fun level => holdsFunctions_printStatement_of fun inner h => ?_,
      fun level => holdsFunctions_printMethod_of fun inner h => ?_⟩
    · exact Nat.succ.inj h ▸ ih.2
    · exact Nat.succ.inj h ▸ ih.1

/-- A printed tree holds the printed text of each function within it. -/
theorem holdsFunctions_printNode :
    HoldsFunctions limit room parameters body (printNode limit room) := by
  have hs := (holdsFunctions_printStatement_and_printMethod limit room parameters body).1 0
  intro node text h hw
  cases node with
  | sourceFile statements fileName =>
    obtain ⟨lines, hl, hprinted⟩ := bind_eq_ok_iff.1 h
    cases hprinted
    cases hw with
    | inside hc hw => exact holdsFunctions_lines hs hl hc hw
  | importDeclaration | expressionStatement | variableDeclaration | returnStatement
  | classDeclaration => exact hs _ text h hw
  | _ => exact holdsFunctions_printExpression _ text h hw

end Functions

/-! ### Where a block could open -/

/-- Behind its indentation, a printed expression statement does not start with a brace. -/
theorem exists_of_printExpressionStatement
    (h : printStatement limit room level (.expressionStatement node) = .ok text)
    (hw : node.Everywhere Node.HasUnbracedWord) :
    ∃ source, text = indentation level ++ source ∧ ¬StartsBlock source := by
  rw [printStatement] at h
  obtain ⟨source, hs, rfl⟩ := map_eq_ok_iff.1 h
  obtain ⟨inner, hi, hs⟩ := bind_eq_ok_iff.1 hs
  cases hs
  refine ⟨_, rfl, ?_⟩
  rw [startsBlock_append_iff (by decide), startsBlock_parenthesized_iff hi]
  rintro ⟨word, hword, hstarts⟩
  exact hw.not_startsBlock word hword hstarts

/-- Behind its arrow, a printed function does not go on with a brace. -/
theorem exists_of_printArrowFunction {parameters : List Parameter} {body : Node}
    (h : printExpression limit room (.arrowFunction parameters body) = .ok text)
    (hw : body.Everywhere Node.HasUnbracedWord) :
    ∃ inner, printNode limit room body = .ok inner ∧
      text = printParameters parameters ++ " => " ++
        parenthesizedIf (isObjectLiteral body) inner ∧
      ¬StartsBlock (parenthesizedIf (isObjectLiteral body) inner) := by
  cases room with
  | zero => cases h
  | succ room =>
    cases written_of_printExpression h with
    | @arrowFunction _ _ inner hi =>
      have hprinted : printNode limit (room + 1) body = .ok inner :=
        printNode_of_printExpression (printExpression_mono (Nat.le_succ room) hi)
      refine ⟨inner, hprinted, rfl, ?_⟩
      rw [startsBlock_parenthesized_iff hi]
      rintro ⟨word, hword, hstarts⟩
      exact hw.not_startsBlock word hword hstarts

end Printer

open Printer

/-- **A printed statement or function body never opens a block.** In a tree in which no word starts
with a brace, neither does the text of an expression statement, nor does what stands behind the
arrow of a function anywhere in the text of a tree. An expression statement is its expression, an
object literal in parentheses, and a semicolon, so it prints where its expression does. -/
theorem printed_opens_no_block (requested : Int) :
    (∀ (expression : Node) (text : String), expression.Everywhere Node.HasUnbracedWord →
      (Node.expressionStatement expression).printWithin requested = .ok text →
        ¬StartsBlock text) ∧
    (∀ expression : Node, expression.fits .expression →
      (Node.expressionStatement expression).printWithin requested =
        (fun inner => parenthesizedIf (isObjectLiteral expression) inner ++ ";") <$>
          expression.printWithin requested) ∧
    ∀ (tree : Node) (text : String) (parameters : List Parameter) (body : Node),
      tree.Everywhere Node.HasUnbracedWord → tree.printWithin requested = .ok text →
      Node.Within (.arrowFunction parameters body) tree →
        ∃ front inner back, body.printWithin requested = .ok inner ∧
          text = front ++ (printParameters parameters ++ " => " ++
            parenthesizedIf (isObjectLiteral body) inner) ++ back ∧
          ¬StartsBlock (parenthesizedIf (isObjectLiteral body) inner) := by
  refine ⟨fun expression text hw h => ?_, fun expression hf => ?_,
    fun tree text parameters body hw h hin => ?_⟩
  · obtain ⟨source, rfl, hs⟩ := exists_of_printExpressionStatement h hw
    simpa [indentation] using hs
  · rw [Node.printWithin_of_fits hf, Node.printWithin]
    generalize Depth.clamp Depth.standardReserve requested = limit
    change printStatement limit limit.toNat 0 _ = _
    rw [printStatement]
    cases printExpression limit limit.toNat expression with
    | error failure => rfl
    | ok inner => rfl
  · obtain ⟨part, hpart, front, back, rfl⟩ := holdsFunctions_printNode tree text h hin
    have hbody := (hw.of_within hin).of_mem List.mem_cons_self
    obtain ⟨inner, hi, rfl, hs⟩ := exists_of_printArrowFunction hpart hbody
    exact ⟨front, inner, back, hi, rfl, hs⟩

/-- Objects at the left end of a call, behind an arrow, and at the left end of a tag there. -/
def objectChains : Node :=
  .callExpression (.propertyAccess (.objectLiteral []) "a")
    [.arrowFunction [] (.objectLiteral []),
      .arrowFunction [] (.taggedTemplate (.propertyAccess (.objectLiteral []) "b")
        (.templateLiteral "c" []))]

theorem everywhere_objectChains : objectChains.Everywhere Node.HasUnbracedWord := by
  have leaf {node : Node} (h : node.HasUnbracedWord) (hc : node.children = []) :
      node.Everywhere Node.HasUnbracedWord := Node.everywhere_iff.2 ⟨h, by simp [hc]⟩
  have inner {node : Node} (hn : node.word? = none)
      (hc : ∀ child ∈ node.children, child.Everywhere Node.HasUnbracedWord) :
      node.Everywhere Node.HasUnbracedWord :=
    Node.everywhere_iff.2 ⟨by simp [Node.HasUnbracedWord, hn], hc⟩
  have hobject : (Node.objectLiteral []).Everywhere Node.HasUnbracedWord := leaf nofun rfl
  have hmember (name : String) :
      (Node.propertyAccess (.objectLiteral []) name).Everywhere Node.HasUnbracedWord :=
    inner rfl (by simpa [Node.children] using hobject)
  have htagged : (Node.taggedTemplate (.propertyAccess (.objectLiteral []) "b")
      (.templateLiteral "c" [])).Everywhere Node.HasUnbracedWord :=
    inner rfl (by simpa [Node.children] using ⟨hmember "b", leaf nofun rfl⟩)
  have harrow {body : Node} (hb : body.Everywhere Node.HasUnbracedWord) :
      (Node.arrowFunction [] body).Everywhere Node.HasUnbracedWord :=
    inner rfl (by simpa [Node.children] using hb)
  exact inner rfl (by simpa [objectChains, Node.children] using
    ⟨hmember "a", harrow hobject, harrow htagged⟩)

theorem objectChains_open_no_block :
    (Node.expressionStatement objectChains).printWithin 100 =
        .ok "(\x7b\x7d).a(() => (\x7b\x7d), () => (\x7b\x7d).b\x60c\x60);" ∧
      ¬StartsBlock "(\x7b\x7d).a(() => (\x7b\x7d), () => (\x7b\x7d).b\x60c\x60);" ∧
      ∃ front inner back, (Node.objectLiteral []).printWithin 100 = .ok inner ∧
        "(\x7b\x7d).a(() => (\x7b\x7d), () => (\x7b\x7d).b\x60c\x60)" =
          front ++ (printParameters [] ++ " => " ++ parenthesizedIf true inner) ++ back ∧
        ¬StartsBlock (parenthesizedIf true inner) := by
  have hp : objectChains.printWithin 100 =
      .ok "(\x7b\x7d).a(() => (\x7b\x7d), () => (\x7b\x7d).b\x60c\x60)" := rfl
  obtain ⟨hopen, hstatement, harrow⟩ := printed_opens_no_block 100
  have hs := hstatement objectChains rfl
  rw [hp] at hs
  exact ⟨hs, hopen _ _ everywhere_objectChains hs,
    harrow _ _ [] _ everywhere_objectChains hp (.inside (.tail _ (.head _)) .here)⟩

end Polyglot.Source
