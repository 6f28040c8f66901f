import Polyglot.Localize.CallSite
import Polyglot.Proofs.Source.PrintedSlot

/-!
# Identifiers of templates and of their messages

A template is extracted as a message: its texts, and for each slot a placeholder that holds the
source of the slot. Both have an identifier by their shape, and the message's is found by reading
its body again. `shapeId_contents` says that the two are the same, whatever stands in the slots.
-/

namespace Polyglot

open Source Source.TemplateText Source.Printer

/-- The contents that a template is extracted as. -/
def Source.Template.contents (template : Template) : Except Failure Contents := do
  let slots ← template.spans.mapM fun span => do
    return [.placeholder ("$\x7b" ++ (← span.expression.print) ++ "\x7d"), .text span.literal]
  return .text template.head :: slots.flatten

/-- The contents of a head and of slots, each with its source. -/
def contentsWith (head : String) (slots : List (String × Span)) : Contents :=
  .text head :: slots.flatMap fun slot =>
    [.placeholder ("$\x7b" ++ slot.1 ++ "\x7d"), .text slot.2.literal]

@[simp] theorem body_contentsWith (head : String) (slots : List (String × Span)) :
    (contentsWith head slots).body = bodyWith head slots := by
  apply String.toList_inj.1
  simp [contentsWith, Contents.body, bodyWith, String.toList_join, List.flatMap_map,
    List.map_flatMap, List.flatMap_assoc]

/-- A slot with its source belongs to a slot that prints as this source. -/
def Holds (span : Span) (slot : String × Span) : Prop :=
  span.expression.print = .ok slot.1 ∧ slot.2.literal = span.literal ∧ IsSource slot

theorem contents_eq_contentsWith (head : String) {spans : List Span}
    {slots : List (String × Span)} (h : List.Forall₂ Holds spans slots) :
    Template.contents ⟨head, spans⟩ = .ok (contentsWith head slots) := by
  have hm : (spans.mapM fun span => do
      return [Content.placeholder ("$\x7b" ++ (← span.expression.print) ++ "\x7d"),
        .text span.literal]) =
      .ok (slots.map fun slot =>
        [.placeholder ("$\x7b" ++ slot.1 ++ "\x7d"), .text slot.2.literal]) := by
    rw [mapM_eq_ok_iff_forall₂, List.forall₂_map_right_iff]
    refine h.imp fun span slot hs => ?_
    rw [hs.1, bind_ok, hs.2.1]
    rfl
  rw [Template.contents, hm, contentsWith, List.flatMap_def]
  rfl

/-- What prints within the standard limit prints by itself. -/
theorem print_of_printExpression {node : Node} {room : Nat} {text : String} (hr : room ≤ 100)
    (h : printExpression 100 room node = .ok text) : node.print = .ok text :=
  printNode_of_printExpression (printExpression_mono hr h)

/-- A slot whose words are closed is read back from the text that it prints as. -/
theorem exists_holds {span : Span} {room : Nat} {text : String} (hr : room ≤ 100)
    (hp : printExpression 100 room span.expression = .ok text)
    (hw : span.expression.Everywhere Node.HasClosedWords) : ∃ slot, Holds span slot := by
  obtain ⟨c, hc, hb⟩ := exists_of_printExpression hp hw.root
  have hn : Text.trim text.toList ≠ [] := fun ht => by
    simp [Text.trim_eq_nil_iff.1 ht c hc] at hb
  obtain ⟨expression, he⟩ : ∃ expression, slotExpression? text.toList = some expression := by
    unfold slotExpression?
    split
    · contradiction
    · split_ifs <;> exact ⟨_, rfl⟩
  exact ⟨(text, ⟨expression, span.literal⟩), print_of_printExpression hr hp, rfl,
    balanced_of_printExpression hp hw, he⟩

theorem forall₂_holds_of_printSlots {spans : List Span} {room : Nat}
    {texts : List (String × String)} (hr : room ≤ 100)
    (hp : printSlots (printExpression 100 room) (spans.map Span.toNode) = .ok texts)
    (hw : ∀ span ∈ spans, span.expression.Everywhere Node.HasClosedWords) :
    ∃ slots, List.Forall₂ Holds spans slots := by
  rw [printSlots, mapM_eq_ok_iff_forall₂, List.forall₂_map_left_iff] at hp
  induction hp with
  | nil => exact ⟨[], .nil⟩
  | cons hs _ ih =>
    rw [List.forall_mem_cons] at hw
    obtain ⟨text, hx, -⟩ := bind_eq_ok_iff.1 hs
    obtain ⟨slot, hslot⟩ := exists_holds hr hx hw.1
    obtain ⟨slots, hslots⟩ := ih hw.2
    exact ⟨slot :: slots, .cons hslot hslots⟩

/-- In a printed template every slot prints, and reads back if its words are closed. -/
theorem forall₂_holds_of_print {template : Template} {text : String}
    (hp : template.toNode.print = .ok text)
    (hw : ∀ span ∈ template.spans, span.expression.Everywhere Node.HasClosedWords) :
    ∃ slots, List.Forall₂ Holds template.spans slots := by
  -- a template is the outermost of the hundred levels that are printed at most
  have hx : printExpression 100 (99 + 1)
      (.templateLiteral template.head (template.spans.map Span.toNode)) = .ok text := hp
  cases written_of_printExpression hx with
  | templateLiteral hs => exact forall₂_holds_of_printSlots (by decide) hs hw

/-- The template that the contents of a template read as: the same texts, and in each slot what its
source stands for. -/
theorem parse_body_contentsWith {head : String} {spans : List Span} {slots : List (String × Span)}
    (h : List.Forall₂ Holds spans slots) :
    Template.parse (contentsWith head slots).body = .ok ⟨head, slots.map (·.2)⟩ := by
  have hs : ∀ slot ∈ slots, IsSource slot := by
    induction h with
    | nil => simp
    | cons hs _ ih => exact List.forall_mem_cons.2 ⟨hs.2.2, ih⟩
  rw [body_contentsWith, parse_bodyWith hs]

theorem strings_of_forall₂_holds {head : String} {spans : List Span} {slots : List (String × Span)}
    (h : List.Forall₂ Holds spans slots) :
    Template.strings ⟨head, slots.map (·.2)⟩ = Template.strings ⟨head, spans⟩ := by
  have hl : slots.map (·.2.literal) = spans.map Span.literal := by
    induction h with
    | nil => rfl
    | cons hs _ ih => rw [List.map_cons, List.map_cons, ih, hs.2.1]
  simpa [Template.strings, Function.comp_def] using hl

/-- **A template and the message that it is extracted as have the same identifier.** A template that
prints, with any expressions in its slots whose words are closed, is extracted as contents whose
static texts are those of the template, so a message with these contents has the identifier that the
template has at its call site, for markup and for plain text. -/
theorem shapeId_contents (template : Template) {text : String}
    (hp : template.toNode.print = .ok text)
    (hw : ∀ span ∈ template.spans, span.expression.Everywhere Node.HasClosedWords) :
    ∃ contents, template.contents = .ok contents ∧
      contents.templateStrings = .ok template.strings ∧
      ∀ message : ProgramMessage, message.contents = contents → ∀ parameters,
        message.shapeId = .ok (Localize.TemplateArgument.shapeId
          ⟨.template template, message.isRich, parameters⟩) := by
  obtain ⟨slots, hs⟩ := forall₂_holds_of_print hp hw
  have ht : (contentsWith template.head slots).templateStrings = .ok template.strings := by
    rw [Contents.templateStrings, parse_body_contentsWith hs, map_ok]
    exact congrArg Except.ok (strings_of_forall₂_holds hs)
  refine ⟨contentsWith template.head slots, contents_eq_contentsWith _ hs, ht, ?_⟩
  rintro message hm parameters
  rw [ProgramMessage.shapeId, hm, ht]
  rfl

/-- A template whose slot holds braces and quotes in strings, in a raw text and in a template of its
own. -/
def bracketTemplate : Template :=
  ⟨"$", [⟨.callExpression (.identifier "f") [.stringLiteral "\x7d\"", .templateLiteral "$\x7b"
    [.templateSpan (.objectLiteral [.propertyAssignment "k" (.rawExpression "a ? '\x60' : b")])
      "\x60"]], "\x7b"⟩]⟩

/-- Its source. -/
def bracketSource : String :=
  "\x60$$\x7bf(\"\x7d\\\"\", " ++
    "\x60\\$\x7b$\x7b\x7bk: a ? '\x60' : b\x7d\x7d\\\x60\x60)\x7d\x7b\x60"

theorem shapeId_contents_brackets :
    bracketTemplate.toNode.print = .ok bracketSource ∧
    (∀ span ∈ bracketTemplate.spans, span.expression.Everywhere Node.HasClosedWords) ∧
    ∃ contents, bracketTemplate.contents = .ok contents ∧
      contents.templateStrings = .ok bracketTemplate.strings ∧
      ∀ message : ProgramMessage, message.contents = contents → ∀ parameters,
        message.shapeId = .ok (Localize.TemplateArgument.shapeId
          ⟨.template bracketTemplate, message.isRich, parameters⟩) := by
  have hp : bracketTemplate.toNode.print = .ok bracketSource := by decide +kernel
  have hw : ∀ span ∈ bracketTemplate.spans, span.expression.Everywhere Node.HasClosedWords := by
    have leaf {node : Node} (h : node.HasClosedWords) (hc : node.children = []) :
        node.Everywhere Node.HasClosedWords := Node.everywhere_iff.2 ⟨h, by simp [hc]⟩
    have wrap (node : Node) {child : Node} (h : node.HasClosedWords) (hc : node.children = [child])
        (hw : child.Everywhere Node.HasClosedWords) : node.Everywhere Node.HasClosedWords :=
      Node.everywhere_iff.2 ⟨h, by simpa [hc] using hw⟩
    have hraw : (Node.rawExpression "a ? '\x60' : b").HasClosedWords :=
      ⟨by decide +kernel, by unfold IsClosedText; decide +kernel⟩
    have hnames : isName "f".toList ∧ isName "k".toList := by decide +kernel
    have hproperty := wrap (.propertyAssignment "k" _) hnames.2 rfl (leaf hraw rfl)
    have hslot := wrap (.templateSpan _ "\x60") trivial rfl
      (wrap (.objectLiteral [_]) trivial rfl hproperty)
    have htemplate := wrap (.templateLiteral "$\x7b" [_]) trivial rfl hslot
    refine List.forall_mem_singleton.2 (Node.everywhere_iff.2 ⟨trivial, ?_⟩)
    simp only [Node.children, List.forall_mem_cons, List.not_mem_nil, false_implies, implies_true,
      and_true]
    exact ⟨leaf hnames.1 rfl, leaf trivial rfl, htemplate⟩
  exact ⟨hp, hw, shapeId_contents bracketTemplate hp hw⟩

end Polyglot
