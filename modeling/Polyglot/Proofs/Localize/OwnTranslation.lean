import Polyglot.Proofs.Localize.Statements
import Polyglot.Proofs.Message.ShapeId
import Polyglot.Proofs.Source.Printable

/-!
# Messages translated by their own text

A message call may be translated by the very contents that its template is extracted as. The
translation is read from these contents, where a slot is a name or a text that is not looked into.
`print_copyNode_of_contents` says that the call then becomes the same source text as without a
translation, if each slot is a name or an expression that the copy leaves as it is.

Other slots may come out differently: without a translation a string or a message in a slot is taken
into the text, and in the translation it stays a slot.
-/

namespace Polyglot.Localize

open Source Scope Source.Printer Source.TemplateText

variable {context : Context} {scope : Scope} {room : Nat} {node out e later : Node} {place : Place}
  {isRich : Bool} {text : String} {template read : Template} {fragments : List Fragment}

/-! ### Expressions that the copy leaves as they are -/

/-- No rule but those that keep a node applies to it. -/
def IsUntouched (scope : Scope) : Node → Prop
  | .identifier x => statusEvent? scope (.identifier x) = none
  | node => IsWhole scope node

theorem not_isHelperCall_of_isUntouched (h : IsUntouched scope node) :
    ¬IsHelperCall scope node := by
  cases node with
  | callExpression callee arguments =>
    have hr : calleeRole? scope callee = none := h
    simp [IsHelperCall, hr]
  | _ => exact id

/-- A node that no rule touches is the node with its children copied. -/
theorem cases_of_isUntouched {taken : Step} (hu : IsUntouched scope node)
    (h : Rewrites context scope node taken) :
    taken = .done node ∨ taken = .inside (scope.inside node) node := by
  cases h with
  | name => exact .inl rfl
  | event hs =>
    have hr := isReference_of_statusEvent? hs
    cases node with
    | identifier | propertyAccess =>
      have hn : statusEvent? scope _ = none := hu
      rw [hn] at hs
      cases hs
    | _ => cases hr
  | @text callee arguments _ hr _ | @message callee arguments _ _ hr _
  | @locale callee arguments hr =>
    have hn : calleeRole? scope callee = none := hu
    rw [hn] at hr
    cases hr
  | @markup tag literal _ hs =>
    have hn : richTemplate? (.taggedTemplate tag literal) = none := hu
    rw [hn] at hs
    cases hs
  | whole => exact .inr rfl

/-- An expression none of whose nodes is touched by a rule is left as it is. -/
theorem eq_of_copyNode (place : Place) (hp : place.isInner) (hf : node.fits place)
    (hu : ∀ inner part, Stands inner part scope node → IsUntouched inner part)
    (h : (copyNode context scope room node).Returns out) : out = node := by
  induction room using Nat.strongRecOn generalizing scope node out place with
  | ind room ih =>
    obtain ⟨base, taken, hpeel, hs, he⟩ := ends_of_copyNode h
    have hroot := hu scope node .here
    have hi := Node.isInner_of_fits hp hf
    cases hpeel with
    | call hr => exact absurd hr (not_isHelperCall_of_isUntouched hroot)
    | done hn =>
      rcases cases_of_isUntouched hroot (rewrites_of_nodeStep hi hn hs) with rfl | rfl
      · cases he
        rfl
      · cases he with
        | inside ht =>
          obtain ⟨answers, ha, rfl⟩ := Node.exists_of_traverse hi ht fun child hc answer hr => by
            obtain ⟨place, hp, hf⟩ := Node.exists_fits_child hp hf hc
            exact Node.isInner_of_fits hp (fits_of_copyNode hp hf hr)
          have hm := (List.forall₂_and_left _ _).2
            ⟨fun _ (hc : _ ∈ node.children) => hc, ha⟩
          have heq : node.children = answers := by
            rw [← List.forall₂_eq_eq_eq]
            refine hm.imp fun child answer hca => ?_
            obtain ⟨place, hp, hf⟩ := Node.exists_fits_child hp hf hca.1
            exact (ih _ (Nat.lt_succ_self _) place hp hf
              (fun inner part hst => hu inner part (.inside hca.1 hst)) hca.2).symm
          rw [← heq, Node.withChildren_children]

/-! ### Fragments with the same source -/

/-- One expression is written like another in a template. -/
def SameSource (e later : Node) : Prop :=
  ∀ text, printExpression 100 99 e = .ok text → printExpression 100 99 later = .ok text

/-- Two fragments have the same source. -/
inductive SameFragment : Fragment → Fragment → Prop
  | text (words : String) : SameFragment (.text words) (.text words)
  | slot {e later : Node} (h : SameSource e later) : SameFragment (.slot e) (.slot later)

/-- Two slots and the texts after them have the same source. -/
def SameSpan (span other : Source.Span) : Prop :=
  SameSource span.expression other.expression ∧ span.literal = other.literal

theorem SameSource.refl (e : Node) : SameSource e e :=
  fun _ h => h

/-- What is written as a text is written like what that text is the source of. -/
theorem sameSource_of_print (hp : e.print = .ok text)
    (hl : printExpression 100 99 later = .ok text) : SameSource e later := by
  intro other h
  rw [hl, ← hp, print_of_printExpression (by decide) h]

theorem printSlots_of_sameSpan {spans others : List Source.Span} {slots : List (String × String)}
    (h : List.Forall₂ SameSpan spans others)
    (hp : printSlots (printExpression 100 99) (spans.map Span.toNode) = .ok slots) :
    printSlots (printExpression 100 99) (others.map Span.toNode) = .ok slots := by
  rw [printSlots, mapM_eq_ok_iff_forall₂, List.forall₂_map_left_iff] at hp ⊢
  induction h generalizing slots with
  | nil => exact hp
  | cons hs _ ih =>
    obtain ⟨slot, slots, hslot, hslots, rfl⟩ := List.forall₂_cons_left_iff.1 hp
    refine .cons ?_ (ih hslots)
    obtain ⟨source, he, hslot⟩ := bind_eq_ok_iff.1 hslot
    cases hslot
    refine bind_eq_ok_iff.2 ⟨source, hs.1 source he, ?_⟩
    simp only [Span.ofNode_toNode, hs.2]
    rfl

/-- Literals with the same source print alike. -/
theorem print_literalOf {other : Template} (hh : template.head = other.head)
    (hs : List.Forall₂ SameSpan template.spans other.spans)
    (hp : (literalOf isRich template).print = .ok text) :
    (literalOf isRich other).print = .ok text := by
  obtain ⟨head, spans⟩ := template
  obtain ⟨_, others⟩ := other
  cases hh
  have hprint {node : Node} (h : printExpression 100 (99 + 1) node = .ok text) :
      node.print = .ok text := print_of_printExpression (by decide) h
  unfold literalOf at hp ⊢
  split_ifs at hp ⊢ with hr hempty hother hother
  · -- a literal is the outermost of the hundred levels that are printed at most
    have hx : printExpression 100 (99 + 1) (.taggedTemplate (.identifier richTag)
      (.templateLiteral head (spans.map Span.toNode))) = .ok text := hp
    cases written_of_printExpression hx with
    | taggedTemplate ht hslots =>
      exact hprint (Written.taggedTemplate ht (printSlots_of_sameSpan hs hslots)).printed
  · exact hp
  · rw [List.isEmpty_iff.1 hempty] at hs
    cases hs
    exact absurd rfl hother
  · rw [List.isEmpty_iff.1 hother] at hs
    cases hs
    exact absurd rfl hempty
  · have hx : printExpression 100 (99 + 1)
      (.templateLiteral head (spans.map Span.toNode)) = .ok text := hp
    cases written_of_printExpression hx with
    | templateLiteral hslots =>
      exact hprint (Written.templateLiteral (printSlots_of_sameSpan hs hslots)).printed

theorem sameSpan_of_sameFragment {others : List Fragment}
    (h : List.Forall₂ SameFragment fragments others) :
    (Template.ofFragments fragments).head = (Template.ofFragments others).head ∧
      List.Forall₂ SameSpan (Template.ofFragments fragments).spans
        (Template.ofFragments others).spans := by
  induction h with
  | nil => exact ⟨rfl, .nil⟩
  | cons hf _ ih =>
    cases hf with
    | text words => exact ⟨congrArg (words ++ ·) ih.1, ih.2⟩
    | slot hs => exact ⟨rfl, .cons ⟨hs, ih.1⟩ ih.2⟩

/-! ### Slots -/

/-- The text of a slot stands for the name that it is, or for itself. -/
theorem slotExpression?_eq (hb : text.toList ≠ []) (ht : Text.trim text.toList = text.toList) :
    slotExpression? text.toList =
      some (if isName text.toList then .identifier text else .rawExpression text) := by
  rw [slotExpression?, ht]
  split
  · contradiction
  · split_ifs <;> simp

/-- The expression is no literal that the template around its slot takes in. -/
def isOpaque (isRich : Bool) : Node → Bool
  | .stringLiteral _ | .templateLiteral .. => false
  | node => !(isRich && (richTemplate? node).isSome)

/-- The expression of a slot is left as it is: it is a name, or its copy is no other expression and
no literal that is taken in, and its source has no blanks at its ends and does not name the status
event. -/
def Persists (context : Context) (scope : Scope) (isRich : Bool) (e : Node) : Prop :=
  (∃ x, e = .identifier x) ∨
    isOpaque isRich e ∧
      (∀ room copied, (copyNode context scope room e).Returns copied → copied = e) ∧
      ∀ text, e.print = .ok text → Text.trim text.toList = text.toList ∧
        (isName text.toList → statusEvent? scope (.identifier text) = none)

section Slots

variable {flat : Bool → Template → Run (List Fragment)} {copy : Node → Run Node} {copied : Node}
  {answer : Option (List Fragment)} {translated : Context}

theorem inlined_of_isOpaque (h : isOpaque isRich e) : inlined flat isRich e = pure none := by
  cases e with
  | stringLiteral | templateLiteral => cases h
  | taggedTemplate tag literal =>
    cases isRich with
    | false => rfl
    | true =>
      have hn : richTemplate? (.taggedTemplate tag literal) = none := by simpa [isOpaque] using h
      simp only [inlined, hn]
  | _ => cases isRich <;> rfl

/-- What an expression that is taken in only as its copy gives to the template around it. -/
theorem answers_slotFragments (hn : inlined flat isRich e = pure none)
    (hc : (copy e).Answers copied) (ha : inlined flat isRich copied = pure answer) :
    (slotFragments flat copy isRich e).Answers (answer.getD [.slot copied]) := by
  rw [slotFragments, hn]
  refine Run.Answers.bind .pure (Run.Answers.bind hc ?_)
  rw [ha]
  refine Run.Answers.bind .pure ?_
  cases answer with
  | none => exact .pure
  | some => exact .pure

theorem returns_slotFragments (hn : inlined flat isRich e = pure none)
    (h : (slotFragments flat copy isRich e).Returns fragments) :
    ∃ copied, (copy e).Returns copied ∧ ∀ answer, inlined flat isRich copied = pure answer →
      fragments = answer.getD [.slot copied] := by
  rw [slotFragments, hn] at h
  obtain ⟨_, hnone, h⟩ := Run.Returns.of_bind h
  cases Run.Returns.of_pure hnone
  obtain ⟨copied, hc, h⟩ := Run.Returns.of_bind h
  refine ⟨copied, hc, fun answer ha => ?_⟩
  rw [ha] at h
  obtain ⟨_, hanswer, h⟩ := Run.Returns.of_bind h
  cases Run.Returns.of_pure hanswer
  cases answer with
  | none => exact (Run.Returns.of_pure h).symm
  | some => exact (Run.Returns.of_pure h).symm

/-- The copy of a name is the name or the text of the status event. -/
theorem answers_copyNode_identifier {x : String} :
    (copyNode context scope room (.identifier x)).Answers
      ((statusEvent? scope (.identifier x)).getD (.identifier x)) := by
  cases room with
  | zero =>
    rw [copyNode_zero]
    exact .bind (.bind (.ofExcept rfl) .pure) .pure
  | succ room =>
    rw [copyNode_succ]
    exact .bind (.bind (.ofExcept rfl) .pure) .pure

theorem answers_copyNode_rawExpression (text : String) :
    (copyNode context scope (room + 1) (.rawExpression text)).Answers (.rawExpression text) := by
  rw [copyNode_succ]
  exact .bind (.bind (.ofExcept rfl) .pure) .pure

/-- Leaving an expression as it is, unless it is a name, takes a level. -/
theorem ne_zero_of_copyNode (hf : e.fits .expression) (hn : ∀ x, e ≠ .identifier x)
    (ho : isOpaque isRich e) (h : (copyNode context scope room e).Returns e) : room ≠ 0 := by
  rintro rfl
  obtain ⟨base, taken, hp, hs, he⟩ := ends_of_copyNode h
  have hb := ((invariant_true : Invariant context _ _).peeled hp (by rfl) hf trivial).1
  cases he
  cases rewrites_of_nodeStep (Node.isInner_of_fits (by rfl) hb)
    hp.not_isHelperCall hs with
  | name => exact hn _ rfl
  | event | text => cases ho
  | locale =>
    unfold localeObject at hp
    cases hp

theorem isOpaque_identifier {x : String} : isOpaque isRich (.identifier x) := by
  cases isRich <;> rfl

/-- A name gives the same fragments with and without translations. -/
theorem exists_of_slotFragments_identifier {x : String}
    (h : (slotFragments (flatten context scope room) (copyNode context scope room) isRich
      (.identifier x)).Returns fragments) :
    ∃ others, (slotFragments (flatten translated scope room) (copyNode translated scope room) isRich
      (.identifier x)).Answers others ∧ List.Forall₂ SameFragment fragments others := by
  have hn (flat : Bool → Template → Run (List Fragment)) :
      inlined flat isRich (.identifier x) = pure none := inlined_of_isOpaque isOpaque_identifier
  obtain ⟨copied, hc, hg⟩ := returns_slotFragments (hn _) h
  obtain rfl := answers_copyNode_identifier.eq_of_returns hc
  have ht : (copyNode translated scope room (.identifier x)).Answers
      ((statusEvent? scope (.identifier x)).getD (.identifier x)) := answers_copyNode_identifier
  cases hs : statusEvent? scope (.identifier x) with
  | none =>
    rw [hs] at hg ht
    rw [hg none (hn _)]
    exact ⟨_, answers_slotFragments (hn _) ht (hn _), .cons (.slot (.refl _)) .nil⟩
  | some event =>
    rw [hs, eq_of_statusEvent? hs] at hg ht
    rw [hg _ rfl]
    exact ⟨_, answers_slotFragments (hn _) ht rfl, .cons (.text _) .nil⟩

/-- What the source of an expression that is left as it is stands for is left as it is. -/
theorem answers_slotFragments_of_slotExpression? (hroom : room ≠ 0)
    (hs : isName text.toList → statusEvent? scope (.identifier text) = none)
    (hl : later = if isName text.toList then .identifier text else .rawExpression text) :
    (slotFragments (flatten context scope room) (copyNode context scope room) isRich
      later).Answers [.slot later] ∧ printExpression 100 99 later = .ok text := by
  subst hl
  split_ifs with hn
  · have hc : (copyNode context scope room (.identifier text)).Answers
        ((statusEvent? scope (.identifier text)).getD (.identifier text)) :=
      answers_copyNode_identifier
    rw [hs hn] at hc
    exact ⟨answers_slotFragments (inlined_of_isOpaque isOpaque_identifier) hc
      (inlined_of_isOpaque isOpaque_identifier), by rw [printExpression]⟩
  · obtain ⟨inner, rfl⟩ := Nat.exists_eq_succ_of_ne_zero hroom
    have ho : isOpaque isRich (.rawExpression text) := by cases isRich <;> rfl
    exact ⟨answers_slotFragments (inlined_of_isOpaque ho) (answers_copyNode_rawExpression text)
      (inlined_of_isOpaque ho), by rw [printExpression]⟩

/-- A slot and what its source stands for give fragments with the same source. -/
theorem exists_of_slotFragments (translated : Context) {span : Source.Span}
    {slot : String × Source.Span}
    (hf : span.expression.fits .expression) (hw : span.expression.Everywhere Node.HasClosedWords)
    (hp : Persists context scope isRich span.expression) (hs : Holds span slot)
    (h : (slotFragments (flatten context scope room) (copyNode context scope room) isRich
      span.expression).Returns fragments) :
    ∃ others, (slotFragments (flatten translated scope room) (copyNode translated scope room) isRich
      slot.2.expression).Answers others ∧ List.Forall₂ SameFragment fragments others := by
  obtain ⟨source, later, words⟩ := slot
  obtain ⟨e, literal⟩ := span
  obtain ⟨hprint, -, -, hread⟩ := hs
  by_cases hi : ∃ x, e = .identifier x
  · obtain ⟨x, rfl⟩ := hi
    obtain rfl : x = source := Except.ok.inj hprint
    have hname : IsReadable (.identifier x) := hw.root
    obtain rfl := Option.some.inj ((balanced_slotText hname).2.symm.trans hread)
    exact exists_of_slotFragments_identifier h
  · obtain ⟨ho, hk, ht⟩ := hp.resolve_left hi
    obtain ⟨htrim, hname⟩ := ht source hprint
    have hblank : source.toList ≠ [] := by
      intro hb
      rw [slotExpression?, htrim, hb] at hread
      cases hread
    have hlater := Option.some.inj (hread.symm.trans (slotExpression?_eq hblank htrim))
    obtain ⟨copied, hc, hg⟩ := returns_slotFragments (inlined_of_isOpaque ho) h
    obtain rfl := hk room copied hc
    have hroom := ne_zero_of_copyNode hf (fun x hx => hi ⟨x, hx⟩) ho hc
    obtain ⟨ha, hl⟩ := answers_slotFragments_of_slotExpression? hroom hname hlater
    rw [hg none (inlined_of_isOpaque ho)]
    exact ⟨_, ha, .cons (.slot (sameSource_of_print hprint hl)) .nil⟩

theorem exists_of_spansFragments_sameFragment {slot other : Node → Run (List Fragment)}
    {spans others : List Source.Span}
    (hs : List.Forall₂ (fun span later => span.literal = later.literal ∧ ∀ fragments,
      (slot span.expression).Returns fragments → ∃ answers,
        (other later.expression).Answers answers ∧ List.Forall₂ SameFragment fragments answers)
      spans others)
    (h : (spansFragments slot spans).Returns fragments) :
    ∃ answers, (spansFragments other others).Answers answers ∧
      List.Forall₂ SameFragment fragments answers := by
  induction hs generalizing fragments with
  | nil =>
    cases Run.Returns.of_pure h
    exact ⟨[], .pure, .nil⟩
  | @cons span later _ _ hs _ ih =>
    obtain ⟨given, hg, h⟩ := Run.Returns.of_bind h
    obtain ⟨rest, hr, h⟩ := Run.Returns.of_bind h
    cases Run.Returns.of_pure h
    obtain ⟨first, hfirst, hsame⟩ := hs.2 given hg
    obtain ⟨answers, hrest, hrests⟩ := ih hr
    refine ⟨first ++ .text later.literal :: answers, .bind hfirst (.bind hrest .pure), ?_⟩
    exact List.rel_append hsame (.cons (hs.1 ▸ .text _) hrests)

/-- A template and what its contents read as flatten to fragments with the same source. -/
theorem exists_of_flatten_sameFragment (translated : Context)
    {slots : List (String × Source.Span)}
    (hf : ∀ span ∈ template.spans, span.expression.fits .expression)
    (hw : ∀ span ∈ template.spans, span.expression.Everywhere Node.HasClosedWords)
    (hp : ∀ span ∈ template.spans, Persists context scope isRich span.expression)
    (hs : List.Forall₂ Holds template.spans slots)
    (h : (flatten context scope room isRich template).Returns fragments) :
    ∃ answers, (flatten translated scope room isRich ⟨template.head, slots.map (·.2)⟩).Answers
      answers ∧ List.Forall₂ SameFragment fragments answers := by
  cases room with
  | zero =>
    rw [flatten] at h
    exact absurd h Run.Returns.not_throw
  | succ room =>
    rw [flatten] at h ⊢
    obtain ⟨rest, hr, h⟩ := Run.Returns.of_bind h
    cases Run.Returns.of_pure h
    have hmem := (List.forall₂_and_left _ _).2 ⟨fun _ (hm : _ ∈ template.spans) => hm, hs⟩
    have hgive : List.Forall₂ (fun span later => span.literal = later.literal ∧ ∀ fragments,
        (slotFragments (flatten context scope room) (copyNode context scope room) isRich
          span.expression).Returns fragments → ∃ answers,
        (slotFragments (flatten translated scope room) (copyNode translated scope room) isRich
          later.expression).Answers answers ∧ List.Forall₂ SameFragment fragments answers)
        template.spans (slots.map (·.2)) := by
      rw [List.forall₂_map_right_iff]
      refine hmem.imp fun span slot hslot => ⟨hslot.2.2.1.symm, fun fragments hg => ?_⟩
      exact exists_of_slotFragments translated (hf _ hslot.1) (hw _ hslot.1) (hp _ hslot.1)
        hslot.2 hg
    obtain ⟨answers, ha, hsame⟩ := exists_of_spansFragments_sameFragment hgive hr
    exact ⟨.text template.head :: answers, .bind ha .pure, .cons (.text _) hsame⟩

end Slots

/-! ### Calls -/

section Call

variable {callee : Node} {arguments : List Node} {options : Options} {message : Message}

/-- The argument that asks for the text of a template. -/
def argumentOf (isRich : Bool) (template : Template) : Node :=
  if isRich then .taggedTemplate (.identifier richTag) template.toNode else template.toNode

theorem ofNode_argumentOf : TemplateArgument.ofNode (some (argumentOf isRich template)) =
    .ok ⟨.template template, isRich, none⟩ := by
  cases isRich <;>
    simp [TemplateArgument.ofNode, argumentOf, Template.toNode, TemplateArgument.ofLiteral?,
      MessageText.ofNode?, isRichTemplate]

/-- Without translations a call asks for the text of its own template. -/
theorem returns_messageText {given : MessageText × Bool}
    (ha : arguments[0]? = some (argumentOf isRich template)) (ht : context.translations = none)
    (h : (messageText context arguments).Returns given) :
    given = (.template template, isRich) ∧
      ∃ options, Options.ofNode arguments[1]? = .ok options := by
  rw [messageText, ha, ofNode_argumentOf] at h
  obtain ⟨argument, hr, h⟩ := Run.Returns.of_bind h
  cases Run.Returns.of_ofExcept hr
  obtain ⟨options, ho, h⟩ := Run.Returns.of_bind h
  obtain ⟨own, hl, h⟩ := Run.Returns.of_bind h
  rw [localText, ht] at hl
  cases Run.Returns.of_pure hl
  obtain ⟨applied, hp, h⟩ := Run.Returns.of_bind h
  cases Run.Returns.of_ofExcept hp
  exact ⟨(Run.Returns.of_pure h).symm, options, Run.Returns.of_ofExcept ho⟩

/-- With a translation of its own identifier a call asks for what the translation reads as. -/
theorem answers_messageText (context : Context)
    (ha : arguments[0]? = some (argumentOf isRich template))
    (ho : Options.ofNode arguments[1]? = .ok options) (hi : options.id = none)
    (hn : message.name = MessageId.ofStrings template.strings isRich)
    (hp : Template.parse message.contents.body = .ok read) :
    (messageText { context with translations := some [message] } arguments).Answers
      (.template read, isRich) := by
  rw [messageText, ha, ofNode_argumentOf]
  refine .bind (.ofExcept rfl) (.bind (.ofExcept ho) (.bind (a := .template read) ?_ ?_))
  · have hid : options.id.getD (TemplateArgument.shapeId ⟨.template template, isRich, none⟩) =
        message.name := by
      rw [hi, hn]
      rfl
    have hl : lookupMessage message.name [message] = some message :=
      List.find?_cons_of_pos (by simp)
    simp only [hid, localText, hl, translationTemplate, hp]
    exact .map (.ofExcept rfl)
  · exact .bind (.ofExcept rfl) .pure

theorem peel_message (hr : scope.plays .message callee) :
    peel scope (.callExpression callee arguments) = .ok (.callExpression callee arguments) := by
  unfold peel
  rw [calleeRole?_eq_message_iff.2 hr]

/-- Without translations a call becomes the literal of its own template. -/
theorem exists_of_copyNode_message (hr : scope.plays .message callee)
    (ha : arguments[0]? = some (argumentOf isRich template)) (ht : context.translations = none)
    (h : (copyNode context scope room (.callExpression callee arguments)).Returns out) :
    ∃ options inner fragments, Options.ofNode arguments[1]? = .ok options ∧ room = inner + 1 ∧
      (flatten context scope inner isRich template).Returns fragments ∧
      out = literalOf isRich (.ofFragments fragments) := by
  obtain ⟨text, hm, -⟩ | ⟨_, _, inner, fragments, hm, hroom, hf, hout⟩ :=
    cases_of_copyNode_message (calleeRole?_eq_message_iff.2 hr) h
  · obtain ⟨heq, -⟩ := returns_messageText ha ht hm
    cases heq
  · obtain ⟨heq, options, ho⟩ := returns_messageText ha ht hm
    cases heq
    exact ⟨options, inner, fragments, ho, hroom, hf, hout⟩

theorem answers_copyNode_message (hr : scope.plays .message callee)
    (hm : (messageText context arguments).Answers (.template read, isRich))
    (hf : (flatten context scope room isRich read).Answers fragments) :
    (copyNode context scope (room + 1) (.callExpression callee arguments)).Answers
      (literalOf isRich (.ofFragments fragments)) := by
  rw [copyNode_succ]
  refine .bind (a := .message isRich read) ?_ ?_
  · rw [step, peel_message hr]
    refine .bind (.ofExcept rfl) ?_
    rw [nodeStep, callStep, calleeRole?_eq_message_iff.2 hr]
    exact .bind hm .pure
  · exact .bind hf .pure

theorem printExpression_of_print (hf : e.fits .expression) (h : e.print = .ok text) :
    printExpression 100 100 e = .ok text :=
  (Node.printWithin_of_fits hf Depth.standardLimit).symm.trans h

/-- The slots of a template that is extracted read back from its contents. -/
theorem exists_holds_of_contents {contents : Contents}
    (hf : ∀ span ∈ template.spans, span.expression.fits .expression)
    (hw : ∀ span ∈ template.spans, span.expression.Everywhere Node.HasClosedWords)
    (hc : template.contents = .ok contents) :
    ∃ slots, List.Forall₂ Holds template.spans slots ∧
      contents = contentsWith template.head slots := by
  obtain ⟨head, spans⟩ := template
  obtain ⟨pieces, hm, -⟩ := bind_eq_ok_iff.1 hc
  rw [mapM_eq_ok_iff_forall₂] at hm
  have hslots : ∃ slots, List.Forall₂ Holds spans slots := by
    clear hc
    dsimp only at hm hf hw
    induction hm with
    | nil => exact ⟨[], .nil⟩
    | cons hs _ ih =>
      rw [List.forall_mem_cons] at hf hw
      obtain ⟨source, hp, -⟩ := bind_eq_ok_iff.1 hs
      obtain ⟨slot, hslot⟩ := exists_holds (Nat.le_refl 100) (printExpression_of_print hf.1 hp) hw.1
      obtain ⟨slots, hslots⟩ := ih hf.2 hw.2
      exact ⟨slot :: slots, .cons hslot hslots⟩
  obtain ⟨slots, hslots⟩ := hslots
  have heq := contents_eq_contentsWith head hslots
  exact ⟨slots, hslots, Except.ok.inj (hc.symm.trans heq)⟩

/-- **A message translated by its own text stays as it is.** If a call without an identifier of its
own becomes an expression without translations, it becomes one that prints alike when the only
translation has the identifier and the contents of its template, whose slots are left as they
are. -/
theorem print_copyNode_of_contents (isRich : Bool) (template : Template) (message : Message)
    (hr : scope.plays .message callee)
    (ha : arguments[0]? = some (argumentOf isRich template))
    (hi : ∀ options, Options.ofNode arguments[1]? = .ok options → options.id = none)
    (hf : ∀ span ∈ template.spans, span.expression.fits .expression)
    (hw : ∀ span ∈ template.spans, span.expression.Everywhere Node.HasClosedWords)
    (ht : context.translations = none)
    (hp : ∀ span ∈ template.spans, Persists context scope isRich span.expression)
    (hn : message.name = MessageId.ofStrings template.strings isRich)
    (hc : template.contents = .ok message.contents)
    (h : (copyNode context scope room (.callExpression callee arguments)).Returns out) :
    ∃ later, (copyNode { context with translations := some [message] } scope room
        (.callExpression callee arguments)).Answers later ∧
      ∀ text, out.print = .ok text → later.print = .ok text := by
  obtain ⟨options, inner, fragments, ho, rfl, hfl, rfl⟩ := exists_of_copyNode_message hr ha ht h
  obtain ⟨slots, hslots, hcontents⟩ := exists_holds_of_contents hf hw hc
  have hread : Template.parse message.contents.body = .ok ⟨template.head, slots.map (·.2)⟩ := by
    rw [hcontents, parse_body_contentsWith hslots]
  obtain ⟨answers, hanswers, hsame⟩ := exists_of_flatten_sameFragment
    { context with translations := some [message] } hf hw hp hslots hfl
  obtain ⟨hhead, hspans⟩ := sameSpan_of_sameFragment hsame
  have htext := answers_messageText context ha ho (hi options ho) hn hread
  exact ⟨_, answers_copyNode_message hr htext hanswers, fun text => print_literalOf hhead hspans⟩

end Call

/-! ### Two calls -/

theorem ofStrings_ne_empty (strings : List String) (isRich : Bool) :
    MessageId.ofStrings strings isRich ≠ "" := by
  cases isRich <;> simp [MessageId.ofStrings, MessageId.kindLetter]

/-- The message of a template's identifier. -/
def messageOf (isRich : Bool) (template : Template) (contents : Contents) : Message :=
  ⟨MessageId.ofStrings template.strings isRich, contents, ofStrings_ne_empty _ _⟩

/-- The scope of a file that imports the export that asks for messages. -/
def importingScope : Scope :=
  .ofFile ⟨[], [⟨"library", [
      { name := "msg", marks := [Role.message.mark], module := "library" }]⟩]⟩
    ⟨[.importDeclaration { specifier := "library", named := [⟨"msg", none⟩] }], "app.ts"⟩

/-- A template with a name and a call in its slots. -/
def callTemplate : Template :=
  ⟨"Hi ", [⟨.identifier "name", ", "⟩,
    ⟨.callExpression (.identifier "f") [.propertyAccess (.identifier "user") "age"], "!"⟩]⟩

/-- The contents that it is extracted as. -/
def callContents : Contents :=
  [.text "Hi ", .placeholder "$\x7bname\x7d", .text ", ", .placeholder "$\x7bf(user.age)\x7d",
    .text "!"]

theorem print_copyNode_of_contents_call :
    importingScope.plays .message (.identifier "msg") ∧
    callTemplate.contents = .ok callContents ∧
    (copyNode ⟨"en", "app.ts", none, 100⟩ importingScope 100
      (.callExpression (.identifier "msg") [callTemplate.toNode])).Returns callTemplate.toNode ∧
    ∃ later, (copyNode ⟨"en", "app.ts", some [messageOf false callTemplate callContents], 100⟩
        importingScope 100
        (.callExpression (.identifier "msg") [callTemplate.toNode])).Answers later ∧
      ∀ text, callTemplate.toNode.print = .ok text → later.print = .ok text := by
  have hr : importingScope.plays .message (.identifier "msg") := by decide
  have hc : callTemplate.contents = .ok callContents := by decide +kernel
  have hcopy : (copyNode ⟨"en", "app.ts", none, 100⟩ importingScope 100
      (.callExpression (.identifier "msg") [callTemplate.toNode])).Returns callTemplate.toNode := by
    refine ⟨[], [], ?_⟩
    delta copyNode flatten
    rfl
  refine ⟨hr, hc, hcopy, ?_⟩
  have hwords : ∀ span ∈ callTemplate.spans, span.expression.Everywhere Node.HasClosedWords := by
    have hname {x : String} (h : isName x.toList) :
        (Node.identifier x).Everywhere Node.HasClosedWords :=
      Node.everywhere_iff.2 ⟨h, by simp [Node.children]⟩
    refine List.forall_mem_cons.2 ⟨hname (by decide +kernel), List.forall_mem_singleton.2 ?_⟩
    refine Node.everywhere_iff.2 ⟨trivial, List.forall_mem_cons.2 ⟨hname (by decide +kernel), ?_⟩⟩
    refine List.forall_mem_singleton.2 (Node.everywhere_iff.2 ⟨?_, ?_⟩)
    · exact (by decide +kernel : isName "age".toList)
    · exact List.forall_mem_singleton.2 (hname (by decide +kernel))
  have hpersists : ∀ span ∈ callTemplate.spans,
      Persists ⟨"en", "app.ts", none, 100⟩ importingScope false span.expression := by
    refine List.forall_mem_cons.2 ⟨.inl ⟨_, rfl⟩, List.forall_mem_singleton.2 (.inr ⟨rfl, ?_, ?_⟩)⟩
    · intro room copied h
      refine eq_of_copyNode .expression rfl rfl (fun inner part hs => ?_) h
      simp only [stands_iff, Scope.inside, Node.children, standsIn_cons, standsIn_nil,
        or_false] at hs
      rcases hs with ⟨rfl, rfl⟩ | ⟨rfl, rfl⟩ | ⟨rfl, rfl⟩ | ⟨rfl, rfl⟩ <;> rfl
    · intro text ht
      have hp : (Node.callExpression (.identifier "f")
        [.propertyAccess (.identifier "user") "age"]).print = .ok "f(user.age)" := by decide +kernel
      obtain rfl := Except.ok.inj (ht.symm.trans hp)
      decide +kernel
  exact print_copyNode_of_contents false callTemplate
    (messageOf false callTemplate callContents) hr rfl
    (fun options ho => by cases ho; rfl) (by decide) hwords rfl hpersists rfl hc hcopy

/-- A template with a string, a message and markup in its slots. -/
def literalTemplate : Template :=
  ⟨"Hello ", [⟨.stringLiteral "a", " "⟩,
    ⟨.callExpression (.identifier "msg") [.stringLiteral "b"], " "⟩,
    ⟨.taggedTemplate (.identifier "html") (.templateLiteral "c" []), "!"⟩]⟩

/-- The sources of its slots and what these stand for. -/
def literalSlots : List (String × Source.Span) :=
  [("\"a\"", ⟨.rawExpression "\"a\"", " "⟩), ("msg(\"b\")", ⟨.rawExpression "msg(\"b\")", " "⟩),
    ("html\x60c\x60", ⟨.rawExpression "html\x60c\x60", "!"⟩)]

/-- The contents that it is extracted as. -/
def literalContents : Contents :=
  contentsWith "Hello " literalSlots

/-- What these contents read as. -/
def literalReading : Template :=
  ⟨"Hello ", literalSlots.map (·.2)⟩

theorem isSource_of_mem_literalSlots : ∀ slot ∈ literalSlots, IsSource slot := by
  have hraw {text words : String} (hc : IsClosedText text) (hb : text.toList ≠ [])
      (ht : Text.trim text.toList = text.toList) (hn : ¬isName text.toList) :
      IsSource (text, ⟨.rawExpression text, words⟩) :=
    ⟨isClosedText_iff.1 hc, by rw [slotExpression?_eq hb ht, if_neg hn]⟩
  simp only [literalSlots, List.forall_mem_cons, List.not_mem_nil, false_implies, implies_true,
    and_true]
  unfold IsClosedText at hraw
  refine ⟨hraw ?_ ?_ ?_ ?_, hraw ?_ ?_ ?_ ?_, hraw ?_ ?_ ?_ ?_⟩ <;> decide +kernel

theorem hasClosedWords_literalTemplate :
    ∀ span ∈ literalTemplate.spans, span.expression.Everywhere Node.HasClosedWords := by
  have leaf {node : Node} (h : node.HasClosedWords) (hc : node.children = []) :
      node.Everywhere Node.HasClosedWords := Node.everywhere_iff.2 ⟨h, by simp [hc]⟩
  have hmsg : isName "msg".toList := by decide +kernel
  have hhtml : isName "html".toList := by decide +kernel
  simp only [literalTemplate, List.forall_mem_cons, List.not_mem_nil, false_implies,
    implies_true, and_true]
  refine ⟨leaf trivial rfl, Node.everywhere_iff.2 ⟨trivial, ?_⟩,
    Node.everywhere_iff.2 ⟨trivial, ?_⟩⟩
  · exact List.forall_mem_cons.2 ⟨leaf hmsg rfl, List.forall_mem_singleton.2 (leaf trivial rfl)⟩
  · exact List.forall_mem_cons.2 ⟨leaf hhtml rfl, List.forall_mem_singleton.2 (leaf trivial rfl)⟩

/-- Without translations the call has no slots left. -/
theorem returns_copyNode_literalTemplate :
    (copyNode ⟨"en", "app.ts", none, 100⟩ importingScope 100
      (.callExpression (.identifier "msg") [argumentOf true literalTemplate])).Returns
      (.taggedTemplate (.identifier "html") (.templateLiteral "Hello a b c!" [])) := by
  refine ⟨[], [], ?_⟩
  delta copyNode flatten
  rfl

/-- Translated by its own text it keeps them all. -/
theorem answers_copyNode_literalTemplate :
    (copyNode ⟨"en", "app.ts", some [messageOf true literalTemplate literalContents], 100⟩
      importingScope 100
      (.callExpression (.identifier "msg") [argumentOf true literalTemplate])).Answers
      (literalOf true (.ofFragments literalReading.fragments)) := by
  have hread : Template.parse literalContents.body = .ok literalReading := by
    rw [literalContents, body_contentsWith, parse_bodyWith isSource_of_mem_literalSlots]
    rfl
  refine answers_copyNode_message (by decide) (answers_messageText
    ⟨"en", "app.ts", none, 100⟩ rfl rfl rfl rfl hread) ?_
  refine fun before => ⟨before, ?_⟩
  delta flatten
  rfl

/-- Strings, messages and markup are taken into a template as it is written, and stay slots in its
translation. -/
theorem not_forall_print_copyNode :
    ¬∀ (context : Context) (scope : Scope) (room : Nat) (callee : Node) (arguments : List Node)
      (isRich : Bool) (template : Template) (message : Message) (out : Node),
      scope.plays .message callee → arguments[0]? = some (argumentOf isRich template) →
      (∀ options, Options.ofNode arguments[1]? = .ok options → options.id = none) →
      (∀ span ∈ template.spans, span.expression.fits .expression) →
      (∀ span ∈ template.spans, span.expression.Everywhere Node.HasClosedWords) →
      context.translations = none →
      message.name = MessageId.ofStrings template.strings isRich →
      template.contents = .ok message.contents →
      (copyNode context scope room (.callExpression callee arguments)).Returns out →
      ∃ later, (copyNode { context with translations := some [message] } scope room
          (.callExpression callee arguments)).Answers later ∧
        ∀ text, out.print = .ok text → later.print = .ok text := by
  intro h
  have hoptions (options : Options) (ho : Options.ofNode none = .ok options) :
      options.id = none := by
    cases ho
    rfl
  have hcontents : literalTemplate.contents = .ok literalContents := by decide +kernel
  obtain ⟨later, ha, hp⟩ := h ⟨"en", "app.ts", none, 100⟩ importingScope 100 (.identifier "msg")
    [argumentOf true literalTemplate] true literalTemplate
    (messageOf true literalTemplate literalContents) _ (by decide) rfl hoptions (by decide)
    hasClosedWords_literalTemplate rfl rfl hcontents returns_copyNode_literalTemplate
  obtain rfl := ha.eq_of_returns answers_copyNode_literalTemplate.returns
  have hsource := hp "html\x60Hello a b c!\x60" (by decide +kernel)
  have hother : (literalOf true (.ofFragments literalReading.fragments)).print =
      .ok "html\x60Hello $\x7b\"a\"\x7d $\x7bmsg(\"b\")\x7d $\x7bhtml\x60c\x60\x7d!\x60" := by
    decide +kernel
  exact absurd (Except.ok.inj (hsource.symm.trans hother)) (by decide)

end Polyglot.Localize
