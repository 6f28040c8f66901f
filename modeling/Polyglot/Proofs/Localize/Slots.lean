import Polyglot.Localize.Transform
import Polyglot.Proofs.Source.TemplateText
import Polyglot.Proofs.Source.WellTyped
import Polyglot.Proofs.Scope.Stands

/-!
# Where slots come from

A slot of the text that a message call asks for is a part of an argument of the call, with only
literals, objects and arrays around it, or was read from a translation. A slot of a flattened
template is the copy of a slot's expression, or stands in a literal that is taken in: one that the
expression holds as it is written, or one that its copy holds.
-/

namespace Polyglot.Localize

open Source Scope

/-- An expression is a part of a node, with only literals, objects and arrays around it. -/
inductive PartOf (part : Node) : Node → Prop
  | here : PartOf part part
  | slot {head literal : String} {spans : List Node} {expression : Node}
      (hm : .templateSpan expression literal ∈ spans) (h : PartOf part expression) :
      PartOf part (.templateLiteral head spans)
  | markup {head : String} {spans : List Node} (h : PartOf part (.templateLiteral head spans)) :
      PartOf part (.taggedTemplate (.identifier richTag) (.templateLiteral head spans))
  | property {name : String} {value : Node} {properties : List Node}
      (hm : .propertyAssignment name value ∈ properties) (h : PartOf part value) :
      PartOf part (.objectLiteral properties)
  | element {element : Node} {elements : List Node} (hm : element ∈ elements)
      (h : PartOf part element) : PartOf part (.arrayLiteral elements)

variable {part node expression : Node} {span : Source.Span} {head : String} {spans : List Node}

theorem PartOf.fits (h : PartOf part node) (hn : node.fits .expression) :
    part.fits .expression := by
  induction h with
  | here => exact hn
  | slot hm _ ih => exact ih (Node.fitsAll_iff.1 hn _ hm)
  | markup _ ih => exact ih (Bool.and_eq_true_iff.1 hn).2
  | property hm _ ih => exact ih (Node.fitsAll_iff.1 hn _ hm)
  | element hm _ ih => exact ih (Node.fitsAll_iff.1 hn _ hm)

theorem PartOf.stands {scope : Scope} (h : PartOf part node) : Stands scope part scope node := by
  induction h with
  | here => exact .here
  | slot hm _ ih => exact .inside hm (.inside List.mem_cons_self ih)
  | markup _ ih => exact .inside (List.mem_cons_of_mem _ List.mem_cons_self) ih
  | property hm _ ih => exact .inside hm (.inside List.mem_cons_self ih)
  | element hm _ ih => exact .inside hm ih

/-! ### Slots of templates -/

/-- What a well-typed list of slots holds. -/
theorem templateSpan_of_mem (hn : Node.fitsAll .span spans)
    (hs : span ∈ (Template.ofParts head spans).spans) :
    .templateSpan span.expression span.literal ∈ spans := by
  obtain ⟨node, hm, rfl⟩ := List.mem_map.1 hs
  have hf := Node.fitsAll_iff.1 hn node hm
  cases node with
  | templateSpan => exact hm
  | _ => simp [Node.fits] at hf

theorem partOf_of_mem_ofParts (hn : Node.fitsAll .span spans)
    (hs : span ∈ (Template.ofParts head spans).spans) :
    PartOf span.expression (.templateLiteral head spans) :=
  .slot (templateSpan_of_mem hn hs) .here

theorem richTemplate?_eq_some {template : Template} (h : richTemplate? node = some template) :
    ∃ head spans, node = .taggedTemplate (.identifier richTag) (.templateLiteral head spans) ∧
      template = .ofParts head spans := by
  unfold richTemplate? at h
  split at h
  · split_ifs at h with ht
    rw [eq_of_beq ht]
    exact ⟨_, _, rfl, (Option.some.inj h).symm⟩
  · cases h

theorem slot_mem_of_mem_ofFragments {fragments : List Fragment}
    (h : span ∈ (Template.ofFragments fragments).spans) : .slot span.expression ∈ fragments := by
  induction fragments generalizing span with
  | nil => cases h
  | cons fragment fragments ih =>
    cases fragment with
    | text => exact List.mem_cons_of_mem _ (ih h)
    | slot expression =>
      rcases List.mem_cons.1 h with rfl | h
      · exact List.mem_cons_self
      · exact List.mem_cons_of_mem _ (ih h)

theorem fits_toNode {template : Template}
    (h : ∀ span ∈ template.spans, span.expression.fits .expression) :
    Node.fitsAll .span (template.spans.map Span.toNode) := by
  refine Node.fitsAll_iff.2 fun node hm => ?_
  obtain ⟨span, hs, rfl⟩ := List.mem_map.1 hm
  exact h span hs

/-! ### Texts of messages -/

section MessageText

variable {context : Context} {arguments : List Node} {argument : TemplateArgument}
  {options : Options} {template applied : Template} {isRich : Bool} {id : String}

/-- A literal is read as a template argument. -/
inductive LiteralReads : Node → TemplateArgument → Prop
  | string (text : String) : LiteralReads (.stringLiteral text) ⟨.plain text, false, none⟩
  | template (head : String) (spans : List Node) :
      LiteralReads (.templateLiteral head spans) ⟨.template (.ofParts head spans), false, none⟩
  | markup (head : String) (spans : List Node) :
      LiteralReads (.taggedTemplate (.identifier richTag) (.templateLiteral head spans))
        ⟨.template (.ofParts head spans), true, none⟩

theorem eq_of_isRichTemplate {tag literal : Node}
    (h : isRichTemplate (.taggedTemplate tag literal)) : tag = .identifier richTag := by
  cases tag with
  | identifier => exact congrArg Node.identifier (eq_of_beq h)
  | _ => cases h

theorem literalReads_of_ofLiteral? (h : TemplateArgument.ofLiteral? node = some argument)
    (hn : node.fits .expression) : LiteralReads node argument := by
  cases node with
  | stringLiteral text =>
    cases h
    exact .string text
  | templateLiteral head spans =>
    cases h
    exact .template head spans
  | taggedTemplate tag literal =>
    rw [TemplateArgument.ofLiteral?] at h
    split_ifs at h with ht
    obtain rfl := eq_of_isRichTemplate ht
    have hl : literal.fits .template := (Bool.and_eq_true_iff.1 hn).2
    cases literal with
    | templateLiteral head spans =>
      cases h
      exact .markup head spans
    | _ => simp [Node.fits] at hl
  | _ => cases h

/-- A template argument is a literal, or a function whose body is one. -/
theorem cases_of_ofNode {given : Option Node} (h : TemplateArgument.ofNode given = .ok argument)
    (hn : ∀ node ∈ given, node.fits .expression) :
    (∃ node, given = some node ∧ LiteralReads node argument) ∨
      ∃ parameters body base, given = some (.arrowFunction parameters body) ∧
        LiteralReads body base ∧
        argument = { base with parameters := some (parameters.map (·.name)) } := by
  unfold TemplateArgument.ofNode at h
  split at h
  · cases h
  · next parameters body =>
    split at h
    · next base hb =>
      cases h
      exact .inr ⟨parameters, body, base, rfl,
        literalReads_of_ofLiteral? hb (hn (.arrowFunction parameters body) rfl), rfl⟩
    · cases h
  · next node _ =>
    split at h
    · next base hb =>
      cases h
      exact .inl ⟨node, rfl, literalReads_of_ofLiteral? hb (hn _ rfl)⟩
    · cases h

theorem cases_of_localText {own text : MessageText} (h : (localText context id own).Returns text) :
    text = own ∨ context.translations ≠ none ∧
      ∃ template, text = .template template ∧
        ∀ span ∈ template.spans, TemplateText.IsReadable span.expression := by
  unfold localText at h
  split at h
  · exact .inl (Run.Returns.of_pure h).symm
  · next messages hm =>
    split at h
    · next translation _ =>
      obtain ⟨template, ht, rfl⟩ := Run.Returns.of_map h
      have hp := Run.Returns.of_ofExcept ht
      unfold translationTemplate at hp
      split at hp
      · next hp' =>
        cases hp
        exact .inr ⟨by simp [hm], _, rfl, TemplateText.isReadable_of_parse hp'⟩
      · cases hp
    · exact .inl (Run.Returns.of_pure (Run.Returns.of_report h)).symm

theorem mem_of_substituteSlot {values : List (String × Node)} {later : Source.Span}
    (h : substituteSlot values span = .ok later) : ∃ name, (name, later.expression) ∈ values := by
  unfold substituteSlot at h
  split at h
  · next name heq =>
    split at h
    · next value hv =>
      cases h
      obtain ⟨front, back, rfl, _⟩ := List.lookup_eq_some_iff.1 hv
      exact ⟨name, by simp⟩
    · cases h
  · obtain ⟨text, _, hv⟩ := bind_eq_ok_iff.1 h
    cases hv

/-- A slot holds an argument after parameters were replaced. -/
theorem mem_of_substitute {parameters : List String} {values : List Node}
    (h : substitute parameters values template = .ok applied) (hs : span ∈ applied.spans) :
    span.expression ∈ values := by
  obtain ⟨later, hm, h⟩ := bind_eq_ok_iff.1 h
  cases h
  obtain ⟨own, _, hr⟩ := exists_of_mem_mapM hm hs
  obtain ⟨name, hv⟩ := mem_of_substituteSlot hr
  exact (List.of_mem_zip (List.mem_reverse.1 hv)).2

/-- Arguments are put in only for a function, and then into every slot. -/
theorem cases_of_applyArguments {text : MessageText}
    (h : applyArguments id argument options text = .ok (.template applied)) :
    ∃ template, text = .template template ∧
      (argument.parameters = none ∧ applied = template ∨
        argument.parameters ≠ none ∧ ∀ span ∈ applied.spans, ∃ elements,
          options.arguments = some elements ∧ span.expression ∈ elements) := by
  cases text with
  | plain => cases h
  | template template =>
    refine ⟨template, rfl, ?_⟩
    unfold applyArguments at h
    split at h
    · cases h
    · next heq =>
      cases heq
      split at h
      · next hp =>
        cases h
        exact .inl ⟨hp, rfl⟩
      · next parameters hp =>
        refine .inr ⟨by simp [hp], fun span hs => ?_⟩
        split_ifs at h with hempty
        · cases h
          rw [List.isEmpty_iff.1 hempty] at hs
          cases hs
        · split at h
          · cases h
          · next elements he =>
            obtain ⟨later, hl, heq⟩ := map_eq_ok_iff.1 h
            cases heq
            exact ⟨elements, he, mem_of_substitute hl hs⟩

theorem arguments_of_addProperty {later : Options} (h : options.addProperty node = .ok later) :
    later.arguments = options.arguments ∨
      ∃ name elements, node = .propertyAssignment name (.arrayLiteral elements) ∧
        later.arguments = some elements := by
  unfold Options.addProperty at h
  split at h
  · split_ifs at h
    · obtain ⟨value, _, hv⟩ := bind_eq_ok_iff.1 h
      cases hv
      exact .inl rfl
    · obtain ⟨value, _, hv⟩ := bind_eq_ok_iff.1 h
      cases hv
      exact .inl rfl
    · split at h
      · cases h
        exact .inr ⟨_, _, rfl, rfl⟩
      · cases h
  · split at h <;> cases h

theorem arguments_of_foldlM {properties : List Node} {later : Options} {elements : List Node}
    (h : properties.foldlM Options.addProperty options = .ok later)
    (he : later.arguments = some elements) :
    options.arguments = some elements ∨
      ∃ name, .propertyAssignment name (.arrayLiteral elements) ∈ properties := by
  induction properties generalizing options with
  | nil =>
    cases h
    exact .inl he
  | cons property properties ih =>
    rw [List.foldlM_cons] at h
    obtain ⟨middle, hm, h⟩ := bind_eq_ok_iff.1 h
    rcases ih h with hp | ⟨name, hp⟩
    · rcases arguments_of_addProperty hm with ho | ⟨name, _, rfl, ho⟩
      · exact .inl (ho ▸ hp)
      · obtain rfl := Option.some.inj (ho.symm.trans hp)
        exact .inr ⟨name, List.mem_cons_self⟩
    · exact .inr ⟨name, List.mem_cons_of_mem _ hp⟩

/-- The arguments among the options are parts of the options. -/
theorem partOf_of_options {elements : List Node} (h : Options.ofNode (some node) = .ok options)
    (he : options.arguments = some elements) (hm : part ∈ elements) : PartOf part node := by
  unfold Options.ofNode at h
  split at h
  · next heq => cases heq
  · next properties heq =>
    obtain rfl := Option.some.inj heq
    rcases arguments_of_foldlM h he with hn | ⟨name, hp⟩
    · cases hn
    · exact .property hp (.element hm .here)
  · cases h

/-- A slot of a message's text is a part of an argument of the call, or what stands in a slot of
a translation. -/
theorem slot_of_messageText
    (h : (messageText context arguments).Returns (.template applied, isRich))
    (hf : ∀ argument ∈ arguments, argument.fits .expression) (hs : span ∈ applied.spans) :
    (∃ argument ∈ arguments, PartOf span.expression argument) ∨
      context.translations ≠ none ∧ TemplateText.IsReadable span.expression := by
  obtain ⟨argument, hr, h⟩ := Run.Returns.of_bind h
  obtain ⟨options, ho, h⟩ := Run.Returns.of_bind h
  obtain ⟨text, ht, h⟩ := Run.Returns.of_bind h
  obtain ⟨result, hp, h⟩ := Run.Returns.of_bind h
  obtain ⟨rfl, -⟩ := Prod.mk.inj (Run.Returns.of_pure h)
  obtain ⟨template, rfl, ha⟩ := cases_of_applyArguments (Run.Returns.of_ofExcept hp)
  have hfirst (node : Node) (hn : node ∈ arguments[0]?) : node.fits .expression :=
    hf node (List.mem_of_getElem? hn)
  rcases ha with ⟨hnone, rfl⟩ | ⟨hsome, ha⟩
  · rcases cases_of_localText ht with heq | ⟨hc, _, heq, hread⟩
    · rcases cases_of_ofNode (Run.Returns.of_ofExcept hr) hfirst with
        ⟨node, hn, hl⟩ | ⟨_, _, _, _, _, rfl⟩
      · have hm := List.mem_of_getElem? hn
        refine .inl ⟨node, hm, ?_⟩
        cases hl with
        | string => cases heq
        | template head spans =>
          cases heq
          exact partOf_of_mem_ofParts (hf _ hm) hs
        | markup head spans =>
          cases heq
          exact .markup (partOf_of_mem_ofParts (Bool.and_eq_true_iff.1 (hf _ hm)).2 hs)
      · cases hnone
    · cases heq
      exact .inr ⟨hc, hread span hs⟩
  · obtain ⟨elements, he, hm⟩ := ha span hs
    have ho := Run.Returns.of_ofExcept ho
    cases hn : arguments[1]? with
    | none =>
      rw [hn] at ho
      cases ho
      cases he
    | some node =>
      rw [hn] at ho
      exact .inl ⟨node, List.mem_of_getElem? hn, partOf_of_options ho he hm⟩

/-- A text that holds markup was written as a template with the tag of markup. -/
theorem literal_of_messageText {text : MessageText}
    (h : (messageText context arguments).Returns (text, true))
    (hf : ∀ argument ∈ arguments, argument.fits .expression) :
    ∃ head spans,
      .taggedTemplate (.identifier richTag) (.templateLiteral head spans) ∈ arguments ∨
        ∃ parameters, arguments[0]? = some (.arrowFunction parameters
          (.taggedTemplate (.identifier richTag) (.templateLiteral head spans))) := by
  obtain ⟨argument, hr, h⟩ := Run.Returns.of_bind h
  obtain ⟨options, ho, h⟩ := Run.Returns.of_bind h
  obtain ⟨own, ht, h⟩ := Run.Returns.of_bind h
  obtain ⟨result, hp, h⟩ := Run.Returns.of_bind h
  obtain ⟨-, hrich⟩ := Prod.mk.inj (Run.Returns.of_pure h)
  have hfirst (node : Node) (hn : node ∈ arguments[0]?) : node.fits .expression :=
    hf node (List.mem_of_getElem? hn)
  rcases cases_of_ofNode (Run.Returns.of_ofExcept hr) hfirst with
    ⟨node, hn, hl⟩ | ⟨parameters, body, base, hn, hl, rfl⟩
  · cases hl with
    | markup head spans => exact ⟨head, spans, .inl (List.mem_of_getElem? hn)⟩
    | _ => cases hrich
  · cases hl with
    | markup head spans => exact ⟨head, spans, .inr ⟨parameters, hn⟩⟩
    | _ => cases hrich

end MessageText

/-! ### Flattened templates -/

section Flatten

variable {flat : Bool → Template → Run (List Fragment)} {copy : Node → Run Node} {isRich : Bool}
  {fragments : List Fragment} {whole : Node} {template : Template} {context : Context}
  {scope : Scope} {room : Nat}

/-- The fragments are those of a template that an expression holds as it is written. -/
def TakenIn (flat : Bool → Template → Run (List Fragment)) (whole : Node)
    (fragments : List Fragment) : Prop :=
  ∃ isRich template, (flat isRich template).Returns fragments ∧
    ∀ span ∈ template.spans, PartOf span.expression whole

theorem takenIn_of_inlined (h : (inlined flat isRich whole).Returns (some fragments))
    (hw : whole.fits .expression) (hm : .slot part ∈ fragments) : TakenIn flat whole fragments := by
  unfold inlined at h
  split at h
  · cases Run.Returns.of_pure h
    simp at hm
  · next head spans =>
    obtain ⟨_, hf, heq⟩ := Run.Returns.of_map h
    cases heq
    exact ⟨false, _, hf, fun span hs => partOf_of_mem_ofParts hw hs⟩
  · split at h
    · next template hr =>
      obtain ⟨_, hf, heq⟩ := Run.Returns.of_map h
      cases heq
      obtain ⟨head, spans, rfl, rfl⟩ := richTemplate?_eq_some hr
      exact ⟨true, _, hf, fun span hs =>
        .markup (partOf_of_mem_ofParts (Bool.and_eq_true_iff.1 hw).2 hs)⟩
    · cases Run.Returns.of_pure h

/-- A slot that an expression gives is its copy, which then gives no fragments, or stands in a
template that the expression or its copy holds. -/
theorem cases_of_slotFragments (h : (slotFragments flat copy isRich whole).Returns fragments)
    (hw : whole.fits .expression)
    (hc : ∀ copied, (copy whole).Returns copied → copied.fits .expression)
    (hm : .slot part ∈ fragments) :
    (copy whole).Returns part ∧ (inlined flat isRich part).Returns none ∨
      TakenIn flat whole fragments ∨
        ∃ copied, (copy whole).Returns copied ∧ TakenIn flat copied fragments := by
  obtain ⟨first, hi, h⟩ := Run.Returns.of_bind h
  cases first with
  | some fragments =>
    cases Run.Returns.of_pure h
    exact .inr (.inl (takenIn_of_inlined hi hw hm))
  | none =>
    obtain ⟨copied, hcopy, h⟩ := Run.Returns.of_bind h
    obtain ⟨second, hi, h⟩ := Run.Returns.of_bind h
    cases second with
    | some fragments =>
      cases Run.Returns.of_pure h
      exact .inr (.inr ⟨copied, hcopy, takenIn_of_inlined hi (hc copied hcopy) hm⟩)
    | none =>
      cases Run.Returns.of_pure h
      obtain rfl := Fragment.slot.inj (List.mem_singleton.1 hm)
      exact .inl ⟨hcopy, hi⟩

theorem exists_of_spansFragments {slot : Node → Run (List Fragment)} {spans : List Source.Span}
    (h : (spansFragments slot spans).Returns fragments) (hm : .slot part ∈ fragments) :
    ∃ span ∈ spans, ∃ given, (slot span.expression).Returns given ∧ .slot part ∈ given := by
  induction spans generalizing fragments with
  | nil =>
    cases Run.Returns.of_pure h
    cases hm
  | cons span spans ih =>
    obtain ⟨given, hg, h⟩ := Run.Returns.of_bind h
    obtain ⟨rest, hr, h⟩ := Run.Returns.of_bind h
    cases Run.Returns.of_pure h
    rcases List.mem_append.1 hm with hm | hm
    · exact ⟨span, List.mem_cons_self, given, hg, hm⟩
    · rcases List.mem_cons.1 hm with hm | hm
      · cases hm
      · obtain ⟨other, ho, given⟩ := ih hr hm
        exact ⟨other, List.mem_cons_of_mem _ ho, given⟩

/-- A slot of a flattened template is given by the expression of a slot. -/
theorem exists_of_flatten (h : (flatten context scope room isRich template).Returns fragments)
    (hm : .slot part ∈ fragments) :
    ∃ inner, room = inner + 1 ∧ ∃ span ∈ template.spans, ∃ given,
      (slotFragments (flatten context scope inner) (copyNode context scope inner) isRich
        span.expression).Returns given ∧ .slot part ∈ given := by
  cases room with
  | zero =>
    rw [flatten] at h
    exact absurd h Run.Returns.not_throw
  | succ inner =>
    rw [flatten] at h
    obtain ⟨rest, hr, h⟩ := Run.Returns.of_bind h
    cases Run.Returns.of_pure h
    rcases List.mem_cons.1 hm with hm | hm
    · cases hm
    · exact ⟨inner, rfl, exists_of_spansFragments hr hm⟩

end Flatten

end Polyglot.Localize
