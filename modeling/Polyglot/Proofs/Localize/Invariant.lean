import Polyglot.Proofs.Localize.Steps
import Polyglot.Proofs.Scope.Resolution

/-!
# Invariants of the copy

A property of expressions and a property of their copies fit together when each rule of the copy
leads from the one to the other: `Invariant` lists what that asks of each rule.
`Invariant.copyNode` says that then the copy of every expression with the first property has the
second one, and may stand where the expression stood.

A slot may be copied once more after it was copied, so what holds of copies must be enough to copy
them again.
-/

namespace Polyglot.Localize

open Source Scope

/-- The node is of a kind of expressions that is neither a name nor a call nor a function. -/
def isNeutral : Node → Bool
  | .identifier _ | .callExpression .. | .arrowFunction .. => false
  | node => node.isInner

theorem isNeutral_withChildren {node : Node} {answers : List Node} (h : isNeutral node) :
    isNeutral (node.withChildren answers) := by
  fun_cases Node.withChildren node answers <;> first | rfl | exact h

/-- Each rule of the copy leads from nodes with a property to nodes with another one. -/
structure Invariant (context : Context) (before after : Scope → Node → Prop) : Prop where
  again {scope : Scope} {node : Node} : after scope node → before scope node
  part {scope : Scope} {node part : Node} :
    before scope node → PartOf part node → before scope part
  base {scope : Scope} {callee node : Node} : before scope (.callExpression callee [node]) →
    calleeRole? scope callee = some .localized → before scope node
  argument {scope : Scope} {callee argument : Node} {arguments : List Node} :
    before scope (.callExpression callee arguments) → calleeRole? scope callee = some .message →
      argument ∈ arguments → before scope argument
  child {scope : Scope} {node child : Node} : node.isInner → before scope node →
    IsWhole scope node → child ∈ node.children → before (scope.inside node) child
  translated {scope : Scope} {node : Node} : context.translations ≠ none →
    TemplateText.IsReadable node → before scope node
  name {scope : Scope} {x : String} : before scope (.identifier x) →
    statusEvent? scope (.identifier x) = none → after scope (.identifier x)
  markupTag {scope : Scope} {literal : Node} :
    before scope (.taggedTemplate (.identifier richTag) literal) →
      after scope (.identifier richTag)
  messageTag {scope : Scope} {callee literal : Node} {arguments : List Node} :
    before scope (.callExpression callee arguments) → calleeRole? scope callee = some .message →
      (.taggedTemplate (.identifier richTag) literal ∈ arguments ∨ ∃ parameters, arguments[0]? =
        some (.arrowFunction parameters (.taggedTemplate (.identifier richTag) literal))) →
      after scope (.identifier richTag)
  call {scope : Scope} {room : Nat} {callee copied : Node} {arguments others : List Node} :
    before scope (.callExpression callee arguments) → calleeRole? scope callee = none →
      callee.fits .expression → (copyNode context scope room callee).Returns copied →
      after scope copied →
      (∀ other ∈ others, after scope other) → after scope (.callExpression copied others)
  function {scope : Scope} {parameters : List Parameter} {body : Node} :
    (parameters = [] ∨ ∃ own, before scope (.arrowFunction parameters own)) →
      after (scope.child parameters []) body → after scope (.arrowFunction parameters body)
  neutral {scope : Scope} {node : Node} : isNeutral node →
    (∀ child ∈ node.children, after (scope.inside node) child) → after scope node

namespace Invariant

variable {context : Context} {before after : Scope → Node → Prop} {scope : Scope} {room : Nat}
  {node base out : Node} {place : Place} {template : Template} {fragments : List Fragment}
  {isRich : Bool}

/-- What an invariant says about copies within a number of levels. -/
def CopyKeeps (context : Context) (before after : Scope → Node → Prop) (room : Nat) : Prop :=
  ∀ ⦃scope node out place⦄, Place.isInner place → node.fits place → before scope node →
    (copyNode context scope room node).Returns out → out.fits place ∧ after scope out

/-- What an invariant says about flattened templates within a number of levels. -/
def FlattenKeeps (context : Context) (before after : Scope → Node → Prop) (room : Nat) : Prop :=
  ∀ ⦃scope isRich template fragments⦄,
    (∀ span ∈ template.spans, span.expression.fits .expression ∧ before scope span.expression) →
    (flatten context scope room isRich template).Returns fragments →
    ∀ part, .slot part ∈ fragments → part.fits .expression ∧ after scope part

/-! ### Copying -/

theorem place_eq_expression (hp : place.isInner) (h : node.fits place)
    (hn : ¬node.fits .template ∧ ¬node.fits .span ∧ ¬node.fits .property) :
    place = .expression := by
  cases place with
  | expression => rfl
  | template => exact absurd h hn.1
  | span => exact absurd h hn.2.1
  | property => exact absurd h hn.2.2
  | statement | member => cases hp

theorem place_of_call {callee : Node} {arguments : List Node} (hp : place.isInner)
    (h : (Node.callExpression callee arguments).fits place) : place = .expression :=
  place_eq_expression hp h (by simp [Node.fits])

theorem place_of_tagged {tag literal : Node} (hp : place.isInner)
    (h : (Node.taggedTemplate tag literal).fits place) : place = .expression :=
  place_eq_expression hp h (by simp [Node.fits])

theorem place_of_reference (hp : place.isInner) (hr : isReference node) (h : node.fits place) :
    place = .expression := by
  cases node with
  | identifier | propertyAccess => exact place_eq_expression hp h (by simp [Node.fits])
  | _ => cases hr

theorem fits_of_isReadable (h : TemplateText.IsReadable node) : node.fits .expression := by
  cases node with
  | identifier | rawExpression => rfl
  | _ => exact absurd h (by simp [TemplateText.IsReadable])

theorem peeled (I : Invariant context before after) (h : Peeled scope base node)
    (hp : place.isInner) (hf : node.fits place) (hb : before scope node) :
    base.fits place ∧ before scope base := by
  induction h with
  | done => exact ⟨hf, hb⟩
  | call hr _ ih =>
    obtain rfl := place_of_call hp hf
    exact ih (Node.fitsAll_iff.1 (Bool.and_eq_true_iff.1 hf).2 _ List.mem_cons_self) (I.base hb hr)

/-! ### Levels -/

section Levels

variable (I : Invariant context before after) {given slot : Scope → Node → Prop}

include I in
theorem takenIn (hf : FlattenKeeps context before slot room) {part whole : Node}
    (h : TakenIn (flatten context scope room) whole fragments) (hw : whole.fits .expression)
    (hb : before scope whole) (hm : .slot part ∈ fragments) :
    part.fits .expression ∧ slot scope part := by
  obtain ⟨isRich, template, hr, hp⟩ := h
  exact hf (fun span hs => ⟨(hp span hs).fits hw, I.part hb (hp span hs)⟩) hr part hm

include I in
/-- What is known of copies, and of those among them that stay slots, is known of the slots of
flattened templates one level up: a slot is one of these copies, or a slot of a template that was
taken in. -/
theorem flattenKeeps_succ (hc : CopyKeeps context before given room)
    (hf : FlattenKeeps context before slot room)
    (hagain : ∀ {scope node copied}, node.fits .expression → before scope node →
      (copyNode context scope room node).Returns copied → before scope copied)
    (hslot : ∀ {scope node copied isRich}, node.fits .expression → before scope node →
      (copyNode context scope room node).Returns copied →
        (inlined (flatten context scope room) isRich copied).Returns none → slot scope copied) :
    FlattenKeeps context before slot (room + 1) := by
  intro scope isRich template fragments hs h part hm
  obtain ⟨inner, hroom, span, hspan, taken, hg, hm⟩ := exists_of_flatten h hm
  obtain rfl := Nat.succ.inj hroom
  obtain ⟨hw, hb⟩ := hs span hspan
  have hcopy (copied : Node) (h : (copyNode context scope room span.expression).Returns copied) :
      copied.fits .expression := (hc rfl hw hb h).1
  rcases cases_of_slotFragments hg hw hcopy hm with ⟨h, hn⟩ | h | ⟨copied, h, ht⟩
  · exact ⟨hcopy part h, hslot hw hb h hn⟩
  · exact I.takenIn hf h hw hb hm
  · exact I.takenIn hf ht (hcopy copied h) (hagain hw hb h) hm

include I in
/-- What every rule asks of copies and slots a level below, and gives for a copy, holds of copies
and slots at all levels. -/
theorem levels
    (hends : ∀ {room scope node out place taken},
      (∀ inner, room = inner + 1 →
        CopyKeeps context before given inner ∧ FlattenKeeps context before slot inner) →
      Rewrites context scope node taken → Place.isInner place → node.fits place →
      before scope node → Ends context scope room taken out → out.fits place ∧ given scope out)
    (hagain : ∀ {room scope node copied}, CopyKeeps context before given room →
      node.fits .expression → before scope node →
        (copyNode context scope room node).Returns copied → before scope copied)
    (hslot : ∀ {room scope node copied isRich}, CopyKeeps context before given room →
      node.fits .expression → before scope node →
        (copyNode context scope room node).Returns copied →
          (inlined (flatten context scope room) isRich copied).Returns none → slot scope copied)
    (room : Nat) : CopyKeeps context before given room ∧ FlattenKeeps context before slot room := by
  refine levels_induction ?_ ?_ (fun _ hc hf =>
    I.flattenKeeps_succ hc hf (hagain hc) (hslot hc)) room
  · intro room hl scope node out place hp hn hb h
    obtain ⟨base, taken, hpeel, hs, he⟩ := ends_of_copyNode h
    obtain ⟨hn, hb⟩ := I.peeled hpeel hp hn hb
    have hr := rewrites_of_nodeStep (Node.isInner_of_fits hp hn) hpeel.not_isHelperCall hs
    exact hends hl hr hp hn hb he
  · intro scope isRich template fragments _ h part hm
    obtain ⟨inner, hroom, _⟩ := exists_of_flatten h hm
    cases hroom

end Levels

/-! ### Literals and rules -/

theorem literal (I : Invariant context before after)
    (h : ∀ span ∈ template.spans, after scope span.expression) : after scope template.toNode := by
  refine I.neutral rfl fun node hm => ?_
  obtain ⟨span, hs, rfl⟩ := List.mem_map.1 hm
  exact I.neutral rfl (List.forall_mem_singleton.2 (h span hs))

theorem string (I : Invariant context before after) (text : String) :
    after scope (.stringLiteral text) :=
  I.neutral rfl (by simp [Node.children])

theorem tagged (I : Invariant context before after) (ht : after scope (.identifier richTag))
    (h : ∀ span ∈ template.spans, after scope span.expression) :
    after scope (.taggedTemplate (.identifier richTag) template.toNode) :=
  I.neutral rfl (List.forall_mem_cons.2 ⟨ht, List.forall_mem_singleton.2 (I.literal h)⟩)

theorem localeObject (I : Invariant context before after) (locale : String) :
    after scope (localeObject locale) := by
  refine I.neutral rfl (List.forall_mem_singleton.2 ?_)
  refine I.neutral rfl (List.forall_mem_singleton.2 ?_)
  exact I.function (.inl rfl) (I.string locale)

/-- The literal of a message whose slots were taken in. -/
theorem literalOf (I : Invariant context before after)
    (ht : isRich = true → after scope (.identifier richTag))
    (h : ∀ span ∈ template.spans, span.expression.fits .expression ∧ after scope span.expression) :
    (literalOf isRich template).fits .expression ∧ after scope (literalOf isRich template) := by
  unfold Localize.literalOf
  split_ifs with hr hn
  · exact ⟨fits_toNode fun span hs => (h span hs).1, I.tagged (ht hr) fun span hs => (h span hs).2⟩
  · exact ⟨rfl, I.string _⟩
  · exact ⟨fits_toNode fun span hs => (h span hs).1, I.literal fun span hs => (h span hs).2⟩

/-- The slots of the text that a message call asks for have what is asked of expressions. -/
theorem message (I : Invariant context before after) {callee : Node} {arguments : List Node}
    (hb : before scope (.callExpression callee arguments))
    (hr : calleeRole? scope callee = some .message)
    (h : (messageText context arguments).Returns (.template template, isRich))
    (hf : ∀ argument ∈ arguments, argument.fits .expression) :
    ∀ span ∈ template.spans, span.expression.fits .expression ∧ before scope span.expression := by
  intro span hs
  rcases slot_of_messageText h hf hs with ⟨argument, ha, hpart⟩ | ⟨htrans, hread⟩
  · exact ⟨hpart.fits (hf argument ha), I.part (I.argument hb hr ha) hpart⟩
  · exact ⟨fits_of_isReadable hread, I.translated htrans hread⟩

/-- So have the slots of a markup template. -/
theorem markup (I : Invariant context before after) {head : String} {spans : List Node}
    (hb : before scope (.taggedTemplate (.identifier richTag) (.templateLiteral head spans)))
    (hf : (Node.taggedTemplate (.identifier richTag) (.templateLiteral head spans)).fits
      .expression) :
    ∀ span ∈ (Template.ofParts head spans).spans,
      span.expression.fits .expression ∧ before scope span.expression := by
  intro span hs
  have hpart := PartOf.markup (partOf_of_mem_ofParts (Bool.and_eq_true_iff.1 hf).2 hs)
  exact ⟨hpart.fits hf, I.part hb hpart⟩

section Copy

variable (I : Invariant context before after)

include I in
theorem whole (hc : CopyKeeps context before after room) (hw : IsWhole scope node)
    (hp : place.isInner) (hf : node.fits place) (hb : before scope node)
    (h : (node.traverse (copyNode context (scope.inside node) room)).Returns out) :
    out.fits place ∧ after scope out := by
  have hi := Node.isInner_of_fits hp hf
  have hchild (child : Node) (hm : child ∈ node.children) (answer : Node)
      (hr : (copyNode context (scope.inside node) room child).Returns answer) :
      (∀ place : Place, place.isInner → child.fits place → answer.fits place) ∧
        after (scope.inside node) answer := by
    have hcb := I.child hi hb hw hm
    obtain ⟨place, hp, hf⟩ := Node.exists_fits_child hp hf hm
    exact ⟨fun place hp hf => (hc hp hf hcb hr).1, (hc hp hf hcb hr).2⟩
  obtain ⟨answers, ha, rfl⟩ := Node.exists_of_traverse hi h fun child hm answer hr => by
    obtain ⟨place, hp, hf⟩ := Node.exists_fits_child hp hf hm
    exact Node.isInner_of_fits hp ((hchild child hm answer hr).1 place hp hf)
  have hl := ha.length_eq
  have hafter (answer : Node) (hm : answer ∈ answers) : after (scope.inside node) answer := by
    obtain ⟨child, hc, hr⟩ := exists_left_of_forall₂ ha hm
    exact (hchild child hc answer hr).2
  have hm := (List.forall₂_and_left _ _).2 ⟨fun _ (hc : _ ∈ node.children) => hc, ha⟩
  refine ⟨Node.fits_withChildren hp hf (hm.imp fun child answer h =>
    (hchild child h.1 answer h.2).1), ?_⟩
  cases node with
  | identifier => exact hw.elim
  | callExpression callee arguments =>
    obtain ⟨copied, others, hcallee, -, rfl⟩ := List.forall₂_cons_left_iff.1 ha
    obtain rfl := place_of_call hp hf
    exact I.call hb hw (Bool.and_eq_true_iff.1 hf).1 hcallee
      (hafter copied List.mem_cons_self)
      fun other ho => hafter other (List.mem_cons_of_mem _ ho)
  | arrowFunction parameters own =>
    obtain ⟨body, others, -, hn, rfl⟩ := List.forall₂_cons_left_iff.1 ha
    cases hn
    exact I.function (.inr ⟨own, hb⟩) (hafter body List.mem_cons_self)
  | _ =>
    refine I.neutral (isNeutral_withChildren ?_) ?_
    · exact hi
    · rw [Node.children_withChildren hi hl, inside_withChildren hi]
      exact hafter

include I in
/-- What an expression leads to by a rule keeps its place and has the property of copies. -/
theorem ends (hc : ∀ inner, room = inner + 1 → CopyKeeps context before after inner)
    (hf : ∀ inner, room = inner + 1 → FlattenKeeps context before after inner) {taken : Step}
    (hr : Rewrites context scope node taken) (hp : place.isInner) (hn : node.fits place)
    (hb : before scope node) (he : Ends context scope room taken out) :
    out.fits place ∧ after scope out := by
  cases hr with
  | name hs =>
    cases he
    exact ⟨hn, I.name hb hs⟩
  | event hs =>
    cases he
    obtain rfl := place_of_reference hp (isReference_of_statusEvent? hs) hn
    exact ⟨rfl, I.string _⟩
  | text hr =>
    cases he
    obtain rfl := place_of_call hp hn
    exact ⟨rfl, I.string _⟩
  | message hr h =>
    obtain rfl := place_of_call hp hn
    cases he with
    | message hfl =>
      have hargs := Node.fitsAll_iff.1 (Bool.and_eq_true_iff.1 hn).2
      refine I.literalOf (fun hrich => ?_) fun span hs => ?_
      · subst hrich
        obtain ⟨head, spans, hm⟩ := literal_of_messageText h hargs
        exact I.messageTag hb hr hm
      · exact hf _ rfl (I.message hb hr h hargs) hfl _ (slot_mem_of_mem_ofFragments hs)
  | locale hr =>
    cases he
    obtain rfl := place_of_call hp hn
    exact ⟨rfl, I.localeObject _⟩
  | markup h =>
    obtain rfl := place_of_tagged hp hn
    obtain ⟨head, spans, heq, rfl⟩ := richTemplate?_eq_some h
    obtain ⟨rfl, rfl⟩ := Node.taggedTemplate.inj heq
    cases he with
    | @markup _ _ _ fragments hfl =>
      have hkept (span : Source.Span) (hs : span ∈ (Template.ofFragments fragments).spans) :
          span.expression.fits .expression ∧ after scope span.expression :=
        hf _ rfl (I.markup hb hn) hfl _ (slot_mem_of_mem_ofFragments hs)
      refine ⟨Bool.and_eq_true_iff.2 ⟨rfl, fits_toNode fun span hs => (hkept span hs).1⟩, ?_⟩
      exact I.tagged (I.markupTag hb) fun span hs => (hkept span hs).2
  | whole hw =>
    cases he with
    | inside h => exact I.whole (hc _ rfl) hw hp hn hb h

include I in
theorem keeps (room : Nat) :
    CopyKeeps context before after room ∧ FlattenKeeps context before after room :=
  I.levels (fun hl hr hp hn hb he =>
      I.ends (fun inner h => (hl inner h).1) (fun inner h => (hl inner h).2) hr hp hn hb he)
    (fun hc hf hb h => I.again (hc rfl hf hb h).2) (fun hc hf hb h _ => (hc rfl hf hb h).2) room

end Copy

/-- More may be asked of expressions, if it holds of all that stands in what it holds of, of copies
and of what is read from translations. -/
theorem restrict (I : Invariant context before after) {good : Scope → Node → Prop}
    (hdown : ∀ {scope inner node part}, good scope node → Stands inner part scope node →
      good inner part)
    (hagain : ∀ {scope node}, after scope node → good scope node)
    (hread : ∀ {scope node}, TemplateText.IsReadable node → good scope node) :
    Invariant context (fun scope node => before scope node ∧ good scope node) after where
  again h := ⟨I.again h, hagain h⟩
  part h hp := ⟨I.part h.1 hp, hdown h.2 hp.stands⟩
  base h hr :=
    ⟨I.base h.1 hr, hdown h.2 (.inside (List.mem_cons_of_mem _ List.mem_cons_self) .here)⟩
  argument h hr ha := ⟨I.argument h.1 hr ha, hdown h.2 (.inside (List.mem_cons_of_mem _ ha) .here)⟩
  child hi h hw hc := ⟨I.child hi h.1 hw hc, hdown h.2 (.inside hc .here)⟩
  translated hn hr := ⟨I.translated hn hr, hread hr⟩
  name h hs := I.name h.1 hs
  markupTag h := I.markupTag h.1
  messageTag h := I.messageTag h.1
  call h := I.call h.1
  function h := I.function (h.imp_right fun ⟨own, h⟩ => ⟨own, h.1⟩)
  neutral := I.neutral

/-- The copy of an expression may stand where the expression stood and has the property of
copies. -/
theorem copyNode (I : Invariant context before after) (hp : place.isInner) (hn : node.fits place)
    (hb : before scope node) (h : (copyNode context scope room node).Returns out) :
    out.fits place ∧ after scope out :=
  (I.keeps room).1 hp hn hb h

end Invariant

end Polyglot.Localize
