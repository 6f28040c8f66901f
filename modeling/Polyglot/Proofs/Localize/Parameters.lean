import Polyglot.Proofs.Localize.OwnTranslation
import Polyglot.Proofs.Searches

/-!
# Parameters of messages

The template of a message may be the body of a function. Its slots then stand for the parameters,
and the call gives an argument for each. `copyNode_substitutes` says what becomes of such a call:
all arguments are put into their slots at once, as they are written at the call, and the template is
then flattened in the scope of the call. A slot that is no parameter with an argument ends the copy,
the first such slot with a failure of its own.

A slot that is no name is shown in the failure, and printing it may fail in turn, where it is higher
than the printer goes.
-/

namespace Polyglot.Localize

open Source Scope Source.Printer

variable {context : Context} {scope : Scope} {room : Nat} {callee body slot value : Node}
  {arguments values : List Node} {names : List String} {parameters : List Parameter}
  {argument : TemplateArgument} {options : Options} {own : MessageText}
  {template applied : Template} {span : Source.Span} {id : String} {failure : Failure}
  {events : List Event}

/-! ### Arguments in slots -/

/-- A slot is the name of a parameter, and a value the argument in its place. -/
def IsFilledBy (names : List String) (values : List Node) (slot value : Node) : Prop :=
  ∃ (i : Nat) (name : String), slot = .identifier name ∧ names[i]? = some name ∧
    values[i]? = some value

/-- No argument belongs into a slot. -/
def IsBad (names : List String) (values : List Node) (span : Source.Span) : Prop :=
  ∀ value, ¬IsFilledBy names values span.expression value

/-- A template has in each slot the argument of the parameter that another one names there. -/
def IsApplied (names : List String) (values : List Node) (template applied : Template) : Prop :=
  applied.head = template.head ∧
    List.Forall₂ (fun span filled => IsFilledBy names values span.expression filled.expression ∧
      filled.literal = span.literal) template.spans applied.spans

/-- The failure at a slot into which no argument belongs: a name is unbound, anything else is no
parameter and shown, if it is not too high to be printed. -/
inductive SlotFailure : Node → Failure → Prop
  | unbound (name : String) : SlotFailure (.identifier name) (.contract (.parameterUnbound name))
  | notParameter {slot : Node} {text : String} (hn : ∀ name, slot ≠ .identifier name)
      (hp : slot.print = .ok text) : SlotFailure slot (.contract (.slotNotParameter text))
  | unprintable {slot : Node} {failure : Failure} (hn : ∀ name, slot ≠ .identifier name)
      (hp : slot.print = .error failure)
      (hf : slot.fits .expression → failure = .depth Depth.standardLimit) : SlotFailure slot failure

theorem slotFailure_of_print (hn : ∀ name, slot ≠ .identifier name)
    (hp : slot.print = .error failure) : SlotFailure slot failure := by
  refine .unprintable hn hp fun hf => ?_
  rw [Node.print, Node.printWithin_of_fits hf] at hp
  exact failsOnlyWith_printExpression hf failure hp

/-- The failure at a slot that does not print is that of printing it. -/
theorem SlotFailure.eq_of_print {other : Failure} (h : SlotFailure slot failure)
    (hn : ∀ name, slot ≠ .identifier name) (hp : slot.print = .error other) : failure = other := by
  cases h with
  | unbound name => exact absurd rfl (hn name)
  | notParameter _ ht =>
    rw [hp] at ht
    cases ht
  | unprintable _ ho => exact Except.error.inj (ho.symm.trans hp)

theorem cases_of_substituteSlot (hn : names.Nodup) (values : List Node) (span : Source.Span) :
    (∃ value, IsFilledBy names values span.expression value ∧
      substituteSlot (names.zip values).reverse span = .ok { span with expression := value }) ∨
    IsBad names values span ∧ ∃ failure, SlotFailure span.expression failure ∧
      substituteSlot (names.zip values).reverse span = .error failure := by
  obtain ⟨slot, literal⟩ := span
  have hbad (h : ∀ name, slot ≠ .identifier name) : IsBad names values ⟨slot, literal⟩ := by
    rintro value ⟨i, name, hs, -⟩
    exact h name hs
  have hother (h : ∀ name, slot ≠ .identifier name)
      (he : substituteSlot (names.zip values).reverse ⟨slot, literal⟩ =
        slot.print >>= fun text => .error (.contract (.slotNotParameter text))) :
      IsBad names values ⟨slot, literal⟩ ∧ ∃ failure, SlotFailure slot failure ∧
        substituteSlot (names.zip values).reverse ⟨slot, literal⟩ = .error failure := by
    refine ⟨hbad h, ?_⟩
    rw [he]
    cases hp : slot.print with
    | ok text => exact ⟨_, .notParameter h hp, rfl⟩
    | error failure => exact ⟨failure, slotFailure_of_print h hp, rfl⟩
  cases slot with
  | identifier name =>
    cases hl : (names.zip values).reverse.lookup name with
    | some value =>
      obtain ⟨i, hi, hv⟩ := (lookup_reverse_zip_iff hn).1 hl
      refine .inl ⟨value, ⟨i, name, rfl, hi, hv⟩, ?_⟩
      simp only [substituteSlot, hl]
    | none =>
      refine .inr ⟨?_, _, .unbound name, ?_⟩
      · rintro value ⟨i, other, hs, hi, hv⟩
        cases hs
        rw [(lookup_reverse_zip_iff hn).2 ⟨i, hi, hv⟩] at hl
        cases hl
      · simp only [substituteSlot, hl]
  | _ => exact .inr (hother (by simp) rfl)

theorem exists_substitute_of_filled (hn : names.Nodup)
    (h : ∀ span ∈ template.spans, ∃ value, IsFilledBy names values span.expression value) :
    ∃ applied, IsApplied names values template applied ∧
      substitute names values template = .ok applied := by
  have hslots : ∀ span ∈ template.spans, ∃ filled : Source.Span,
      (IsFilledBy names values span.expression filled.expression ∧
        filled.literal = span.literal) ∧
      substituteSlot (names.zip values).reverse span = .ok filled := by
    intro span hm
    rcases cases_of_substituteSlot hn values span with ⟨value, hv, he⟩ | ⟨hb, -⟩
    · exact ⟨{ span with expression := value }, ⟨hv, rfl⟩, he⟩
    · obtain ⟨value, hv⟩ := h span hm
      exact absurd hv (hb value)
  obtain ⟨spans, hr, he⟩ := exists_mapM_eq_ok hslots
  refine ⟨{ template with spans }, ⟨rfl, hr⟩, ?_⟩
  rw [substitute, he]
  rfl

theorem exists_substitute_of_isFirst (hn : names.Nodup)
    (h : IsFirst (IsBad names values) template.spans span) :
    ∃ failure, SlotFailure span.expression failure ∧
      substitute names values template = .error failure := by
  rcases cases_of_substituteSlot hn values span with ⟨value, hv, -⟩ | ⟨-, failure, hf, he⟩
  · exact absurd hv (h.1 value)
  · refine ⟨failure, hf, ?_⟩
    have hslots : template.spans.mapM (substituteSlot (names.zip values).reverse) =
        .error failure := by
      refine mapM_eq_error_of_isFirst h he fun other ho => ?_
      rcases cases_of_substituteSlot hn values other with ⟨value, -, he⟩ | ⟨hb, -⟩
      · exact ⟨_, he⟩
      · exact absurd hb ho
    rw [substitute, hslots]
    rfl

/-! ### Calls -/

/-- A message has a template in a locale, and some events are reported when it is looked up: its own
template, if it has no translation, or what its translation reads as. -/
inductive InEffect (context : Context) (id : String) :
    MessageText → Template → List Event → Prop
  | own {template : Template} (hm : context.translations = none) :
      InEffect context id (.template template) template []
  | untranslated {template : Template} {messages : List Message}
      (hm : context.translations = some messages) (hl : lookupMessage id messages = none) :
      InEffect context id (.template template) template [.untranslated context.locale id]
  | translation {own : MessageText} {template : Template} {messages : List Message}
      {translation : Message} (hm : context.translations = some messages)
      (hl : lookupMessage id messages = some translation)
      (hp : Template.parse translation.contents.body = .ok template) :
      InEffect context id own template []

/-- What a template becomes in the place of a call: it is flattened, and is a string if it holds no
markup and no slot is left. -/
def flattenedLiteral (context : Context) (scope : Scope) (isRich : Bool) (template : Template) :
    Nat → Run Node
  | 0 => throw (.depth context.limit)
  | room + 1 => do
    let fragments ← flatten context scope room isRich template
    return literalOf isRich (.ofFragments fragments)

/-- What a text becomes in the place of a call. -/
def literalFor (context : Context) (scope : Scope) (room : Nat) : MessageText × Bool → Run Node
  | (.plain text, false) => return .stringLiteral text
  | (.plain _, true) => throw (.contract .richTemplateIsString)
  | (.template template, isRich) => flattenedLiteral context scope isRich template room

/-- A call becomes the text that it asks for. -/
theorem copyNode_message (hc : scope.plays .message callee) :
    copyNode context scope room (.callExpression callee arguments) =
      messageText context arguments >>= literalFor context scope room := by
  have hs : step context scope (.callExpression callee arguments) =
      callStep context scope callee arguments := by
    rw [step, peel_message hc]
    rfl
  have hr := calleeRole?_eq_message_iff.2 hc
  -- the copy looks at the levels that are left only after the text
  cases room with
  | zero =>
    rw [copyNode_zero, hs, callStep, hr, bind_assoc]
    refine congrArg (messageText context arguments >>= ·) (funext fun given => ?_)
    rcases given with ⟨text | template, _ | _⟩ <;> rfl
  | succ room =>
    rw [copyNode_succ, hs, callStep, hr, bind_assoc]
    refine congrArg (messageText context arguments >>= ·) (funext fun given => ?_)
    rcases given with ⟨text | template, _ | _⟩ <;> rfl

theorem localText_eq (h : InEffect context id own template events) :
    localText context id own = (do
      reportAll events
      return .template template) := by
  cases h with
  | own hm =>
    rw [localText, hm, Run.reportAll_nil]
    rfl
  | untranslated hm hl => simp only [localText, hm, hl, report, reportAll]
  | translation hm hl hp =>
    simp only [localText, hm, hl, translationTemplate, hp, Run.reportAll_nil]
    rfl

/-- A call of a function's template is the template with the arguments in its slots. -/
theorem copyNode_arrow (hc : scope.plays .message callee)
    (ha : arguments[0]? = some (.arrowFunction parameters body))
    (hb : TemplateArgument.ofLiteral? body = some argument)
    (ho : Options.ofNode arguments[1]? = .ok options) (hv : options.arguments = some values)
    (he : InEffect context (options.id.getD argument.shapeId) argument.text template events)
    (hs : template.spans ≠ []) :
    copyNode context scope room (.callExpression callee arguments) = (do
      reportAll events
      let applied ← Run.ofExcept (substitute (parameters.map (·.name)) values template)
      flattenedLiteral context scope argument.isRich applied room) := by
  have hread : TemplateArgument.ofNode arguments[0]? =
      .ok { argument with parameters := some (parameters.map (·.name)) } := by
    rw [ha, TemplateArgument.ofNode]
    simp only [hb]
  have happly (id : String) : applyArguments id
      { argument with parameters := some (parameters.map (·.name)) } options (.template template) =
        .template <$> substitute (parameters.map (·.name)) values template := by
    simp only [applyArguments, List.isEmpty_iff, if_neg hs, hv]
  have hlocal : localText context (options.id.getD (TemplateArgument.shapeId
      { argument with parameters := some (parameters.map (·.name)) })) argument.text = (do
        reportAll events
        return .template template) := localText_eq he
  rw [copyNode_message hc, messageText, hread, ho]
  simp only [Run.ofExcept_ok, pure_bind, hlocal, happly, bind_assoc]
  refine congrArg (liftM (reportAll events) >>= ·) (funext fun _ => ?_)
  cases substitute (parameters.map (·.name)) values template <;> rfl

/-- **Arguments are put into all slots at once, and the first slot without one ends the copy.** Take
a call that asks for a message by a function with distinct parameters over a template, with a list
of arguments among its options, and say that the message's template in the locale, its own one or a
translation's, has a slot. If every slot names a parameter that has an argument, the call is this
template, with the arguments as they are written in the place of the names, flattened in the scope
of the call: no argument is looked through for parameters again. Otherwise the copy fails at the
first slot that does not, whatever the other slots are. -/
theorem copyNode_substitutes (context : Context) (scope : Scope) (room : Nat)
    (hc : scope.plays .message callee)
    (ha : arguments[0]? = some (.arrowFunction parameters body))
    (hb : TemplateArgument.ofLiteral? body = some argument)
    (hn : (parameters.map (·.name)).Nodup)
    (ho : Options.ofNode arguments[1]? = .ok options) (hv : options.arguments = some values)
    (he : InEffect context (options.id.getD argument.shapeId) argument.text template events)
    (hs : template.spans ≠ []) :
    ((∀ span ∈ template.spans, ∃ value,
        IsFilledBy (parameters.map (·.name)) values span.expression value) →
      ∃ applied, IsApplied (parameters.map (·.name)) values template applied ∧
        copyNode context scope room (.callExpression callee arguments) = (do
          reportAll events
          flattenedLiteral context scope argument.isRich applied room)) ∧
    (∀ span, IsFirst (IsBad (parameters.map (·.name)) values) template.spans span →
      ∃ failure, SlotFailure span.expression failure ∧
        copyNode context scope room (.callExpression callee arguments) = (do
          reportAll events
          throw failure)) := by
  rw [copyNode_arrow hc ha hb ho hv he hs]
  refine ⟨fun h => ?_, fun span h => ?_⟩
  · obtain ⟨applied, happlied, hsubst⟩ := exists_substitute_of_filled hn h
    refine ⟨applied, happlied, ?_⟩
    rw [hsubst]
    rfl
  · obtain ⟨failure, hf, hsubst⟩ := exists_substitute_of_isFirst hn h
    refine ⟨failure, hf, ?_⟩
    rw [hsubst]
    rfl

/-! ### Two names -/

/-- The literal of a greeting of two people. -/
def pairLiteral : Node :=
  .templateLiteral "Hi " [.templateSpan (.identifier "a") " and ",
    .templateSpan (.identifier "b") "!"]

/-- A call for the greeting, with some arguments for its parameters. -/
def pairArguments (values : List Node) : List Node :=
  [.arrowFunction [⟨"a", none⟩, ⟨"b", none⟩] pairLiteral,
    .objectLiteral [.propertyAssignment "id" (.stringLiteral "both"),
      .propertyAssignment "args" (.arrayLiteral values)]]

/-- The greeting in another language, which names them the other way round. -/
def pairMessage : Message :=
  ⟨"both", [.text "Hola ", .placeholder "$\x7bb\x7d", .text " y ", .placeholder "$\x7ba\x7d"],
    by decide⟩

/-- What it reads as. -/
def pairTemplate : Template :=
  ⟨"Hola ", [⟨.identifier "b", " y "⟩, ⟨.identifier "a", ""⟩]⟩

/-- The locale of that language. -/
def pairContext : Context :=
  ⟨"es", "app.ts", some [pairMessage], 100⟩

theorem copyNode_substitutes_pair :
    importingScope.plays .message (.identifier "msg") ∧ ["a", "b"].Nodup ∧
    InEffect pairContext "both" (.template (.ofParts "Hi " [.templateSpan (.identifier "a") " and ",
      .templateSpan (.identifier "b") "!"])) pairTemplate [] ∧
    (∃ applied, IsApplied ["a", "b"] [.identifier "b", .propertyAccess (.identifier "a") "name"]
        pairTemplate applied ∧
      copyNode pairContext importingScope 100 (.callExpression (.identifier "msg")
        (pairArguments [.identifier "b", .propertyAccess (.identifier "a") "name"])) = (do
          reportAll []
          flattenedLiteral pairContext importingScope false applied 100)) ∧
    ∃ failure, SlotFailure (.identifier "b") failure ∧
      copyNode pairContext importingScope 100 (.callExpression (.identifier "msg")
        (pairArguments [.identifier "x"])) = (do
          reportAll []
          throw failure) := by
  have hc : importingScope.plays .message (.identifier "msg") := by decide
  have hn : ["a", "b"].Nodup := by decide
  have he : InEffect pairContext "both" (.template (.ofParts "Hi " [
      .templateSpan (.identifier "a") " and ", .templateSpan (.identifier "b") "!"]))
      pairTemplate [] := .translation rfl rfl rfl
  have hs : pairTemplate.spans ≠ [] := by simp [pairTemplate]
  have ha (values : List Node) : (pairArguments values)[0]? =
      some (.arrowFunction [⟨"a", none⟩, ⟨"b", none⟩] pairLiteral) := rfl
  have h (values : List Node) := copyNode_substitutes pairContext importingScope 100 hc (ha values)
    rfl hn rfl rfl he hs
  refine ⟨hc, hn, he, (h _).1 ?_, (h _).2 ⟨.identifier "b", " y "⟩ ?_⟩
  · exact List.forall_mem_cons.2 ⟨⟨_, 1, "b", rfl, rfl, rfl⟩,
      List.forall_mem_singleton.2 ⟨_, 0, "a", rfl, rfl, rfl⟩⟩
  · refine ⟨?_, [], [⟨.identifier "a", ""⟩], rfl, by simp⟩
    rintro value ⟨i, name, hname, hi, hv⟩
    cases hname
    cases i with
    | zero => exact absurd hi (by decide)
    | succ i => exact absurd hv (by simp)

example : (copyNode pairContext importingScope 100 (.callExpression (.identifier "msg")
    (pairArguments [.identifier "b", .propertyAccess (.identifier "a") "name"]))).perform.1 =
    .ok (.templateLiteral "Hola " [.templateSpan (.propertyAccess (.identifier "a") "name") " y ",
      .templateSpan (.identifier "b") ""]) := by
  delta copyNode flatten
  rfl

/-! ### A slot that is too high -/

/-- A member of a member of a name, and so on. -/
def memberChain : Nat → Node
  | 0 => .identifier "a"
  | n + 1 => .propertyAccess (memberChain n) "b"

/-- A chain that is as long as the levels are many does not print. -/
theorem printExpression_memberChain {limit : Int} {n : Nat} (h : room ≤ n) :
    printExpression limit room (memberChain n) = .error (.depth limit) := by
  induction room generalizing n with
  | zero => rw [printExpression]
  | succ room ih =>
    cases n with
    | zero => exact absurd h (Nat.not_succ_le_zero room)
    | succ n =>
      rw [memberChain, printExpression]
      simp only [ih (Nat.le_of_succ_le_succ h)]
      rfl

/-- A template with a chain in its slot that is too long to print. -/
def deepTemplate : Template :=
  ⟨"", [⟨memberChain 100, ""⟩]⟩

/-- A call by a function over this template. -/
def deepArguments : List Node :=
  [.arrowFunction [⟨"a", none⟩] deepTemplate.toNode,
    .objectLiteral [.propertyAssignment "args" (.arrayLiteral [.identifier "x"])]]

/-- Not every slot that is no name is named as such in the failure. -/
theorem not_forall_slotNotParameter :
    ¬∀ (context : Context) (scope : Scope) (room : Nat) (callee body : Node)
      (arguments values : List Node) (parameters : List Parameter) (argument : TemplateArgument)
      (options : Options) (template : Template) (events : List Event) (span : Source.Span),
      scope.plays .message callee → arguments[0]? = some (.arrowFunction parameters body) →
      TemplateArgument.ofLiteral? body = some argument → (parameters.map (·.name)).Nodup →
      Options.ofNode arguments[1]? = .ok options → options.arguments = some values →
      InEffect context (options.id.getD argument.shapeId) argument.text template events →
      IsFirst (IsBad (parameters.map (·.name)) values) template.spans span →
      (∀ name, span.expression ≠ .identifier name) →
      ∃ text, (copyNode context scope room (.callExpression callee arguments)).perform.1 =
        .error (.contract (.slotNotParameter text)) := by
  intro h
  have hname : ∀ name, memberChain 100 ≠ .identifier name := by simp [memberChain]
  have hprint : (memberChain 100).print = .error (.depth 100) :=
    printExpression_memberChain (Nat.le_refl 100)
  have hc : importingScope.plays .message (.identifier "msg") := by decide
  have hn : (["a"] : List String).Nodup := by decide
  have hfirst : IsFirst (IsBad ["a"] [.identifier "x"]) deepTemplate.spans
      ⟨memberChain 100, ""⟩ := by
    refine ⟨?_, [], [], rfl, by simp⟩
    rintro value ⟨i, name, hs, -⟩
    exact hname name hs
  have he : InEffect ⟨"en", "app.ts", none, 100⟩ (MessageId.ofStrings ["", ""] false)
      (.template deepTemplate) deepTemplate [] := .own rfl
  have ha : deepArguments[0]? = some (.arrowFunction [⟨"a", none⟩] deepTemplate.toNode) := rfl
  obtain ⟨text, ht⟩ := h ⟨"en", "app.ts", none, 100⟩ importingScope 100 (.identifier "msg") _
    deepArguments _ _ _ _ _ [] _ hc ha rfl hn rfl rfl he hfirst hname
  obtain ⟨failure, hf, hs⟩ := exists_substitute_of_isFirst hn hfirst
  rw [copyNode_arrow hc ha rfl rfl rfl he (by simp [deepTemplate])] at ht
  have hfail : failure = .contract (.slotNotParameter text) := by
    simp only [List.map_cons, List.map_nil, hs] at ht
    exact Except.error.inj ht
  rw [hf.eq_of_print hname hprint] at hfail
  cases hfail

end Polyglot.Localize
