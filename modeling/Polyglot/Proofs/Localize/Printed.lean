import Polyglot.Proofs.Localize.Statements
import Polyglot.Proofs.Source.Printable

/-!
# Copies print

The copy of a well-typed file is well-typed, so it prints unless the levels run out. What stands in
the place of a message call is a literal of a form that the template of the call decides alone,
whatever the translation: `localizeFile_printable`.
-/

namespace Polyglot.Localize

open Source Scope

variable {context : Context} {scope : Scope} {room : Nat} {node callee source replaced : Node}
  {arguments : List Node} {argument : TemplateArgument} {text : MessageText} {isRich : Bool}

/-- What the template of a call site is written as: the first argument, or the body of the function
that this is. -/
def writtenTemplate? : List Node → Option Node
  | .arrowFunction _ body :: _ => some body
  | node :: _ => some node
  | [] => none

/-- What a message call becomes, by what its template is written as: a markup template, or a string
or a template literal with a slot. -/
def IsReplacement (source replaced : Node) : Prop :=
  if isRichTemplate source then
    ∃ template : Template, replaced = .taggedTemplate (.identifier richTag) template.toNode
  else (∃ text, replaced = .stringLiteral text) ∨ replaced.hasSubstitutions

theorem isRich_of_ofLiteral? (h : TemplateArgument.ofLiteral? node = some argument) :
    argument.isRich = isRichTemplate node := by
  unfold TemplateArgument.ofLiteral? at h
  split at h
  · split_ifs at h with hr
    obtain ⟨_, -, rfl⟩ := Option.map_eq_some_iff.1 h
    exact hr.symm
  · next hn =>
    obtain ⟨_, -, rfl⟩ := Option.map_eq_some_iff.1 h
    cases node with
    | taggedTemplate => exact absurd rfl (hn _ _)
    | _ => rfl

theorem exists_writtenTemplate?_of_ofNode
    (h : TemplateArgument.ofNode arguments[0]? = .ok argument) :
    ∃ source, writtenTemplate? arguments = some source ∧
      argument.isRich = isRichTemplate source := by
  cases arguments with
  | nil => cases h
  | cons node arguments =>
    rw [List.getElem?_cons_zero] at h
    unfold TemplateArgument.ofNode at h
    split at h
    · next heq => cases heq
    · next parameters body heq =>
      obtain rfl := Option.some.inj heq
      cases hl : TemplateArgument.ofLiteral? body with
      | none => simp [hl] at h
      | some literal =>
        simp only [hl, Except.ok.injEq] at h
        subst h
        have hrich : literal.isRich = isRichTemplate body := isRich_of_ofLiteral? hl
        exact ⟨body, rfl, hrich⟩
    · next other hn heq =>
      obtain rfl := Option.some.inj heq
      cases hl : TemplateArgument.ofLiteral? node with
      | none => simp [hl] at h
      | some literal =>
        simp only [hl, Except.ok.injEq] at h
        subst h
        refine ⟨node, ?_, isRich_of_ofLiteral? hl⟩
        cases node with
        | arrowFunction => exact absurd rfl (hn _ _)
        | _ => rfl

theorem exists_writtenTemplate?_of_messageText
    (h : (messageText context arguments).Returns (text, isRich)) :
    ∃ source, writtenTemplate? arguments = some source ∧ isRich = isRichTemplate source := by
  obtain ⟨argument, ha, h⟩ := Run.Returns.of_bind h
  obtain ⟨options, -, h⟩ := Run.Returns.of_bind h
  obtain ⟨own, -, h⟩ := Run.Returns.of_bind h
  obtain ⟨applied, -, h⟩ := Run.Returns.of_bind h
  cases Run.Returns.of_pure h
  exact exists_writtenTemplate?_of_ofNode (Run.Returns.of_ofExcept ha)

theorem isReplacement_literalOf (template : Template) (h : isRich = isRichTemplate source) :
    IsReplacement source (literalOf isRich template) := by
  subst h
  unfold IsReplacement literalOf
  split_ifs with hr hs
  · exact ⟨template, rfl⟩
  · exact .inl ⟨template.head, rfl⟩
  · refine .inr ?_
    simpa [Template.toNode, Node.hasSubstitutions] using hs

/-- A message call becomes a literal of the form that its template decides. -/
theorem exists_isReplacement_of_copyNode (hr : scope.plays .message callee)
    (h : (copyNode context scope room (.callExpression callee arguments)).Returns replaced) :
    ∃ source, writtenTemplate? arguments = some source ∧ IsReplacement source replaced := by
  obtain ⟨text, hm, rfl⟩ | ⟨template, isRich, _, fragments, hm, -, -, rfl⟩ :=
    cases_of_copyNode_message (calleeRole?_eq_message_iff.2 hr) h
  · obtain ⟨source, hs, hrich⟩ := exists_writtenTemplate?_of_messageText hm
    refine ⟨source, hs, ?_⟩
    rw [IsReplacement, ← hrich]
    exact .inl ⟨text, rfl⟩
  · obtain ⟨source, hs, hrich⟩ := exists_writtenTemplate?_of_messageText hm
    exact ⟨source, hs, isReplacement_literalOf _ hrich⟩

/-- **Copies are well-typed and print.** If there is a copy of a well-typed file, then it is
well-typed, and it prints within any limit or is too high for it. Wherever a message call is copied,
for any locale and with any translations, a markup template stays one, and any other template
becomes a string or a template with at least one slot. -/
theorem localizeFile_printable {program : Program} {file out : SourceFile} {locale : String}
    {translations : Option (List Message)} {requested : Int} {events : List Event}
    (hw : file.IsWellTyped)
    (h : (localizeFile program locale translations requested file).perform = (.ok out, events)) :
    out.IsWellTyped ∧
    (∀ printed, (∃ text, out.toNode.printWithin printed = .ok text) ∨
      out.toNode.printWithin printed =
        .error (.depth (Depth.clamp Depth.standardReserve printed))) ∧
    ∀ context scope room callee arguments replaced, scope.plays .message callee →
      (copyNode context scope room (.callExpression callee arguments)).Returns replaced →
        ∃ source, writtenTemplate? arguments = some source ∧ IsReplacement source replaced := by
  obtain ⟨_, -, hout, -⟩ := exists_of_localizeFile hw (Run.returns_of_perform h)
  exact ⟨hout, fun printed => (hout.failsOnlyWith_printWithin printed).ok_or_error,
    fun _ _ _ _ _ _ => exists_isReplacement_of_copyNode⟩

/-! ### A template that loses its slot -/

/-- The arguments of a plain message with a slot. -/
def slotArguments : List Node := [
  .templateLiteral "Hi " [.templateSpan (.identifier "name") "!"],
  .objectLiteral [.propertyAssignment "id" (.stringLiteral "welcome")]]

/-- A file with that message and a markup message. -/
def slotFile : SourceFile where
  fileName := "app.ts"
  statements := [
    .importDeclaration { specifier := "library", named := [⟨"msg", none⟩] },
    .expressionStatement (.callExpression (.identifier "msg") slotArguments),
    .returnStatement (some (.callExpression (.identifier "msg") [
      .arrowFunction [⟨"x", none⟩] (.taggedTemplate (.identifier richTag)
        (.templateLiteral "<b>" [.templateSpan (.identifier "x") "</b>"])),
      .objectLiteral [
        .propertyAssignment "id" (.stringLiteral "bold"),
        .propertyAssignment "args" (.arrayLiteral [.identifier "name"])]]))]

/-- A program with the file and the library. -/
def slotProgram : Program where
  files := [slotFile]
  modules := [⟨"library", [{ name := "msg", marks := [Role.message.mark], module := "library" }]⟩]

/-- The translations of both messages, the first without the slot. -/
def slotMessages : List Message :=
  [⟨"welcome", [.text "Hola"], by decide⟩,
    ⟨"bold", [.placeholder "<i>$\x7bx\x7d", .text ".", .placeholder "</i>"], by decide⟩]

/-- The copy with these translations. -/
def slotCopy : SourceFile where
  fileName := "app.ts"
  statements := [
    .expressionStatement (.stringLiteral "Hola"),
    .returnStatement (some (.taggedTemplate (.identifier richTag)
      (.templateLiteral "<i>" [.templateSpan (.identifier "name") ".</i>"])))]

theorem perform_slotFile :
    (localizeFile slotProgram "es" (some slotMessages) 100 slotFile).perform =
      (.ok slotCopy, [.importRemoved "library" "app.ts"]) := by
  delta localizeFile copyFile copyNode flatten
  rfl

/-- The copy of the plain message. -/
theorem returns_slotArguments :
    (copyNode { locale := "es", fileName := "app.ts", translations := some slotMessages }
      (.ofFile slotProgram slotFile) 99 (.callExpression (.identifier "msg") slotArguments)).Returns
        (.stringLiteral "Hola") := by
  refine ⟨[], [], ?_⟩
  delta copyNode flatten
  rfl

theorem localizeFile_printable_slot :
    slotFile.IsWellTyped ∧
    (localizeFile slotProgram "es" (some slotMessages) 100 slotFile).perform =
      (.ok slotCopy, [.importRemoved "library" "app.ts"]) ∧
    slotCopy.IsWellTyped ∧
    (∀ printed, (∃ text, slotCopy.toNode.printWithin printed = .ok text) ∨
      slotCopy.toNode.printWithin printed =
        .error (.depth (Depth.clamp Depth.standardReserve printed))) ∧
    (Scope.ofFile slotProgram slotFile).plays .message (.identifier "msg") ∧
    ∃ source, writtenTemplate? slotArguments = some source ∧
      IsReplacement source (.stringLiteral "Hola") := by
  have hw : slotFile.IsWellTyped := by decide
  have hplays : (Scope.ofFile slotProgram slotFile).plays .message (.identifier "msg") := rfl
  obtain ⟨hout, hprint, hreplaced⟩ := localizeFile_printable hw perform_slotFile
  exact ⟨hw, perform_slotFile, hout, hprint, hplays,
    hreplaced _ _ _ _ _ _ hplays returns_slotArguments⟩

example : slotCopy.toNode.print = .ok "\"Hola\";\nreturn html\x60<i>$\x7bname\x7d.</i>\x60;\n" := by
  rfl

end Polyglot.Localize
