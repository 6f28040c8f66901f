import Polyglot.Message.Bundle
import Polyglot.Proofs.Localize.Families

/-!
# Which translations a copy depends on

A pass over a file looks messages up while it goes, and what it asks for next may depend on what it
found. An identifier that has no translation is reported, so a pass asks for an identifier if it
reports it once every message of that name is taken away: `Asks`.

`DependsOnAsked` says that the answers for what is asked settle all that a pass does. Sequences keep
it, and so whole copies have it: `localizeFile_depends_on_asked`.
-/

namespace Polyglot

/-! ### Operations that add reports -/

namespace Run

variable {α β : Type} {run : Run α} {next later : α → Run β}

/-- An operation adds its own reports to those before and pays them no heed. -/
def Appends (run : Run α) : Prop :=
  ∀ before, StateT.run (ExceptT.run run) before = (run.perform.1, before ++ run.perform.2)

theorem perform_bind (hn : ∀ a, (next a).Appends) : (run >>= next).perform =
    match run.perform with
    | (.error failure, events) => (.error failure, events)
    | (.ok a, events) => ((next a).perform.1, events ++ (next a).perform.2) := by
  change StateT.run (ExceptT.bindCont next run.perform.1) run.perform.2 = _
  cases run.perform with
  | mk result events =>
    cases result with
    | error => rfl
    | ok a => exact hn a events

theorem appends_pure (a : α) : (pure a : Run α).Appends :=
  fun before => Prod.ext rfl (List.append_nil before).symm

theorem appends_throw (failure : Failure) : (throw failure : Run α).Appends :=
  fun before => Prod.ext rfl (List.append_nil before).symm

theorem Appends.bind (h : run.Appends) (hn : ∀ a, (next a).Appends) : (run >>= next).Appends := by
  intro before
  rw [perform_bind hn, run_bind, h before]
  cases run.perform with
  | mk result events =>
    cases result with
    | error => rfl
    | ok a =>
      refine (hn a (before ++ events)).trans ?_
      rw [List.append_assoc]

/-- What a sequence reports is reported by its first step or by what follows the answer. -/
theorem mem_perform_bind (hn : ∀ a, (next a).Appends) {event : Event} :
    event ∈ (run >>= next).perform.2 ↔ event ∈ run.perform.2 ∨
      ∃ a, run.perform.1 = .ok a ∧ event ∈ (next a).perform.2 := by
  rw [perform_bind hn]
  cases run.perform with
  | mk result events =>
    cases result with
    | error => simp
    | ok a => simp

/-- Sequences agree if what follows the answer does. -/
theorem Appends.bind_congr (h : run.Appends)
    (hn : ∀ a, run.perform.1 = .ok a → next a = later a) : run >>= next = run >>= later := by
  funext before
  change StateT.run (ExceptT.run (run >>= next)) before =
    StateT.run (ExceptT.run (run >>= later)) before
  rw [run_bind, run_bind, h before]
  cases hr : run.perform.1 with
  | error => rfl
  | ok a => exact congrArg (fun other : Run β => StateT.run (ExceptT.run other) _) (hn a hr)

end Run

namespace Localize

open Source Scope

variable {α β : Type} {locale id other : String} {messages others : List Message}

/-! ### Messages of other names -/

/-- The messages of other names. -/
def without (id : String) (messages : List Message) : List Message :=
  messages.filter fun message => message.name != id

theorem lookupMessage_without_self : lookupMessage id (without id messages) = none := by
  rw [lookupMessage, without, List.find?_eq_none]
  intro message hm
  simpa using (List.mem_filter.1 hm).2

theorem lookupMessage_without (h : other ≠ id) :
    lookupMessage other (without id messages) = lookupMessage other messages := by
  rw [lookupMessage, lookupMessage, without, List.find?_filter]
  congr 1
  funext message
  by_cases hm : message.name = other
  · simp [hm, h]
  · simp [hm]

/-! ### What a pass asks for -/

/-- A pass over messages asks for an identifier: it reports it as untranslated once no message has
that name. -/
def Asks (locale : String) (pass : List Message → Run α) (messages : List Message) (id : String) :
    Prop :=
  .untranslated locale id ∈ (pass (without id messages)).perform.2

/-- Two lists of messages have the same answer for all that a pass asks for. -/
def AgreeOnAsked (locale : String) (pass : List Message → Run α) (messages others : List Message) :
    Prop :=
  ∀ id, Asks locale pass messages id → lookupMessage id messages = lookupMessage id others

/-- The answers for what it asks for settle all that a pass does. -/
structure DependsOnAsked (locale : String) (pass : List Message → Run α) : Prop where
  appends : ∀ messages, (pass messages).Appends
  eq_of_agree : ∀ {messages others}, AgreeOnAsked locale pass messages others →
    pass messages = pass others

section Passes

variable {pass : List Message → Run α} {nexts : List Message → α → Run β}

/-- A message that is not asked for may be taken away. -/
theorem DependsOnAsked.without_eq (h : DependsOnAsked locale pass)
    (hn : ¬Asks locale pass messages id) : pass (without id messages) = pass messages := by
  refine (h.eq_of_agree fun asked ha => ?_).symm
  exact (lookupMessage_without fun he => hn (by rwa [← he])).symm

/-- A message that is not asked for makes no difference to the answers. -/
theorem agreeOnAsked_of_not_asks {front back : List Message} {message : Message}
    (hn : ¬Asks locale pass (front ++ message :: back) message.name) :
    AgreeOnAsked locale pass (front ++ message :: back) (front ++ back) := by
  intro id ha
  have hne : message.name ≠ id := fun he => hn (he ▸ ha)
  simp [lookupMessage, List.find?_append, hne]

/-- A sequence asks for what its first step asks for and for what follows the answer asks for. -/
theorem asks_bind_iff (h : DependsOnAsked locale pass)
    (hn : ∀ a, DependsOnAsked locale fun messages => nexts messages a) :
    Asks locale (fun messages => pass messages >>= nexts messages) messages id ↔
      Asks locale pass messages id ∨ ∃ a, (pass messages).perform.1 = .ok a ∧
        Asks locale (fun messages => nexts messages a) messages id := by
  rw [Asks, Run.mem_perform_bind fun a => (hn a).appends _]
  -- the first step answers the same without the message, unless it asks for it itself
  by_cases ha : Asks locale pass messages id
  · exact iff_of_true (.inl ha) (.inl ha)
  · rw [h.without_eq ha]
    exact or_congr_left (iff_of_false (fun hm => ha (by rwa [Asks, h.without_eq ha])) ha)

theorem isCompositional_dependsOnAsked : Run.IsCompositional (DependsOnAsked locale) where
  pure a := ⟨fun _ => Run.appends_pure a, fun _ => rfl⟩
  throw failure := ⟨fun _ => Run.appends_throw failure, fun _ => rfl⟩
  reportAll _ := ⟨fun _ _ => rfl, fun _ => rfl⟩
  bind h hn := by
    refine ⟨fun messages => (h.appends messages).bind fun a => (hn a).appends messages, ?_⟩
    intro messages others hagree
    -- what follows is compared only for the answer that the first step gives with these messages
    have hfirst := h.eq_of_agree fun id ha => hagree id ((asks_bind_iff h hn).2 (.inl ha))
    rw [← hfirst]
    refine (h.appends messages).bind_congr fun a hr => ?_
    exact (hn a).eq_of_agree fun id ha =>
      hagree id ((asks_bind_iff h hn).2 (.inr ⟨a, hr, ha⟩))

end Passes

/-! ### What a copy asks for -/

section Texts

variable {context : Context} {own : MessageText}

theorem localText_of_lookupMessage {translation : Message}
    (h : lookupMessage id messages = some translation) :
    localText (context.withTranslations (some messages)) id own =
      Run.ofExcept (.template <$> translationTemplate context id translation) := by
  simp only [localText, Context.withTranslations, h]
  change _ <$> Run.ofExcept (translationTemplate context id translation) = _
  cases translationTemplate context id translation <;> rfl

theorem localText_of_lookupMessage_eq_none (h : lookupMessage id messages = none) :
    localText (context.withTranslations (some messages)) id own = (do
      report (.untranslated context.locale id)
      return own) := by
  simp only [localText, Context.withTranslations, h]

/-- Looking a text up asks for its identifier and for nothing else. -/
theorem asks_localText_iff : Asks context.locale
    (fun messages => localText (context.withTranslations (some messages)) id own) messages other ↔
      other = id := by
  constructor
  · intro h
    by_contra hne
    cases hl : lookupMessage id (without other messages) with
    | none =>
      rw [Asks, localText_of_lookupMessage_eq_none hl] at h
      cases List.mem_singleton.1 h
      exact hne rfl
    | some translation =>
      rw [Asks, localText_of_lookupMessage hl] at h
      exact List.not_mem_nil h
  · rintro rfl
    rw [Asks, localText_of_lookupMessage_eq_none lookupMessage_without_self]
    exact List.mem_singleton_self _

theorem dependsOnAsked_localText (context : Context) : DependsOnAsked context.locale
    fun messages => localText (context.withTranslations (some messages)) id own := by
  refine ⟨fun messages => ?_, fun {messages others} h => ?_⟩
  · cases hl : lookupMessage id messages with
    | none =>
      rw [localText_of_lookupMessage_eq_none hl]
      exact fun before => rfl
    | some translation =>
      rw [localText_of_lookupMessage hl]
      exact fun before => Prod.ext rfl (List.append_nil before).symm
  · have hanswer := h id (asks_localText_iff.2 rfl)
    cases hl : lookupMessage id messages with
    | none =>
      rw [localText_of_lookupMessage_eq_none hl,
        localText_of_lookupMessage_eq_none (hanswer ▸ hl)]
    | some translation =>
      rw [localText_of_lookupMessage hl, localText_of_lookupMessage (hanswer ▸ hl)]

end Texts

variable {program : Program} {requested : Int} {file : SourceFile}

/-- The pass over a file with some translations. -/
abbrev passOver (program : Program) (locale : String) (requested : Int) (file : SourceFile)
    (messages : List Message) : Run SourceFile :=
  localizeFile program locale (some messages) requested file

theorem dependsOnAsked_passOver :
    DependsOnAsked locale (passOver program locale requested file) :=
  good_localizeFile isCompositional_dependsOnAsked some fun _ _ =>
    dependsOnAsked_localText ⟨locale, file.fileName, none, _⟩

/-- With no message at all a file is copied as without translations, but for the reports. -/
theorem sameResult_passOver_nil :
    (passOver program locale requested file []).SameResult
      (localizeFile program locale none requested file) :=
  good_localizeFile Run.isCompositional_sameResult
    (fun given : Bool => if given then some [] else none)
    (fun _ _ i j _ _ => by cases i <;> cases j <;> rfl) true false

/-- **A copy depends on no translation but those it asks for.** If it finds none of them, it is the
copy without translations; if two lists of messages have the same answers for all that is asked, the
two copies are the same, with the same reports; and a message that is not asked for may be left
out. -/
theorem localizeFile_depends_on_asked (program : Program) (locale : String) (requested : Int)
    (file : SourceFile) (messages : List Message) :
    ((∀ id, Asks locale (passOver program locale requested file) messages id →
        lookupMessage id messages = none) →
      (localizeFile program locale (some messages) requested file).perform.1 =
        (localizeFile program locale none requested file).perform.1) ∧
    (∀ others, AgreeOnAsked locale (passOver program locale requested file) messages others →
      (localizeFile program locale (some messages) requested file).perform =
        (localizeFile program locale (some others) requested file).perform) ∧
    ∀ front message back, messages = front ++ message :: back →
      ¬Asks locale (passOver program locale requested file) messages message.name →
        (localizeFile program locale (some messages) requested file).perform =
          (localizeFile program locale (some (front ++ back)) requested file).perform := by
  have hpass : DependsOnAsked locale (passOver program locale requested file) :=
    dependsOnAsked_passOver
  refine ⟨fun hnone => ?_, fun others hagree => ?_, ?_⟩
  · calc (passOver program locale requested file messages).perform.1
      _ = (passOver program locale requested file []).perform.1 :=
        congrArg (fun run : Run SourceFile => run.perform.1) (hpass.eq_of_agree hnone)
      _ = (localizeFile program locale none requested file).perform.1 :=
        sameResult_passOver_nil.perform_eq
  · exact congrArg Run.perform (hpass.eq_of_agree hagree)
  · rintro front message back rfl hn
    exact congrArg Run.perform (hpass.eq_of_agree (agreeOnAsked_of_not_asks hn))

/-! ### A message inside a message -/

/-- A file that asks for a greeting with a name in it, which is a message as well. -/
def greetingFile : SourceFile where
  fileName := "app.ts"
  statements := [
    .importDeclaration { specifier := "library", named := [⟨"msg", none⟩] },
    .expressionStatement (.callExpression (.identifier "msg") [
      .templateLiteral "Hi " [.templateSpan
        (.callExpression (.identifier "msg") [.stringLiteral "you",
          .objectLiteral [.propertyAssignment "id" (.stringLiteral "name")]]) "!"],
      .objectLiteral [.propertyAssignment "id" (.stringLiteral "greeting")]])]

/-- A program with the file and the library. -/
def greetingProgram : Program where
  files := [greetingFile]
  modules := [⟨"library", [{ name := "msg", marks := [Role.message.mark], module := "library" }]⟩]

/-- A translation of the greeting, without the name. -/
def greetingMessage : Message :=
  ⟨"greeting", [.text "Hola"], by decide⟩

/-- A translation of the name. -/
def nameMessage : Message :=
  ⟨"name", [.text "tu"], by decide⟩

/-- A translation of a message that the file does not have. -/
def strayMessage : Message :=
  ⟨"farewell", [.text "adios"], by decide⟩

theorem perform_passOver_greeting :
    (passOver greetingProgram "es" 100 greetingFile [greetingMessage]).perform =
      (.ok { greetingFile with statements := [.expressionStatement (.stringLiteral "Hola")] },
        [.importRemoved "library" "app.ts"]) := by
  delta passOver localizeFile copyFile copyNode flatten
  rfl

theorem perform_passOver_nil :
    (passOver greetingProgram "es" 100 greetingFile []).perform =
      (.ok { greetingFile with statements := [.expressionStatement (.stringLiteral "Hi you!")] },
        [.importRemoved "library" "app.ts", .untranslated "es" "greeting",
          .untranslated "es" "name"]) := by
  delta passOver localizeFile copyFile copyNode flatten
  rfl

/-- The translated greeting has no name in it, so that the name's translation is not asked for. -/
theorem not_asks_name :
    ¬Asks "es" (passOver greetingProgram "es" 100 greetingFile) [greetingMessage, nameMessage]
      nameMessage.name := by
  change _ ∉ (passOver greetingProgram "es" 100 greetingFile [greetingMessage]).perform.2
  rw [perform_passOver_greeting]
  decide

theorem lookup_stray_of_asks {id : String}
    (h : Asks "es" (passOver greetingProgram "es" 100 greetingFile) [strayMessage] id) :
    lookupMessage id [strayMessage] = none := by
  by_cases hid : strayMessage.name = id
  · subst hid
    change _ ∈ (passOver greetingProgram "es" 100 greetingFile []).perform.2 at h
    rw [perform_passOver_nil] at h
    exact absurd h (by decide)
  · simp [lookupMessage, hid]

theorem localizeFile_depends_on_asked_greeting :
    (∀ id, Asks "es" (passOver greetingProgram "es" 100 greetingFile) [strayMessage] id →
      lookupMessage id [strayMessage] = none) ∧
    (localizeFile greetingProgram "es" (some [strayMessage]) 100 greetingFile).perform.1 =
      (localizeFile greetingProgram "es" none 100 greetingFile).perform.1 ∧
    AgreeOnAsked "es" (passOver greetingProgram "es" 100 greetingFile)
      [greetingMessage, nameMessage] [greetingMessage] ∧
    (localizeFile greetingProgram "es" (some [greetingMessage, nameMessage]) 100
      greetingFile).perform =
        (localizeFile greetingProgram "es" (some [greetingMessage]) 100 greetingFile).perform ∧
    ¬Asks "es" (passOver greetingProgram "es" 100 greetingFile)
      ([] ++ nameMessage :: [greetingMessage]) nameMessage.name ∧
    (localizeFile greetingProgram "es" (some ([] ++ nameMessage :: [greetingMessage])) 100
      greetingFile).perform =
        (localizeFile greetingProgram "es" (some ([] ++ [greetingMessage])) 100
          greetingFile).perform := by
  have hagree : AgreeOnAsked "es" (passOver greetingProgram "es" 100 greetingFile)
      ([greetingMessage] ++ nameMessage :: []) ([greetingMessage] ++ []) :=
    agreeOnAsked_of_not_asks not_asks_name
  obtain ⟨hnone, -, -⟩ := localizeFile_depends_on_asked greetingProgram "es" 100 greetingFile
    [strayMessage]
  obtain ⟨-, hsame, -⟩ := localizeFile_depends_on_asked greetingProgram "es" 100 greetingFile
    [greetingMessage, nameMessage]
  obtain ⟨-, -, hdrop⟩ := localizeFile_depends_on_asked greetingProgram "es" 100 greetingFile
    [nameMessage, greetingMessage]
  exact ⟨fun _ => lookup_stray_of_asks, hnone fun _ => lookup_stray_of_asks, hagree,
    hsame _ hagree, not_asks_name, hdrop [] nameMessage [greetingMessage] rfl not_asks_name⟩

end Localize

end Polyglot
