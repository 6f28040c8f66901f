import Polyglot.Message.Validation
import Polyglot.Proofs.Message.First

/-!
# Sources as their own translations

The messages of the program are a translation of themselves. Taken as a bundle they always have
sources; whether their placeholders are found right depends on names that are repeated, since a
bundle keeps the first message of each name and validation compares it with the last one. Main
statement: `validate_sources_iff`.
-/

namespace Polyglot

variable {messages : List ProgramMessage} {locale : String}

/-- Of the messages of each name the first and the last have the same placeholders, in any order. -/
def EndsAgree (messages : List ProgramMessage) : Prop :=
  ∀ message ∈ messages, ∀ first ∈ messages.find? (·.name == message.name),
    ∀ last ∈ messages.reverse.find? (·.name == message.name),
      last.contents.payloads.Perm first.contents.payloads

instance (messages : List ProgramMessage) : Decidable (EndsAgree messages) :=
  inferInstanceAs (Decidable (∀ message ∈ messages, _))

theorem placeholderMismatch?_eq_none_iff {source : ProgramMessage} {translation : Message} :
    placeholderMismatch? locale source translation = none ↔
      source.contents.payloads.Perm translation.contents.payloads := by
  rw [← List.isPerm_iff, placeholderMismatch?]
  split_ifs with h <;> simp [h]

/-- Every message of the program has a source, itself or a later one. -/
theorem exists_sourceMessage? {message : ProgramMessage} (h : message ∈ messages) :
    ∃ last, sourceMessage? messages message.name = some last := by
  rw [← Option.isSome_iff_exists, sourceMessage?, List.find?_isSome]
  exact ⟨message, List.mem_reverse.2 h, by simp⟩

/-- No translation by the first message of each name lacks a source. -/
theorem translationWarning?_toMessage {message : ProgramMessage} (h : message ∈ messages) :
    translationWarning? messages locale message.toMessage = none := by
  obtain ⟨last, hl⟩ := exists_sourceMessage? h
  rw [translationWarning?, ProgramMessage.toMessage, hl]

/-- What validation finds about the first message of each name. -/
theorem forall_translationError?_iff :
    (∀ translation ∈ (firstOfEach ProgramMessage.name messages).map ProgramMessage.toMessage,
      translationError? messages locale translation = none) ↔ EndsAgree messages := by
  have he {first last : ProgramMessage} (hl : sourceMessage? messages first.name = some last) :
      translationError? messages locale first.toMessage = none ↔
        last.contents.payloads.Perm first.contents.payloads := by
    rw [translationError?, ProgramMessage.toMessage, hl]
    exact placeholderMismatch?_eq_none_iff
  rw [List.forall_mem_map]
  constructor
  · intro h message _ first hf last hl
    have hn : first.name = message.name := by simpa using List.find?_some hf
    rw [← hn] at hf hl
    exact (he hl).1 (h first (mem_firstOfEach.2 hf))
  · intro h first hf
    have hm := mem_of_mem_firstOfEach hf
    obtain ⟨last, hl⟩ := exists_sourceMessage? hm
    exact (he hl).2 (h first hm first (mem_firstOfEach.1 hf) last hl)

theorem ensureAllValid_singleton_iff {bundle : Bundle} :
    ensureAllValid messages [bundle] = .ok () ↔
      ∀ translation ∈ bundle.messages,
        translationError? messages bundle.locale translation = none := by
  have hs : shapeFailure? messages bundle = none ↔ ∀ translation ∈ bundle.messages,
      translationError? messages bundle.locale translation = none := by
    simp [shapeFailure?, List.findSome?_eq_none_iff]
  rw [← hs]
  cases hf : shapeFailure? messages bundle <;>
    simp [ensureAllValid, ensureValid, hf, bind, Except.bind, pure, Except.pure]

/-- **Sources pass as their own translation just where repeated names agree**: the bundle of the
messages never lacks a source, and its placeholders are found right, one by one and before anything
is emitted, if and only if the first and the last message of each name have the same ones. -/
theorem validate_sources_iff (messages : List ProgramMessage) (locale : String)
    (hl : locale ≠ "") :
    ∃ bundle, (Bundle.ofMessages locale (messages.map ProgramMessage.toMessage)).perform.1 =
        .ok bundle ∧
      (validate messages bundle).warnings = [] ∧
      ((validate messages bundle).errors = [] ↔ EndsAgree messages) ∧
      (ensureAllValid messages [bundle] = .ok () ↔ EndsAgree messages) := by
  obtain ⟨bundle, hb, hm⟩ :=
    Bundle.exists_of_messages hl (messages.map ProgramMessage.toMessage)
  rw [firstOfEach_map] at hm
  have he : (∀ translation ∈ bundle.messages,
      translationError? messages bundle.locale translation = none) ↔ EndsAgree messages := by
    rw [hm]
    exact forall_translationError?_iff
  refine ⟨bundle, Bundle.ofFirst_eq_ok_iff.2 ⟨hb, by rw [hm, firstOfEach_map]⟩, ?_, ?_, ?_⟩
  · rw [validate, List.filterMap_eq_nil_iff, hm, List.forall_mem_map]
    exact fun message h => translationWarning?_toMessage (mem_of_mem_firstOfEach h)
  · rw [← he, validate, List.filterMap_eq_nil_iff]
  · rw [← he, ensureAllValid_singleton_iff]

/-- Three messages of one name: the first and the last have the same placeholders. -/
def agreeingEnds : List ProgramMessage :=
  [{ name := "pair", contents := [.placeholder "a", .placeholder "b"], name_ne := by decide },
   { name := "pair", contents := [.placeholder "c"], name_ne := by decide },
   { name := "pair", contents := [.placeholder "b", .text "x", .placeholder "a"],
     name_ne := by decide }]

theorem validate_sources_agreeingEnds :
    "de" ≠ "" ∧ EndsAgree agreeingEnds ∧ ∃ bundle,
      (Bundle.ofMessages "de" (agreeingEnds.map ProgramMessage.toMessage)).perform.1 =
        .ok bundle ∧
      (validate agreeingEnds bundle).warnings = [] ∧ (validate agreeingEnds bundle).errors = [] ∧
      ensureAllValid agreeingEnds [bundle] = .ok () := by
  have hl : "de" ≠ "" := by decide
  have he : EndsAgree agreeingEnds := by decide +kernel
  obtain ⟨bundle, hb, hw, hv, hs⟩ := validate_sources_iff agreeingEnds "de" hl
  exact ⟨hl, he, bundle, hb, hw, hv.2 he, hs.2 he⟩

/-- Two greetings of one shape, with a different name in the slot. -/
def greetings : List ProgramMessage :=
  [{ name := "hello", contents := [.text "Hello ", .placeholder "$\x7bname\x7d"],
     name_ne := by decide },
   { name := "hello", contents := [.text "Hello ", .placeholder "$\x7buser\x7d"],
     name_ne := by decide }]

/-- Sources need not pass as their own translation. -/
theorem not_forall_validate_sources :
    ¬∀ (messages : List ProgramMessage) (locale : String) (bundle : Bundle), locale ≠ "" →
      (Bundle.ofMessages locale (messages.map ProgramMessage.toMessage)).perform.1 = .ok bundle →
        (validate messages bundle).errors = [] ∧ (validate messages bundle).warnings = [] ∧
          ensureAllValid messages [bundle] = .ok () := by
  intro h
  obtain ⟨bundle, hb, hm⟩ :=
    Bundle.exists_of_messages (show "de" ≠ "" by decide)
      (greetings.map ProgramMessage.toMessage)
  have he := (h greetings "de" bundle (by decide) (Bundle.ofFirst_eq_ok_iff.2 ⟨hb, hm⟩)).1
  rw [validate, List.filterMap_eq_nil_iff, hm, firstOfEach_map] at he
  exact absurd (forall_translationError?_iff.1 he) (by decide +kernel)

end Polyglot
