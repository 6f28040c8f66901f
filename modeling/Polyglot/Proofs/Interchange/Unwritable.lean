import Polyglot.Proofs.Interchange.Xlb
import Polyglot.Proofs.Interchange.Xliff

/-!
# What cannot be written

XML 1.0 says which characters a document may hold. Writing refuses the texts with another character
and no others: a text of the document itself at once, and otherwise the first unit in order that
holds such a text, which the failure names. Translations that are not written do not matter. Which
texts these are follows from what is written into the elements, piece by piece. Main statement:
`refusesExactly`.
-/

namespace Polyglot

namespace Xml

/-- The production `Char` of XML 1.0. -/
def IsXmlChar (c : Char) : Prop :=
  c.toNat = 0x9 ∨ c.toNat = 0xa ∨ c.toNat = 0xd ∨ (0x20 ≤ c.toNat ∧ c.toNat ≤ 0xd7ff) ∨
    (0xe000 ≤ c.toNat ∧ c.toNat ≤ 0xfffd) ∨ (0x10000 ≤ c.toNat ∧ c.toNat ≤ 0x10ffff)

/-- The text holds a character that XML 1.0 forbids. -/
def IsUnwritable (text : String) : Prop :=
  ∃ c ∈ text.toList, ¬ IsXmlChar c

theorem isLegal_iff (c : Char) : isLegal c ↔ IsXmlChar c := by
  -- the only numbers left out that no character has are those of surrogates
  have hv : c.toNat < 0xd800 ∨ (0xdfff < c.toNat ∧ c.toNat < 0x110000) := c.valid
  simp only [isLegal, IsXmlChar, Bool.or_eq_true, Bool.and_eq_true, beq_iff_eq, bne_iff_ne,
    decide_eq_true_eq]
  omega

theorem isLegalText_iff_not_isUnwritable {text : String} :
    isLegalText text ↔ ¬ IsUnwritable text := by
  simp [isLegalText, IsUnwritable, isLegal_iff]

end Xml

open Xml

/-- The texts of contents: runs of text and payloads. -/
def Contents.texts (contents : Contents) : List String :=
  contents.map fun
    | .text text => text
    | .placeholder payload => payload

/-- The texts of a message that a document holds: its name, its labels and those of its contents. -/
def ProgramMessage.texts (message : ProgramMessage) : List String :=
  message.name :: (message.labels ++ message.contents.texts)

namespace Interchange

/-- None of the texts holds a forbidden character. -/
def AllWritable (texts : List String) : Prop :=
  ∀ text ∈ texts, ¬ IsUnwritable text

variable {own : List String} {tag : String} {legal : ProgramMessage → Bool}
  {messages : List ProgramMessage} {tree : Node} {text : String}

theorem isLegalContents_iff {contents : Contents} :
    isLegalContents contents ↔ AllWritable contents.texts := by
  rw [isLegalContents, List.all_eq_true, AllWritable, Contents.texts, List.forall_mem_map]
  refine forall₂_congr fun piece _ => ?_
  cases piece <;> exact isLegalText_iff_not_isUnwritable

theorem isLegalMessage_iff {message : ProgramMessage} :
    isLegalMessage message ↔ AllWritable message.texts := by
  simp only [isLegalMessage, Bool.and_eq_true, List.all_eq_true, isLegalContents_iff,
    isLegalText_iff_not_isUnwritable, AllWritable, ProgramMessage.texts, List.forall_mem_cons,
    List.forall_mem_append, and_assoc]

/-- The texts of a unit: those of its message, and those of the contents of the first translation of
its name. -/
def Xliff.unitTexts (targets : List Message) (message : ProgramMessage) : List String :=
  message.texts ++
    ((lookupMessage message.name targets).map fun first => first.contents.texts).getD []

theorem Xliff.isLegalUnit_iff_allWritable {targets : List Message} {message : ProgramMessage} :
    isLegalUnit targets message ↔ AllWritable (unitTexts targets message) := by
  rw [isLegalUnit_iff, isLegalMessage_iff, AllWritable, AllWritable, unitTexts,
    List.forall_mem_append]
  refine and_congr_right fun _ => ?_
  cases lookupMessage message.name targets with
  | none => simp
  | some first => simp [isLegalContents_iff, AllWritable]

/-! ### The first failure -/

theorem forall_isLegalText_iff : (∀ text ∈ own, isLegalText text) ↔ AllWritable own := by
  simp only [isLegalText_iff_not_isUnwritable, AllWritable]

/-- Writing fails in one of two ways: with a text of the document itself, or with the first unit
that is not legal. -/
theorem documentRefusal?_cases (own : List String) (tag : String) (legal : ProgramMessage → Bool)
    (messages : List ProgramMessage) :
    (¬ AllWritable own ∧
        documentRefusal? own tag legal messages = some (.value .unwritableCharacter)) ∨
      (AllWritable own ∧ (∃ before message after, messages = before ++ message :: after ∧
        (∀ other ∈ before, legal other) ∧ ¬ legal message ∧
        documentRefusal? own tag legal messages =
          some (Writing.unitFailure tag message.name (.value .unwritableCharacter)))) ∨
      (AllWritable own ∧ (∀ message ∈ messages, legal message) ∧
        documentRefusal? own tag legal messages = none) := by
  cases hf : documentRefusal? own tag legal messages with
  | none =>
    obtain ⟨ho, hl⟩ := documentRefusal?_eq_none_iff.1 hf
    exact .inr (.inr ⟨forall_isLegalText_iff.1 ho, hl, rfl⟩)
  | some failure =>
    rw [documentRefusal?] at hf
    by_cases ho : own.all isLegalText
    · rw [ho] at hf
      obtain ⟨before, message, after, hs, hm, hb⟩ := List.findSome?_eq_some_iff.1 hf
      have hu : legal message = false := by
        by_contra hl
        rw [Bool.not_eq_false] at hl
        simp [hl, refusal?] at hm
      refine .inr (.inl ⟨forall_isLegalText_iff.1 (by simpa using ho), before, message, after, hs,
        by simpa using hb, by simp [hu], ?_⟩)
      rw [hu] at hm
      exact hm.symm
    · rw [Bool.not_eq_true] at ho
      rw [ho] at hf
      refine .inl ⟨fun h => ?_, hf.symm⟩
      exact absurd (List.all_eq_true.2 (forall_isLegalText_iff.2 h)) (by simp [ho])

theorem documentRefusal?_eq_value_iff :
    documentRefusal? own tag legal messages = some (.value .unwritableCharacter) ↔
      ¬ AllWritable own := by
  obtain ⟨ho, he⟩ | ⟨ho, before, message, after, -, -, -, he⟩ | ⟨ho, -, he⟩ :=
    documentRefusal?_cases own tag legal messages
  · exact iff_of_true he ho
  · rw [he]
    exact iff_of_false nofun (not_not_intro ho)
  · rw [he]
    exact iff_of_false nofun (not_not_intro ho)

/-- A unit that is refused is the first one that is not legal. -/
theorem first_of_documentRefusal?_eq_encode {d : Diagnostic}
    (h : documentRefusal? own tag legal messages = some (.encode d)) :
    ∃ before message after, messages = before ++ message :: after ∧
      (∀ other ∈ before, legal other) ∧ ¬ legal message ∧
      Failure.encode d = Writing.unitFailure tag message.name (.value .unwritableCharacter) := by
  obtain ⟨-, he⟩ | ⟨-, before, message, after, hm, hb, hu, he⟩ | ⟨-, -, he⟩ :=
    documentRefusal?_cases own tag legal messages
  · cases he.symm.trans h
  · exact ⟨before, message, after, hm, hb, hu, Option.some.inj (h.symm.trans he)⟩
  · cases he.symm.trans h

theorem exists_documentRefusal?_eq_encode_iff :
    (∃ d, documentRefusal? own tag legal messages = some (.encode d)) ↔
      AllWritable own ∧ ∃ message ∈ messages, ¬ legal message := by
  obtain ⟨ho, he⟩ | ⟨ho, before, message, after, hm, -, hu, he⟩ | ⟨-, hl, he⟩ :=
    documentRefusal?_cases own tag legal messages
  · rw [he]
    exact iff_of_false nofun fun h => ho h.1
  · exact iff_of_true ⟨_, he⟩ ⟨ho, message, by simp [hm], hu⟩
  · rw [he]
    exact iff_of_false nofun fun ⟨_, message, hk, hu⟩ => hu (hl message hk)

/-! ### What is refused -/

/-- Writing a document refuses what cannot be written and nothing else. `own` are the texts of the
document itself and `texts` those of a message's unit. -/
structure RefusesExactly (result : Except Failure String) (own : List String) (tag : String)
    (texts : ProgramMessage → List String) (messages : List ProgramMessage) (tree : Node) :
    Prop where
  /-- A text of the document itself is a wrong value. -/
  value_iff : result = .error (.value .unwritableCharacter) ↔ ∃ text ∈ own, IsUnwritable text
  /-- Without such a text a unit may be refused, -/
  unit_iff : (∃ d, result = .error (.encode d)) ↔
    AllWritable own ∧ ∃ message ∈ messages, ∃ text ∈ texts message, IsUnwritable text
  /-- and it is the first one with a text that cannot be written. -/
  first : ∀ d, result = .error (.encode d) → ∃ before message after,
    messages = before ++ message :: after ∧ (∀ other ∈ before, AllWritable (texts other)) ∧
    (∃ text ∈ texts message, IsUnwritable text) ∧
    d.code = .xmlCharacterInvalid ∧ d.location = some (tag ++ " '" ++ message.name ++ "'")
  ok_iff : (∃ text, result = .ok text) ↔
    AllWritable own ∧ ∀ message ∈ messages, AllWritable (texts message)
  /-- What is written is a document with the tree. -/
  parse : ∀ text, result = .ok text → Xml.parse text = some tree

theorem not_allWritable_iff {texts : List String} :
    ¬ AllWritable texts ↔ ∃ text ∈ texts, IsUnwritable text := by
  simp [AllWritable]

theorem RefusesExactly.of_outcome {texts : ProgramMessage → List String}
    (hl : ∀ message, legal message ↔ AllWritable (texts message))
    (hp : AllWritable own → (∀ message ∈ messages, legal message) → Xml.parse text = some tree) :
    RefusesExactly (outcome (documentRefusal? own tag legal messages) text) own tag texts messages
      tree where
  value_iff := by
    rw [outcome_eq_error_iff, documentRefusal?_eq_value_iff, not_allWritable_iff]
  unit_iff := by
    simp only [outcome_eq_error_iff, exists_documentRefusal?_eq_encode_iff, hl, not_allWritable_iff]
  first d h := by
    obtain ⟨before, message, after, hm, hb, hu, hd⟩ :=
      first_of_documentRefusal?_eq_encode (outcome_eq_error_iff.1 h)
    obtain rfl := Failure.encode.inj hd
    exact ⟨before, message, after, hm, fun other ho => (hl other).1 (hb other ho),
      not_allWritable_iff.1 (mt (hl message).2 hu), rfl, rfl⟩
  ok_iff := by
    simp only [outcome_eq_ok_iff, documentRefusal?_eq_none_iff, forall_isLegalText_iff, hl,
      exists_and_left, exists_eq, and_true]
  parse other h := by
    obtain ⟨hf, rfl⟩ := outcome_eq_ok_iff.1 h
    obtain ⟨ho, hm⟩ := documentRefusal?_eq_none_iff.1 hf
    exact hp (forall_isLegalText_iff.1 ho) hm

theorem Xlb.refusesExactly_encode (locale : String) (messages : List ProgramMessage) :
    RefusesExactly (encode locale messages) [locale] "msg" ProgramMessage.texts messages
      (document locale messages).joined := by
  rw [encode_eq]
  refine .of_outcome (fun _ => isLegalMessage_iff) fun ho hm => ?_
  have hl : isLegalText locale := isLegalText_iff_not_isUnwritable.2 (ho locale (by simp))
  exact Node.parse_writeDocument (writable_document hl hm) (by decide)

namespace Xliff

theorem refusesExactly_encodeReporting (source target : String) (messages : List ProgramMessage)
    (targets : List Message) :
    RefusesExactly (encodeReporting source target messages targets).perform.1 [target, source]
      "trans-unit" (unitTexts targets) messages
      (document source target messages targets).joined := by
  rw [perform_encodeReporting, encode_eq]
  refine .of_outcome (fun _ => isLegalUnit_iff_allWritable) fun ho hm => ?_
  have ht : isLegalText target := isLegalText_iff_not_isUnwritable.2 (ho target (by simp))
  have hs : isLegalText source := isLegalText_iff_not_isUnwritable.2 (ho source (by simp))
  exact Node.parse_writeDocument (writable_document hs ht hm) (by decide)

/-- What was written is the tree of legal messages. -/
theorem encodeReporting_eq_ok_iff {source target text : String} {messages : List ProgramMessage}
    {targets : List Message} :
    (encodeReporting source target messages targets).perform.1 = .ok text ↔
      (isLegalText source ∧ isLegalText target) ∧
        (∀ message ∈ messages, isLegalUnit targets message) ∧
        text = (document source target messages targets).writeDocument := by
  rw [perform_encodeReporting, encode_eq, outcome_eq_ok_iff, documentRefusal?_eq_none_iff,
    and_assoc]
  simp only [List.forall_mem_cons, List.not_mem_nil, false_imp_iff, implies_true, and_true,
    and_comm (a := isLegalText target)]

/-- The translations that a document for some messages holds: the first one of each name, if there
is a message of that name. -/
def written (messages : List ProgramMessage) (targets : List Message) : List Message :=
  (firstOfEach Message.name targets).filter fun first =>
    first.name ∈ messages.map ProgramMessage.name

theorem lookupMessage_written {message : ProgramMessage} (hm : message ∈ messages)
    (targets : List Message) :
    lookupMessage message.name (written messages targets) =
      lookupMessage message.name targets := by
  rw [← lookupMessage_firstMessages List.not_mem_nil targets, firstMessages_eq_firstOfEach,
    lookupMessage, lookupMessage, written, List.find?_filter]
  refine List.find?_congr fun first _ => ?_
  by_cases hn : first.name = message.name
  · simp [hn, List.mem_map_of_mem hm]
  · simp [hn]

end Xliff

/-- **Writing fails exactly on what XML cannot hold and names the first unit that does**, in both
formats. Translations that are not written make no difference. -/
theorem refusesExactly :
    (∀ locale messages, RefusesExactly (Xlb.encode locale messages) [locale] "msg"
      ProgramMessage.texts messages (Xlb.document locale messages).joined) ∧
    ∀ source target messages targets,
      RefusesExactly (Xliff.encodeReporting source target messages targets).perform.1
        [target, source] "trans-unit" (Xliff.unitTexts targets) messages
        (Xliff.document source target messages targets).joined ∧
      (Xliff.encodeReporting source target messages (Xliff.written messages targets)).perform.1 =
        (Xliff.encodeReporting source target messages targets).perform.1 := by
  refine ⟨Xlb.refusesExactly_encode, fun source target messages targets =>
    ⟨Xliff.refusesExactly_encodeReporting source target messages targets, ?_⟩⟩
  rw [Xliff.perform_encodeReporting, Xliff.perform_encodeReporting]
  exact Xliff.encode_congr fun _ hm => Xliff.lookupMessage_written hm targets

end Interchange

end Polyglot
