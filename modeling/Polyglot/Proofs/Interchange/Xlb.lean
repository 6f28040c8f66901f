import Polyglot.Interchange.Xlb
import Polyglot.Proofs.Interchange.Content
import Polyglot.Proofs.Interchange.Document

/-!
# Bundle documents read back

What is written for a locale and messages is the tree `document`, or the failure of the first text
that it may not hold, as the pieces of writing add up: `encode_eq`. A document that is written is
read back as the locale and the first message of each name, with its contents joined. Main
statement: `Xlb.parse_encode`.
-/

namespace Polyglot.Interchange.Xlb

/-- The element of a message of the program. -/
def messageElement (message : ProgramMessage) : Xml.Node :=
  .element "msg"
    (("name", message.name) :: (message.note?.map ("desc", ·)).toList)
    (contentNodes false 0 message.contents)

/-- The nodes of the messages, each on a line of its own. -/
def messageNodes (messages : List ProgramMessage) : List Xml.Node :=
  messages.flatMap (fun message => [.text "\n    ", messageElement message]) ++ [.text "\n  "]

/-- The root of the document for translators. -/
def document (sourceLocale : String) (messages : List ProgramMessage) : Xml.Node :=
  .element "localizationbundle" [("locale", sourceLocale)]
    [.text "\n  ", .element "messages" [] (messageNodes messages), .text "\n"]

open Xml Node Writing

variable {locale name : String} {message : ProgramMessage} {messages : List ProgramMessage}

/-! ### The written tree -/

theorem writable_messageElement (h : isLegalMessage message) :
    Writable 2 [] (messageElement message) := by
  have hm := h
  simp only [isLegalMessage, Bool.and_eq_true] at hm
  have hc : ∀ node ∈ contentNodes false 0 message.contents, Writable 1 [] node :=
    writable_contentNodes (by decide) hm.2 0
  cases hn : message.note? with
  | none =>
    rw [messageElement, hn]
    refine .of_isBare (by decide) (by decide) ?_ ?_ (by simp) hc
    · exact List.forall_mem_singleton.2 (show Namespaces.isBare "name" by decide)
    · exact List.forall_mem_singleton.2 hm.1.1
  | some note =>
    rw [messageElement, hn]
    refine .of_isBare (by decide) (by decide) ?_ ?_ (by simp) hc
    · exact List.forall_mem_cons.2 ⟨show Namespaces.isBare "name" by decide,
        List.forall_mem_singleton.2 (show Namespaces.isBare "desc" by decide)⟩
    · exact List.forall_mem_cons.2 ⟨hm.1.1,
        List.forall_mem_singleton.2 ((isLegalText_note hn).trans hm.1.2)⟩

theorem writable_messageNodes (h : ∀ message ∈ messages, isLegalMessage message) :
    ∀ node ∈ messageNodes messages, Writable 2 [] node := by
  simp only [messageNodes, List.forall_mem_append, List.mem_flatMap]
  refine ⟨?_, List.forall_mem_singleton.2 (.text (by decide))⟩
  rintro node ⟨message, hm, hn⟩
  simp only [List.mem_cons, List.not_mem_nil, or_false] at hn
  rcases hn with rfl | rfl
  · exact .text (by decide)
  · exact writable_messageElement (h message hm)

/-- A document may hold the tree of legal messages. -/
theorem writable_document (hl : isLegalText locale)
    (h : ∀ message ∈ messages, isLegalMessage message) :
    Writable 4 [] (document locale messages) := by
  refine .of_isBare (by decide) (by decide) ?_ ?_ (by simp) ?_
  · exact List.forall_mem_singleton.2 (show Namespaces.isBare "locale" by decide)
  · exact List.forall_mem_singleton.2 hl
  · refine List.forall_mem_cons.2 ⟨.text (by decide), List.forall_mem_cons.2 ⟨?_,
      List.forall_mem_singleton.2 (.text (by decide))⟩⟩
    refine .of_isBare (by decide) (by decide) (by simp) (by simp) (by simp) ?_
    exact writable_messageNodes h

/-! ### What writing adds up to -/

/-- The note of a message is given as an attribute, if there is one. -/
theorem adds_note (message : ProgramMessage) :
    Adds (refusal? (message.labels.all isLegalText)) (message.note?.map ("desc", ·)).toList []
      (message.note?.forM (setAttribute "desc")) := by
  have h := Adds.forOption (adds_setAttribute "desc") message.note?
  rw [bind_refusal?, all_note] at h
  cases hn : message.note? <;> rwa [hn] at h

/-- A message is appended as its element, unless a text in it is not legal. -/
theorem adds_appendMessage (message : ProgramMessage) :
    Adds ((refusal? (isLegalMessage message)).map (unitFailure "msg" message.name)) []
      [messageElement message] (appendMessage message) := by
  have h := ((adds_setAttribute "name" message.name).andThen ((adds_note message).andThen
    (adds_appendContents false 0 message.contents)))
  rw [refusal?_or, refusal?_or, ← Bool.and_assoc, List.append_nil] at h
  have ha : putAll ([("name", message.name)] ++ (message.note?.map ("desc", ·)).toList) [] =
      ("name", message.name) :: (message.note?.map ("desc", ·)).toList := by
    cases message.note? <;> rfl
  have he := (h.inUnit "msg" message.name).appendElement "msg"
  rwa [ha] at he

/-- The messages are appended as their nodes, unless one of them is not legal. -/
theorem adds_messages (messages : List ProgramMessage) :
    Adds (messages.findSome? fun message =>
        (refusal? (isLegalMessage message)).map (unitFailure "msg" message.name)) []
      (messageNodes messages) (do
        messages.forM fun message => do
          indent 2
          appendMessage message
        indent 1) := by
  have h := (Adds.forM (fun message => (adds_indent 2).andThen (adds_appendMessage message))
    messages).andThen (adds_indent 1)
  have ha : messages.flatMap (fun _ => ([] : List Attribute)) = [] := by simp
  rw [Option.or_none, List.append_nil, List.append_nil, ha] at h
  exact h

/-- Writing ends in the document, or in the failure of the first text that it may not hold. -/
theorem encode_eq (locale : String) (messages : List ProgramMessage) :
    encode locale messages =
      outcome (documentRefusal? [locale] "msg" isLegalMessage messages)
        (document locale messages).writeDocument := by
  have h := (adds_setAttribute "locale" locale).andThen ((adds_indent 1).andThen
    (((adds_messages messages).appendElement "messages").andThen (adds_indent 0)))
  rw [Option.none_or, Option.or_none] at h
  rw [encode, toElement_eq h, outcome_return, documentRefusal?, List.all_cons, List.all_nil,
    Bool.and_true]
  rfl

theorem encode_eq_ok (hl : isLegalText locale) (h : ∀ message ∈ messages, isLegalMessage message) :
    encode locale messages = .ok (document locale messages).writeDocument := by
  rw [encode_eq, documentRefusal?_eq_none_iff.2 ⟨by simpa using hl, h⟩]
  rfl

/-! ### The tree that is read -/

theorem elementsNamedIn_messageNodes (hp : placeholderTag ≠ name) :
    elementsNamedIn name (messageNodes messages) =
      if "msg" = name then messages.map messageElement else [] := by
  have hl : localPart "msg" = "msg" := by decide
  induction messages with
  | nil => simp [messageNodes, elementsNamedIn, elementsNamed]
  | cons message later ih =>
    have hn : messageNodes (message :: later) =
        .text "\n    " :: messageElement message :: messageNodes later := by simp [messageNodes]
    rw [hn, elementsNamedIn, elementsNamedIn, ih]
    simp only [messageElement, elementsNamed, hl, elementsNamedIn_contentNodes hp, beq_iff_eq]
    split_ifs <;> rfl

theorem elementsNamed_document (hp : placeholderTag ≠ name) (hn : name ≠ "messages") :
    elementsNamed name (document locale messages) =
      (if "localizationbundle" = name then [document locale messages] else []) ++
        if "msg" = name then messages.map messageElement else [] := by
  have hb : localPart "localizationbundle" = "localizationbundle" := by decide
  have hm : localPart "messages" = "messages" := by decide
  simp [document, elementsNamed, elementsNamedIn, elementsNamedIn_messageNodes hp, hb, hm,
    Ne.symm hn]

theorem readMessage_eq_ok_iff {answer : Message} :
    readMessage (messageElement message).joined = .ok answer ↔
      "" ∉ message.contents.payloads ∧ answer = message.toMessage.joined := by
  have ha : (messageElement message).joined.attribute? "name" = some message.name := by
    rw [attribute?_joined]
    rfl
  rw [readMessage, requireAttribute_of_ne ha message.name_ne, bind_ok, children_joined]
  simp only [messageElement, Node.children, readContents_contentNodes]
  split_ifs with he
  · refine ⟨fun h => ?_, fun h => absurd he h.1⟩
    cases h
  · refine ⟨fun h => ⟨he, (Except.ok.inj h).symm⟩, ?_⟩
    rintro ⟨-, rfl⟩
    rfl

/-- What is read of the tree of some messages, joined. -/
theorem readRoot_eq_ok_iff {answer : String} {out : List Message} :
    readRoot (document locale messages).joined = .ok (answer, out) ↔
      (locale ≠ "" ∧ ∀ message ∈ messages, "" ∉ message.contents.payloads) ∧
        answer = locale ∧ out = messages.map (·.toMessage.joined) := by
  have hb : requireOne "localizationbundle" (document locale messages).joined =
      .ok (document locale messages).joined := by
    refine requireOne_of_eq ?_
    rw [elementsNamed_joined, elementsNamed_document (by decide) (by decide)]
    simp
  have ha : (document locale messages).joined.attribute? "locale" = some locale := by
    rw [attribute?_joined]
    rfl
  have hm : (document locale messages).joined.elementsNamed "msg" =
      messages.map fun message => (messageElement message).joined := by
    rw [elementsNamed_joined, elementsNamed_document (by decide) (by decide)]
    simp
  have hr (out : List Message) : (messages.map fun message => (messageElement message).joined).mapM
      readMessage = .ok out ↔ (∀ message ∈ messages, "" ∉ message.contents.payloads) ∧
        out = messages.map (·.toMessage.joined) := by
    rw [List.mapM_map]
    exact mapM_eq_ok_iff fun message _ _ => readMessage_eq_ok_iff
  rw [readRoot, hb, bind_ok, hm]
  by_cases hl : locale = ""
  · subst hl
    rw [requireAttribute_of_empty ha]
    exact ⟨nofun, fun h => absurd rfl h.1.1⟩
  · rw [requireAttribute_of_ne ha hl, bind_ok, bind_eq_ok_iff]
    constructor
    · rintro ⟨messages, hm, ha⟩
      obtain ⟨rfl, rfl⟩ := Prod.mk.inj (Except.ok.inj ha)
      obtain ⟨hp, rfl⟩ := (hr _).1 hm
      exact ⟨⟨hl, hp⟩, rfl, rfl⟩
    · rintro ⟨⟨-, hp⟩, rfl, rfl⟩
      exact ⟨_, (hr _).2 ⟨hp, rfl⟩, rfl⟩

/-- **A bundle document is read back just where it has a locale and no empty payload**: with its
locale and the first message of each name, the contents joined. -/
theorem parse_encode (locale : String) (messages : List ProgramMessage) (path : Option String)
    (hl : isLegalText locale) (hm : ∀ message ∈ messages, isLegalMessage message) :
    ∃ text, encode locale messages = .ok text ∧
      ((∃ bundle, (parse text path).perform.1 = .ok bundle) ↔
        locale ≠ "" ∧ ∀ message ∈ messages, "" ∉ message.contents.payloads) ∧
      ∀ bundle, (parse text path).perform.1 = .ok bundle →
        bundle.locale = locale ∧
        bundle.messages =
          (firstOfEach ProgramMessage.name messages).map (·.toMessage.joined) ∧
        bundle.messages.map (·.contents.payloads) =
          (firstOfEach ProgramMessage.name messages).map (·.contents.payloads) ∧
        bundle.messages.map (·.contents.readable) =
          (firstOfEach ProgramMessage.name messages).map (·.contents.readable) := by
  have hf : firstOfEach Message.name (messages.map (·.toMessage.joined)) =
      (firstOfEach ProgramMessage.name messages).map (·.toMessage.joined) :=
    firstOfEach_map _ messages
  have hp (bundle : Bundle) :
      (parse (document locale messages).writeDocument path).perform.1 = .ok bundle ↔
        (locale ≠ "" ∧ ∀ message ∈ messages, "" ∉ message.contents.payloads) ∧
          bundle.locale = locale ∧ bundle.messages =
            (firstOfEach ProgramMessage.name messages).map (·.toMessage.joined) := by
    rw [parse, document, readDocument_writeDocument (writable_document hl hm) (by decide)]
    constructor
    · rintro ⟨out, hr, hb⟩
      obtain ⟨hc, ha, rfl⟩ := readRoot_eq_ok_iff.1 hr
      exact ⟨hc, ha, hb.trans hf⟩
    · rintro ⟨hc, ha, hb⟩
      exact ⟨_, readRoot_eq_ok_iff.2 ⟨hc, ha, rfl⟩, hb.trans hf.symm⟩
  refine ⟨_, encode_eq_ok hl hm, ⟨?_, ?_⟩, ?_⟩
  · rintro ⟨bundle, hb⟩
    exact ((hp bundle).1 hb).1
  · intro hc
    obtain ⟨bundle, ha, hb⟩ :=
      Bundle.exists_of_messages hc.1 (messages.map (·.toMessage.joined))
    exact ⟨bundle, (hp bundle).2 ⟨hc, ha, hb.trans hf⟩⟩
  · intro bundle hb
    obtain ⟨-, hl, hm⟩ := (hp bundle).1 hb
    refine ⟨hl, hm, ?_, ?_⟩
    · simp [hm, Message.joined, ProgramMessage.toMessage]
    · simp [hm, Message.joined, ProgramMessage.toMessage]

/-- Two messages of one name with characters that a document holds in other words. -/
def repeatedTab : List ProgramMessage :=
  [{ name := "a\tb", contents := [.text "x\r", .text "", .text "<y", .placeholder "]]>"],
     labels := ["note"], name_ne := by decide },
   { name := "a\tb", contents := [.text "z"], name_ne := by decide }]

/-- The first of two messages comes back with its runs of text joined. -/
theorem parse_encode_repeatedTab :
    isLegalText "en" ∧ (∀ message ∈ repeatedTab, isLegalMessage message) ∧
      ∃ text bundle, encode "en" repeatedTab = .ok text ∧
        (parse text none).perform.1 = .ok bundle ∧
        bundle.messages =
          [⟨"a\tb", [.text "x\r<y", .placeholder "]]>"], by decide⟩] := by
  have hl : isLegalText "en" := by decide
  have hm : ∀ message ∈ repeatedTab, isLegalMessage message := by decide +kernel
  have hp : ∀ message ∈ repeatedTab, "" ∉ message.contents.payloads := by decide +kernel
  obtain ⟨text, he, hs, hb⟩ := parse_encode "en" repeatedTab none hl hm
  obtain ⟨bundle, hr⟩ := hs.2 ⟨by decide, hp⟩
  refine ⟨hl, hm, text, bundle, he, hr, ?_⟩
  rw [(hb bundle hr).2.1]
  decide +kernel

end Polyglot.Interchange.Xlb
