import Polyglot.Proofs.Interchange.Faithful
import Polyglot.Proofs.Interchange.Unwritable

/-!
# What translators see

A written document shows each message of the program in a unit of its own, in order: its name, its
labels in a note, its source text and, once it is translated, the first of its translations. Inside
each of the two texts the placeholders are numbered from zero. Main statement:
`Xliff.shows_of_encodeReporting`.
-/

namespace Polyglot.Interchange

open Xml Node

variable {contents : Contents} {numbered : Bool}

/-- The placeholders among the nodes of contents carry the numbers from a given one on. -/
theorem map_attribute?_contentNodes (number : Nat) (contents : Contents) :
    ((contentNodes true number contents).filter fun node =>
        node.localName? == some placeholderTag).map (attribute? "id") =
      (List.range' number contents.payloads.length).map fun n => some (toString n) := by
  induction contents generalizing number with
  | nil => rfl
  | cons piece rest ih =>
    cases piece with
    | text words =>
      rw [contentNodes, List.filter_cons_of_neg (by simp [localName?]), ih, Contents.payloads_text]
    | placeholder payload =>
      rw [contentNodes, List.filter_cons_of_pos (by simp [localName?_placeholder]), List.map_cons,
        ih, Contents.payloads_placeholder, List.length_cons, List.range'_succ, List.map_cons]
      rfl

namespace Xliff

variable {source target text : String} {message : ProgramMessage}
  {messages : List ProgramMessage} {targets : List Message}

/-- The element holds the contents, joined, and their placeholders with the numbers 0, 1, … -/
structure Shows (contents : Contents) (element : Node) : Prop where
  reads : ∀ tag name, readContents tag name element.children = .ok contents.joined
  numbers : (element.childrenNamed placeholderTag).map (attribute? "id") =
    (List.range contents.payloads.length).map fun n => some (toString n)

/-- The unit belongs to the message and to the first of the translations of its name. -/
structure ShowsMessage (targets : List Message) (message : ProgramMessage) (unit : Node) :
    Prop where
  id : unit.attribute? "id" = some message.name
  source : ∃ element, unit.childrenNamed "source" = [element] ∧ Shows message.contents element
  translated : (∃ translation ∈ targets, translation.name = message.name) →
    ∃ first element, lookupMessage message.name targets = some first ∧
      unit.childrenNamed "target" = [element] ∧ Shows first.contents element
  untranslated : (∀ translation ∈ targets, translation.name ≠ message.name) →
    unit.childrenNamed "target" = []
  /-- The only thing in a note is its text. -/
  noted : message.labels ≠ [] → ∃ element, unit.childrenNamed "note" = [element] ∧
    element.characters = " / ".intercalate message.labels ∧
    ∀ node ∈ element.children, ∃ words, node = .text words
  unnoted : message.labels = [] → unit.childrenNamed "note" = []

theorem shows_contentsElement (name : String) (h : "" ∉ contents.payloads) :
    Shows contents (contentsElement name contents).joined where
  reads tag name := by
    rw [children_joined]
    exact (readContents_contentNodes tag name 0 contents).trans (if_neg h)
  numbers := by
    rw [childrenNamed_joined, List.map_map, List.range_eq_range',
      ← map_attribute?_contentNodes 0 contents]
    exact List.map_congr_left fun node _ => attribute?_joined "id" node

theorem note?_of_labels_ne (h : message.labels ≠ []) :
    message.note? = some (" / ".intercalate message.labels) := by
  simp [ProgramMessage.note?, h]

theorem showsMessage_unitElement (hm : "" ∉ message.contents.payloads)
    (ht : ∀ first ∈ lookupMessage message.name targets, "" ∉ first.contents.payloads) :
    ShowsMessage targets message (unitElement targets message).joined where
  id := by
    rw [attribute?_joined]
    rfl
  source := by
    refine ⟨_, ?_, shows_contentsElement "source" hm⟩
    simp [childrenNamed_joined, childrenNamed_unitElement_eq]
  translated h := by
    obtain ⟨first, hf⟩ : ∃ first, lookupMessage message.name targets = some first := by
      by_contra hn
      rw [← Option.ne_none_iff_exists', not_not, lookupMessage_eq_none_iff] at hn
      obtain ⟨translation, hk, he⟩ := h
      exact hn translation hk he
    refine ⟨first, _, hf, ?_, shows_contentsElement "target" (ht first hf)⟩
    simp [childrenNamed_joined, childrenNamed_unitElement, hf]
  untranslated h := by
    simp [childrenNamed_joined, childrenNamed_unitElement, lookupMessage_eq_none_iff.2 h]
  noted h := by
    refine ⟨(noteElement (" / ".intercalate message.labels)).joined, ?_, ?_⟩
    · simp [childrenNamed_joined, childrenNamed_unitElement_eq, note?_of_labels_ne h]
    · rw [noteElement, joined_element, joinedAll_cons, joined_text, joinedAll_nil,
        joinTo_text _ (by simp [NoText])]
      split_ifs with he
      · simp [he, characters, charactersOf, Node.children]
      · simp [characters, charactersOf, Node.children]
  unnoted h := by
    simp [childrenNamed_joined, childrenNamed_unitElement_eq, ProgramMessage.note?, h]

/-- The units of a document that is read back, in order. -/
theorem elementsNamed_document_joined :
    (document source target messages targets).joined.elementsNamed "trans-unit" =
      messages.map fun message => (unitElement targets message).joined := by
  rw [elementsNamed_joined, elementsNamed_document (by decide),
    elementsNamed_fileElement (by decide)]
  simp

/-- **A document shows the messages of the program**: read back, it has one unit for each message,
in order, with its name, its labels, its source text and the first of its translations. -/
theorem shows_of_encodeReporting (source target text : String) (messages : List ProgramMessage)
    (targets : List Message)
    (h : (encodeReporting source target messages targets).perform.1 = .ok text)
    (hm : ∀ message ∈ messages, "" ∉ message.contents.payloads)
    (ht : ∀ message ∈ messages, ∀ first ∈ lookupMessage message.name targets,
      "" ∉ first.contents.payloads) :
    ∃ root, Xml.parse text = some root ∧ Namespaces.strayName? [] root = none ∧
      List.Forall₂ (ShowsMessage targets) messages (root.elementsNamed "trans-unit") := by
  obtain ⟨⟨hs, hl⟩, hu, rfl⟩ := encodeReporting_eq_ok_iff.1 h
  have hw := writable_document hs hl hu
  refine ⟨_, Node.parse_writeDocument hw (by decide), hw.strayName?, ?_⟩
  rw [← document, elementsNamed_document_joined, List.forall₂_map_right_iff, List.forall₂_same]
  exact fun message hk => showsMessage_unitElement (hm message hk) (ht message hk)

/-- A message with a note and with runs of text that meet, one without contents, and translations
of which two have the name of the second message. -/
def notedUnits : List ProgramMessage × List Message :=
  ([{ name := "nav", labels := ["home", "menu"], name_ne := by decide,
      contents := [.text "x", .text "", .text "\r", .placeholder "<b>", .placeholder "</b>"] },
    { name := "blank", contents := [], name_ne := by decide }],
   [⟨"spare", [.placeholder ""], by decide⟩, ⟨"blank", [.placeholder "&", .text "y"], by decide⟩,
    ⟨"blank", [.placeholder "\x00"], by decide⟩])

/-- Both messages are shown, the second one with the first of its translations. -/
theorem shows_of_encodeReporting_notedUnits :
    (∀ message ∈ notedUnits.1, "" ∉ message.contents.payloads) ∧
      (∀ message ∈ notedUnits.1, ∀ first ∈ lookupMessage message.name notedUnits.2,
        "" ∉ first.contents.payloads) ∧
      ∃ text root,
        (encodeReporting "en" "de" notedUnits.1 notedUnits.2).perform.1 = .ok text ∧
        Xml.parse text = some root ∧
        List.Forall₂ (ShowsMessage notedUnits.2) notedUnits.1
          (root.elementsNamed "trans-unit") := by
  have hm : ∀ message ∈ notedUnits.1, "" ∉ message.contents.payloads := by decide +kernel
  have ht : ∀ message ∈ notedUnits.1, ∀ first ∈ lookupMessage message.name notedUnits.2,
      "" ∉ first.contents.payloads := by decide +kernel
  have he : (encodeReporting "en" "de" notedUnits.1 notedUnits.2).perform.1 =
      .ok (document "en" "de" notedUnits.1 notedUnits.2).writeDocument :=
    encodeReporting_eq_ok_iff.2 ⟨⟨by decide, by decide⟩, by decide +kernel, rfl⟩
  obtain ⟨root, hp, -, hu⟩ :=
    shows_of_encodeReporting "en" "de" _ notedUnits.1 notedUnits.2 he hm ht
  exact ⟨hm, ht, _, root, he, hp, hu⟩

end Xliff

end Polyglot.Interchange
