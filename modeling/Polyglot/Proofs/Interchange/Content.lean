import Polyglot.Interchange.Content
import Polyglot.Proofs.Interchange.Writing
import Polyglot.Proofs.Message.Joined
import Polyglot.Proofs.Results
import Polyglot.Proofs.Xml.Writable

/-!
# Contents written and read back

Contents are appended as their nodes, and this fails just where a document may not hold one of their
texts: `adds_appendContents`. The nodes of other contents can be written, and what is read of them
are the contents, joined. The only thing that reading refuses is an empty payload: its element holds
no text.

A document of units fails with a text of its own or with the first unit that it may not hold,
`documentRefusal?`.
-/

namespace Polyglot.Interchange

/-! ### What is written -/

/-- The nodes of some contents, placeholders numbered from a given number on. -/
def contentNodes (numbered : Bool) : Nat → Contents → List Xml.Node
  | _, [] => []
  | number, .text text :: rest => .text text :: contentNodes numbered number rest
  | number, .placeholder payload :: rest =>
    .element placeholderTag (placeholderAttributes numbered number) [.text payload] ::
      contentNodes numbered (number + 1) rest

/-- A document may hold the piece of a message. -/
def isLegalContent : Content → Bool
  | .text text => Xml.isLegalText text
  | .placeholder payload => Xml.isLegalText payload

/-- A document may hold the contents. -/
def isLegalContents (contents : Contents) : Bool :=
  contents.all isLegalContent

/-- A document may hold the name, the labels and the contents of a message of the program. -/
def isLegalMessage (message : ProgramMessage) : Bool :=
  Xml.isLegalText message.name && message.labels.all Xml.isLegalText &&
    isLegalContents message.contents

open Xml Node Writing

variable {tag name : String} {contents : Contents} {nodes rest : List Node} {numbered : Bool}

/-! ### Reading -/

theorem readContents_text (words : String) (h : words ≠ "") :
    readContents tag name (.text words :: rest) =
      (.text words :: ·) <$> readContents tag name rest := by
  rw [readContents]
  cases readContents tag name rest <;> simp [h]

/-- What begins with no text is read as a placeholder in front of the rest. -/
theorem exists_of_readContents_cons {node : Node} (hn : NoText (node :: rest))
    (h : readContents tag name (node :: rest) = .ok contents) :
    ∃ payload back, payload? node.children = some payload ∧ node.localName? = some placeholderTag ∧
      readContents tag name rest = .ok back ∧ contents = .placeholder payload :: back := by
  rw [readContents.eq_3 _ _ _ _ fun words he => hn words (by rw [he, List.head?_cons])] at h
  split_ifs at h with hl
  cases hp : payload? node.children with
  | none =>
    rw [hp] at h
    cases h
  | some payload =>
    rw [hp] at h
    obtain ⟨back, hb, hc⟩ := bind_eq_ok_iff.1 h
    exact ⟨payload, back, rfl, by simpa using hl, hb, (Except.ok.inj hc).symm⟩

theorem noText_of_readContents (hn : NoText nodes)
    (h : readContents tag name nodes = .ok contents) :
    ∀ back, contents.head? ≠ some (.text back) := by
  cases nodes with
  | nil =>
    cases h
    simp
  | cons node rest =>
    obtain ⟨payload, back, -, -, -, rfl⟩ := exists_of_readContents_cons hn h
    simp

/-- Contents that are read of joined nodes are joined. -/
theorem isJoined_of_readContents (hj : AllJoined nodes)
    (h : readContents tag name nodes = .ok contents) : contents.IsJoined := by
  induction nodes generalizing contents with
  | nil =>
    cases h
    trivial
  | cons node rest ih =>
    cases node with
    | text words =>
      obtain ⟨hw, hn, hr⟩ := hj
      rw [readContents_text words hw] at h
      obtain ⟨back, hb, rfl⟩ := map_eq_ok_iff.1 h
      exact ⟨hw, noText_of_readContents hn hb, ih hr hb⟩
    | _ =>
      obtain ⟨payload, back, -, -, hb, rfl⟩ := exists_of_readContents_cons (by simp [NoText]) h
      exact (ih hj hb : back.IsJoined)

/-- A run of text in front of joined nodes is a run of text in front of their contents. -/
theorem readContents_joinTo (hj : AllJoined nodes) (words : String) :
    readContents tag name (joinTo (.text words) nodes) =
      (Contents.joinTo (.text words)) <$> readContents tag name nodes := by
  have hs (hn : NoText nodes) : readContents tag name (joinTo (.text words) nodes) =
      (Contents.joinTo (.text words)) <$> readContents tag name nodes := by
    rw [joinTo_text words hn]
    cases hr : readContents tag name nodes with
    | error d =>
      split_ifs with hw
      · rw [hr]; rfl
      · rw [readContents_text words hw, hr]; rfl
    | ok back =>
      rw [map_ok, Contents.joinTo_text (noText_of_readContents hn hr)]
      split_ifs with hw
      · rw [hr]
      · rw [readContents_text words hw, hr]; rfl
  cases nodes with
  | nil => exact hs (by simp [NoText])
  | cons node rest =>
    cases node with
    | text back =>
      rw [joinTo, readContents_text _ (by simp [hj.1]), readContents_text back hj.1]
      cases readContents tag name rest <;> rfl
    | _ => exact hs (by simp [NoText])

theorem localName?_placeholder (attributes : List Attribute) (children : List Node) :
    (Node.element placeholderTag attributes children).localName? = some placeholderTag := by
  rw [localName?, show localPart placeholderTag = placeholderTag by decide]

/-- **The nodes of contents, joined, are read as the contents, joined**, unless a payload is
empty. -/
theorem readContents_contentNodes (tag name : String) (number : Nat) (contents : Contents) :
    readContents tag name (joinedAll (contentNodes numbered number contents)) =
      if "" ∈ contents.payloads then .error (.placeholderShape tag name)
      else .ok contents.joined := by
  induction contents generalizing number with
  | nil => rfl
  | cons piece rest ih =>
    cases piece with
    | text words =>
      rw [contentNodes, joinedAll_cons, joined_text,
        readContents_joinTo (allJoined_joinedAll _), ih, Contents.payloads_text]
      split_ifs <;> rfl
    | placeholder payload =>
      rw [contentNodes, joinedAll_cons, joined_element, joinTo_element,
        readContents.eq_3 _ _ _ _ (by simp),
        localName?_placeholder, if_pos (beq_self_eq_true _)]
      have hp : payload? (joinedAll [.text payload]) =
          if payload = "" then none else some payload := by
        rw [joinedAll_cons, joined_text, joinedAll_nil, joinTo_text payload (by simp [NoText])]
        split_ifs with he <;> simp [payload?, he]
      simp only [children, hp, ih, Contents.payloads_placeholder, List.mem_cons]
      by_cases he : payload = ""
      · simp [he]
        rfl
      · by_cases hr : "" ∈ Contents.payloads rest
        · simp [he, hr, Ne.symm he]
        · simp [he, hr, Ne.symm he]
          rfl

/-! ### Writing -/

theorem isLegalText_note {message : ProgramMessage} {note : String}
    (hn : message.note? = some note) : isLegalText note = message.labels.all isLegalText := by
  rw [ProgramMessage.note?] at hn
  split_ifs at hn
  obtain rfl := Option.some.inj hn
  exact isLegalText_intercalate (by decide) _

/-- A note is legal where the labels are; without labels there is none. -/
theorem all_note (message : ProgramMessage) :
    message.note?.all isLegalText = message.labels.all isLegalText := by
  cases hn : message.note? with
  | some note => rw [Option.all_some, isLegalText_note hn]
  | none =>
    have hl : message.labels = [] := by simpa [ProgramMessage.note?] using hn
    rw [hl]
    rfl

theorem adds_setAttributes_placeholder (numbered : Bool) (number : Nat) :
    Adds none (placeholderAttributes numbered number) []
      (setAttributes (placeholderAttributes numbered number)) := by
  have h := adds_setAttributes (placeholderAttributes numbered number)
  have hl : ((placeholderAttributes numbered number).all fun entry => isLegalText entry.2) := by
    cases numbered with
    | false => rfl
    | true => simp only [placeholderAttributes, if_true, List.all_cons, List.all_nil, Bool.and_true,
        isLegalText_toString]
  rwa [hl] at h

/-- Contents are appended as their nodes, unless a text in them is not legal. -/
theorem adds_appendContents (numbered : Bool) (number : Nat) (contents : Contents) :
    Adds (refusal? (isLegalContents contents)) [] (contentNodes numbered number contents)
      (appendContents numbered number contents) := by
  induction contents generalizing number with
  | nil => exact .nothing
  | cons piece rest ih =>
    rw [isLegalContents, List.all_cons, ← refusal?_or]
    cases piece with
    | text words => exact (adds_appendText words).andThen (ih number)
    | placeholder payload =>
      have ha : putAll (placeholderAttributes numbered number ++ []) [] =
          placeholderAttributes numbered number := by cases numbered <;> rfl
      have hp := ((adds_setAttributes_placeholder numbered number).andThen
        (adds_appendText payload)).appendElement placeholderTag
      rw [ha] at hp
      exact hp.andThen (ih (number + 1))

theorem tagFits_placeholder (hs : Namespaces.strayLocalName? outer placeholderTag = none)
    (number : Nat) :
    Namespaces.TagFits outer placeholderTag (placeholderAttributes numbered number) := by
  cases numbered with
  | false =>
    refine .of_isBare (by decide) hs ?_ ?_ ?_ <;> simp [placeholderAttributes]
  | true =>
    refine .of_isBare (by decide) hs ?_ ?_ (by simp [placeholderAttributes])
    · exact List.forall_mem_singleton.2 (show Namespaces.isBare "id" by decide)
    · exact List.forall_mem_singleton.2 (isLegalText_toString number)

/-- A document may hold the nodes of legal contents. -/
theorem writable_contentNodes (hs : Namespaces.strayLocalName? outer placeholderTag = none)
    (h : isLegalContents contents) (number : Nat) :
    ∀ node ∈ contentNodes numbered number contents, Writable 1 outer node := by
  induction contents generalizing number with
  | nil => simp [contentNodes]
  | cons piece rest ih =>
    rw [isLegalContents, List.all_cons, Bool.and_eq_true] at h
    cases piece with
    | text words => exact List.forall_mem_cons.2 ⟨.text h.1, ih h.2 number⟩
    | placeholder payload =>
      refine List.forall_mem_cons.2 ⟨.element (tagFits_placeholder hs number) ?_, ih h.2 _⟩
      exact List.forall_mem_singleton.2 (.text h.1)

/-! ### Documents of units -/

/-- The failure of writing a document with some texts of its own and a unit for each message: a
wrong value among its own texts, or the failure of the first unit that it may not hold. -/
def documentRefusal? (own : List String) (tag : String) (legal : ProgramMessage → Bool)
    (messages : List ProgramMessage) : Option Failure :=
  (refusal? (own.all isLegalText)).or (messages.findSome? fun message =>
    (refusal? (legal message)).map (unitFailure tag message.name))

theorem documentRefusal?_eq_none_iff {own : List String} {legal : ProgramMessage → Bool}
    {messages : List ProgramMessage} : documentRefusal? own tag legal messages = none ↔
      (∀ text ∈ own, isLegalText text) ∧ ∀ message ∈ messages, legal message := by
  simp [documentRefusal?]

/-! ### Looking for elements -/

theorem elementsNamedIn_contentNodes (hn : placeholderTag ≠ name) (number : Nat) :
    elementsNamedIn name (contentNodes numbered number contents) = [] := by
  induction contents generalizing number with
  | nil => rfl
  | cons piece rest ih =>
    cases piece with
    | text => exact ih number
    | placeholder payload =>
      have hl : localPart placeholderTag ≠ name := by
        rwa [show localPart placeholderTag = placeholderTag by decide]
      simp [contentNodes, elementsNamedIn, elementsNamed, hl, ih]

theorem requireAttribute_of_ne {key value : String} {node : Node}
    (ha : node.attribute? key = some value) (hv : value ≠ "") :
    requireAttribute key node = .ok ⟨value, hv⟩ := by
  simp [requireAttribute, ha, hv]

theorem requireAttribute_of_empty {key : String} {node : Node}
    (ha : node.attribute? key = some "") :
    requireAttribute key node = .error (.attributeMissing (node.localName?.getD "") key) := by
  simp [requireAttribute, ha]

theorem requireOne_of_eq {node element : Node} (h : node.elementsNamed name = [element]) :
    requireOne name node = .ok element := by
  rw [requireOne, h]

end Polyglot.Interchange
