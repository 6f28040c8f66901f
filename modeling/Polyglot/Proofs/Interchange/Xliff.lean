import Polyglot.Interchange.Xliff
import Polyglot.Proofs.Interchange.Content
import Polyglot.Proofs.Interchange.Document
import Mathlib.Data.List.Find

/-!
# XLIFF documents read back

What is written for the messages of the program and their translations is the tree `document`, or
the failure of the first text that it may not hold: `encode_eq`. A document that is written is read
back as the target locale and the first translation of each message, its contents joined. Main
statement: `Xliff.parse_encodeReporting`.
-/

namespace Polyglot.Interchange.Xliff

/-- The attributes of the root. -/
def rootAttributes : List Xml.Attribute :=
  rootDeclarations ++ schemaAttributes

/-- An element on an indented line of its own. -/
def indented (element : Xml.Node) : List Xml.Node :=
  [.text "\n  ", element]

/-- The unit of a message with its translation, if there is one. -/
def unitElement (targets : List Message) (message : ProgramMessage) : Xml.Node :=
  let note := message.note?.map fun note => Xml.Node.element "note" [] [.text note]
  let source := Xml.Node.element "source" [] (contentNodes true 0 message.contents)
  let target := (lookupMessage message.name targets).map fun translation =>
    Xml.Node.element "target" [] (contentNodes true 0 translation.contents)
  .element "trans-unit" [("id", message.name)]
    (note.toList.flatMap indented ++ indented source ++ target.toList.flatMap indented ++
      [.text "\n"])

/-- The root of a document. -/
def document (sourceLocale targetLocale : String) (messages : List ProgramMessage)
    (targets : List Message) : Xml.Node :=
  let units := messages.flatMap fun message => [unitElement targets message, .text "\n"]
  .element "xliff" rootAttributes
    [.text "\n",
     .element "file" (fileAttributes sourceLocale targetLocale)
      [.text "\n", .element "body" [] (.text "\n" :: units), .text "\n"],
     .text "\n"]

/-- A document may hold a message with its translation, if there is one. -/
def isLegalUnit (targets : List Message) (message : ProgramMessage) : Bool :=
  isLegalMessage message &&
    (lookupMessage message.name targets).all fun translation => isLegalContents translation.contents

open Xml Node Writing

variable {source target name : String} {message : ProgramMessage}
  {messages : List ProgramMessage} {targets : List Message}

/-! ### The written tree -/

/-- The namespaces that the root declares. -/
def rootNamespaces : Namespaces :=
  Namespaces.declarations rootAttributes ++ []

theorem tagFits_root : Namespaces.TagFits [] "xliff" rootAttributes where
  tag := by decide
  stray := by decide +kernel
  keys := by decide +kernel
  values := by decide +kernel
  nodup := by decide +kernel
  declared := by decide +kernel
  fronts := by decide +kernel
  bound := by decide +kernel
  repetitions := by decide +kernel

/-- The elements inside the root have names in order. -/
theorem strayLocalName?_rootNamespaces :
    ∀ name ∈ ["file", "body", "trans-unit", "note", "source", "target", "ph"],
      Namespaces.strayLocalName? rootNamespaces name = none := by
  decide +kernel

/-- An element of a unit that holds contents is writable. -/
theorem writable_contents {contents : Contents} (hn : name ∈ ["source", "target"])
    (h : isLegalContents contents) :
    Writable 2 rootNamespaces (.element name [] (contentNodes true 0 contents)) := by
  have hs : Namespaces.strayLocalName? rootNamespaces name = none :=
    strayLocalName?_rootNamespaces name (by revert name; decide)
  have hi : isName name.toList := by revert name; decide
  exact .of_isBare hi hs (by simp) (by simp) (by simp)
    (writable_contentNodes (strayLocalName?_rootNamespaces _ (by decide)) h 0)

/-- The element of a note. -/
def noteElement (note : String) : Node :=
  .element "note" [] [.text note]

/-- The element of some contents under a given name. -/
def contentsElement (name : String) (contents : Contents) : Node :=
  .element name [] (contentNodes true 0 contents)

/-- The elements inside a unit, without the space between them. -/
def unitElements (targets : List Message) (message : ProgramMessage) : List Node :=
  (message.note?.map noteElement).toList ++ contentsElement "source" message.contents ::
    ((lookupMessage message.name targets).map fun translation =>
      contentsElement "target" translation.contents).toList

theorem unitElement_eq (targets : List Message) (message : ProgramMessage) :
    unitElement targets message = .element "trans-unit" [("id", message.name)]
      ((unitElements targets message).flatMap indented ++ [.text "\n"]) := by
  simp only [unitElement, unitElements, List.flatMap_append, List.flatMap_cons, List.append_assoc]
  rfl

theorem writable_indented {room : Nat} {outer : Namespaces} {elements : List Node}
    (h : ∀ element ∈ elements, Writable room outer element) :
    ∀ node ∈ elements.flatMap indented ++ [.text "\n"], Writable room outer node := by
  simp only [List.forall_mem_append, List.mem_flatMap]
  refine ⟨?_, List.forall_mem_singleton.2 (.text (by decide))⟩
  rintro node ⟨element, he, hn⟩
  simp only [indented, List.mem_cons, List.not_mem_nil, or_false] at hn
  rcases hn with rfl | rfl
  · exact .text (by decide)
  · exact h _ he

theorem isLegalUnit_iff : isLegalUnit targets message ↔ isLegalMessage message ∧
    ∀ translation ∈ lookupMessage message.name targets, isLegalContents translation.contents := by
  rw [isLegalUnit, Bool.and_eq_true]
  cases lookupMessage message.name targets <;> simp

theorem writable_unitElements (h : isLegalUnit targets message) :
    ∀ element ∈ unitElements targets message, Writable 2 rootNamespaces element := by
  obtain ⟨hm, ht⟩ := isLegalUnit_iff.1 h
  simp only [unitElements, List.forall_mem_append, List.forall_mem_cons, Option.mem_toList,
    Option.map_eq_some_iff]
  refine ⟨?_, ?_, ?_⟩
  · rintro element ⟨note, hn, rfl⟩
    have hl := hm
    simp only [isLegalMessage, Bool.and_eq_true] at hl
    exact .of_isBare (by decide) (strayLocalName?_rootNamespaces _ (by decide)) (by simp) (by simp)
      (by simp) (List.forall_mem_singleton.2 (.text ((isLegalText_note hn).trans hl.1.2)))
  · simp only [isLegalMessage, Bool.and_eq_true] at hm
    exact writable_contents (by decide) hm.2
  · rintro element ⟨translation, hl, rfl⟩
    exact writable_contents (by decide) (ht translation hl)

theorem writable_unitElement (h : isLegalUnit targets message) :
    Writable 3 rootNamespaces (unitElement targets message) := by
  obtain ⟨hm, -⟩ := isLegalUnit_iff.1 h
  simp only [isLegalMessage, Bool.and_eq_true] at hm
  rw [unitElement_eq]
  refine .of_isBare (by decide) (strayLocalName?_rootNamespaces _ (by decide)) ?_ ?_ (by simp)
    (writable_indented (writable_unitElements h))
  · exact List.forall_mem_singleton.2 (show Namespaces.isBare "id" by decide)
  · exact List.forall_mem_singleton.2 hm.1.1

/-- The element of the file inside the root. -/
def fileElement (source target : String) (messages : List ProgramMessage)
    (targets : List Message) : Node :=
  .element "file" (fileAttributes source target)
    [.text "\n", .element "body" [] (.text "\n" :: messages.flatMap fun message =>
      [unitElement targets message, .text "\n"]), .text "\n"]

theorem writable_fileElement (hs : isLegalText source) (ht : isLegalText target)
    (h : ∀ message ∈ messages, isLegalUnit targets message) :
    Writable 5 rootNamespaces (fileElement source target messages targets) := by
  have hn : ∀ room, Writable room rootNamespaces (.text "\n") := fun _ => .text (by decide)
  refine .of_isBare (by decide) (strayLocalName?_rootNamespaces _ (by decide)) ?_ ?_ (by
    simp [fileAttributes]) ?_
  · simp only [fileAttributes, List.forall_mem_cons]
    exact ⟨by decide, by decide, by decide, by decide, by simp⟩
  · simp only [fileAttributes, List.forall_mem_cons]
    exact ⟨ht, hs, by decide +kernel, by decide, by simp⟩
  · refine List.forall_mem_cons.2 ⟨hn 4, List.forall_mem_cons.2 ⟨?_,
      List.forall_mem_singleton.2 (hn 4)⟩⟩
    refine .of_isBare (by decide) (strayLocalName?_rootNamespaces _ (by decide)) (by simp)
      (by simp) (by simp) (List.forall_mem_cons.2 ⟨hn 3, ?_⟩)
    simp only [List.mem_flatMap]
    rintro node ⟨message, hm, hd⟩
    simp only [List.mem_cons, List.not_mem_nil, or_false] at hd
    rcases hd with rfl | rfl
    · exact writable_unitElement (h message hm)
    · exact hn 3

theorem document_eq (source target : String) (messages : List ProgramMessage)
    (targets : List Message) : document source target messages targets =
      .element "xliff" rootAttributes
        [.text "\n", fileElement source target messages targets, .text "\n"] := rfl

/-- A document may hold the tree of legal units. -/
theorem writable_document (hs : isLegalText source) (ht : isLegalText target)
    (h : ∀ message ∈ messages, isLegalUnit targets message) :
    Writable 6 [] (document source target messages targets) := by
  rw [document_eq]
  refine .element tagFits_root ?_
  exact List.forall_mem_cons.2 ⟨.text (by decide), List.forall_mem_cons.2
    ⟨writable_fileElement hs ht h, List.forall_mem_singleton.2 (.text (by decide))⟩⟩

/-! ### What writing adds up to -/

/-- An element with contents is appended, unless a text in them is not legal. -/
theorem adds_contentsElement (name : String) (contents : Contents) :
    Adds (refusal? (isLegalContents contents)) [] [contentsElement name contents]
      (appendElement name (appendContents true 0 contents)) :=
  (adds_appendContents true 0 contents).appendElement name

/-- The note of a message is appended in front of the line that follows, if there is one. -/
theorem adds_noteElement (message : ProgramMessage) :
    Adds (refusal? (message.labels.all isLegalText)) []
      (message.note?.toList.flatMap fun note => [noteElement note, .text "\n  "])
      (message.note?.forM fun note => do
        appendElement "note" (appendText note)
        indent 1) := by
  have h := Adds.forOption
    (fun note => ((adds_appendText note).appendElement "note").andThen (adds_indent 1))
    message.note?
  simp only [Option.or_none, bind_refusal?, all_note] at h
  cases hn : message.note? <;> rwa [hn] at h

/-- The translation of a message is appended on a line of its own, if there is one. -/
theorem adds_translation (translation? : Option Message) :
    Adds (refusal? (translation?.all fun translation => isLegalContents translation.contents)) []
      ((translation?.map fun translation =>
        contentsElement "target" translation.contents).toList.flatMap indented)
      (translation?.forM fun translation => do
        indent 1
        appendElement "target" (appendContents true 0 translation.contents)) := by
  have h := Adds.forOption (fun translation : Message =>
    (adds_indent 1).andThen (adds_contentsElement "target" translation.contents)) translation?
  simp only [Option.none_or, bind_refusal?] at h
  cases translation? <;> exact h

/-- A unit is appended as its element, unless a text in it is not legal. -/
theorem adds_appendUnit (targets : List Message) (message : ProgramMessage) :
    Adds ((refusal? (isLegalUnit targets message)).map (unitFailure "trans-unit" message.name)) []
      [unitElement targets message] (appendUnit targets message) := by
  have hu := ((adds_setAttribute "id" message.name).andThen ((adds_noteElement message).andThen
    ((adds_contentsElement "source" message.contents).andThen
      (adds_translation (lookupMessage message.name targets))))).inUnit "trans-unit" message.name
  have h := ((adds_indent 1).andThen (hu.andThen (adds_indent 0))).appendElement "trans-unit"
  -- the space behind the note is the space in front of the source
  have he : unitElement targets message = .element "trans-unit" [("id", message.name)]
      (text "\n  " :: ((message.note?.toList.flatMap fun note => [noteElement note, text "\n  "]) ++
        contentsElement "source" message.contents ::
          (((lookupMessage message.name targets).map fun translation =>
            contentsElement "target" translation.contents).toList.flatMap indented ++
              [text "\n"]))) := by
    rw [unitElement]
    cases message.note? <;> rfl
  simp only [Option.or_none, Option.none_or, refusal?_or, ← Bool.and_assoc, List.nil_append,
    List.append_assoc] at h
  rw [he]
  exact h

/-- The units are appended each on a line of its own, unless one of them is not legal. -/
theorem adds_units (targets : List Message) (messages : List ProgramMessage) :
    Adds (messages.findSome? fun message =>
        (refusal? (isLegalUnit targets message)).map (unitFailure "trans-unit" message.name)) []
      (.text "\n" :: messages.flatMap fun message => [unitElement targets message, .text "\n"])
      (do
        indent 0
        messages.forM fun message => do
          appendUnit targets message
          indent 0) := by
  have h := (adds_indent 0).andThen (Adds.forM
    (fun message => (adds_appendUnit targets message).andThen (adds_indent 0)) messages)
  have ha : messages.flatMap (fun _ => ([] : List Attribute)) = [] := by simp
  simp only [Option.or_none, Option.none_or, List.append_nil, ha] at h
  exact h

/-- The file element is appended, unless a locale or a unit is not legal. -/
theorem adds_fileElement (source target : String) (messages : List ProgramMessage)
    (targets : List Message) :
    Adds (documentRefusal? [target, source] "trans-unit" (isLegalUnit targets) messages) []
      [fileElement source target messages targets] (appendElement "file" do
        setAttributes (fileAttributes source target)
        indent 0
        appendElement "body" do
          indent 0
          messages.forM fun message => do
            appendUnit targets message
            indent 0
        indent 0) := by
  have h := ((adds_setAttributes (fileAttributes source target)).andThen
    ((adds_indent 0).andThen (((adds_units targets messages).appendElement "body").andThen
      (adds_indent 0)))).appendElement "file"
  have hl : (fileAttributes source target).all (fun entry => isLegalText entry.2) =
      [target, source].all isLegalText := by
    have ho : isLegalText "localeweaver-inputs" := by decide +kernel
    have hd : isLegalText "plaintext" := by decide +kernel
    simp [fileAttributes, ho, hd]
  simp only [Option.or_none, Option.none_or, hl] at h
  exact h

/-- Writing ends in the document, or in the failure of the first text that it may not hold. -/
theorem encode_eq (source target : String) (messages : List ProgramMessage)
    (targets : List Message) : encode source target messages targets =
      outcome (documentRefusal? [target, source] "trans-unit" (isLegalUnit targets) messages)
        (document source target messages targets).writeDocument := by
  have h := (adds_setAttributes schemaAttributes).andThen ((adds_indent 0).andThen
    ((adds_fileElement source target messages targets).andThen (adds_indent 0)))
  have hl : schemaAttributes.all (fun entry => isLegalText entry.2) := by decide +kernel
  have hn : refusal? true = none := rfl
  simp only [Option.or_none, Option.none_or, hl, hn] at h
  rw [encode, toElement_eq h, outcome_return]
  rfl

theorem encode_eq_ok (hs : isLegalText source) (ht : isLegalText target)
    (h : ∀ message ∈ messages, isLegalUnit targets message) :
    encode source target messages targets =
      .ok (document source target messages targets).writeDocument := by
  rw [encode_eq, documentRefusal?_eq_none_iff.2 ⟨by simp [hs, ht], h⟩]
  rfl

/-! ### The tree that is read -/

theorem indented_cons (element : Node) (rest : List Node) :
    (element :: rest).flatMap indented ++ [text "\n"] =
      text "\n  " :: element :: (rest.flatMap indented ++ [text "\n"]) := rfl

theorem elementsNamedIn_indented (name : String) (elements : List Node) :
    elementsNamedIn name (elements.flatMap indented ++ [text "\n"]) =
      elementsNamedIn name elements := by
  induction elements with
  | nil => rfl
  | cons element rest ih =>
    rw [indented_cons, elementsNamedIn, elementsNamedIn, ih, elementsNamedIn]
    rfl

theorem filter_indented (name : String) (elements : List Node) :
    (elements.flatMap indented ++ [text "\n"]).filter (fun child => child.localName? == some name) =
      elements.filter fun child => child.localName? == some name := by
  induction elements with
  | nil => rfl
  | cons element rest ih =>
    rw [indented_cons, List.filter_cons, List.filter_cons, ih, List.filter_cons]
    rfl

theorem elementsNamedIn_unitElements
    (hn : name ∉ [placeholderTag, "note", "source", "target"]) :
    elementsNamedIn name (unitElements targets message) = [] := by
  simp only [List.mem_cons, List.not_mem_nil, or_false, not_or] at hn
  obtain ⟨hp, hn, hs, ht⟩ := hn
  have hc {tag : String} {contents : Contents} (h : localPart tag ≠ name) :
      elementsNamed name (contentsElement tag contents) = [] := by
    simp [contentsElement, elementsNamed, elementsNamedIn_contentNodes (Ne.symm hp), h]
  have hno (note : String) : elementsNamed name (noteElement note) = [] := by
    have hl : localPart "note" ≠ name := by
      rw [show localPart "note" = "note" by decide]
      exact Ne.symm hn
    simp [noteElement, elementsNamed, elementsNamedIn, hl]
  have hso : localPart "source" ≠ name := by
    rw [show localPart "source" = "source" by decide]
    exact Ne.symm hs
  have hta : localPart "target" ≠ name := by
    rw [show localPart "target" = "target" by decide]
    exact Ne.symm ht
  rw [unitElements, elementsNamedIn_append, elementsNamedIn, hc hso]
  cases message.note? <;> cases lookupMessage message.name targets <;>
    simp [elementsNamedIn, hno, hc hta]

/-- The only unit inside a unit is the unit itself. -/
theorem elementsNamed_unitElement (hn : name ∉ [placeholderTag, "note", "source", "target"]) :
    elementsNamed name (unitElement targets message) =
      if "trans-unit" = name then [unitElement targets message] else [] := by
  have hl : localPart "trans-unit" = "trans-unit" := by decide
  rw [unitElement_eq, elementsNamed, elementsNamedIn_indented, elementsNamedIn_unitElements hn,
    hl, List.append_nil]
  simp only [beq_iff_eq]

theorem elementsNamed_fileElement
    (hn : name ∉ [placeholderTag, "note", "source", "target", "body"]) :
    elementsNamed name (fileElement source target messages targets) =
      (if "file" = name then [fileElement source target messages targets] else []) ++
        if "trans-unit" = name then messages.map (unitElement targets) else [] := by
  have hu : name ∉ [placeholderTag, "note", "source", "target"] := fun h => hn (by
    simp only [List.mem_cons, List.not_mem_nil, or_false] at h ⊢
    rcases h with h | h | h | h <;> simp [h])
  have hf : localPart "file" = "file" := by decide
  have hb : localPart "body" = "body" := by decide
  have hbn : "body" ≠ name := fun h => hn (by simp [← h])
  have hm : elementsNamedIn name (messages.flatMap fun message =>
      [unitElement targets message, text "\n"]) =
        if "trans-unit" = name then messages.map (unitElement targets) else [] := by
    induction messages with
    | nil => simp [elementsNamedIn]
    | cons message rest ih =>
      simp only [List.flatMap_cons, List.cons_append, List.nil_append, elementsNamedIn, ih,
        elementsNamed_unitElement hu, elementsNamed]
      split_ifs <;> rfl
  simp [fileElement, elementsNamed, elementsNamedIn, hf, hb, hbn, hm]

theorem elementsNamed_document
    (hn : name ∉ [placeholderTag, "note", "source", "target", "body", "xliff"]) :
    elementsNamed name (document source target messages targets) =
      elementsNamed name (fileElement source target messages targets) := by
  have hl : localPart "xliff" = "xliff" := by decide
  have hx : "xliff" ≠ name := fun h => hn (by simp [← h])
  simp [document_eq, elementsNamed, elementsNamedIn, hl, hx]

theorem filter_localName? (tag : String) {elements : List Node}
    (h : ∀ element ∈ elements, element.localName? = some tag) (name : String) :
    elements.filter (fun element => element.localName? == some name) =
      if name = tag then elements else [] := by
  split_ifs with hn
  · exact List.filter_eq_self.2 fun element he => by simp [h element he, hn]
  · exact List.filter_eq_nil_iff.2 fun element he => by simp [h element he, Ne.symm hn]

/-- The elements of a name inside a unit: its note, its source or its target. -/
theorem childrenNamed_unitElement_eq (name : String) :
    childrenNamed name (unitElement targets message) =
      (if name = "note" then (message.note?.map noteElement).toList else []) ++
        ((if name = "source" then [contentsElement "source" message.contents] else []) ++
          if name = "target" then ((lookupMessage message.name targets).map fun translation =>
            contentsElement "target" translation.contents).toList else []) := by
  have hn : localPart "note" = "note" := by decide
  have hs : localPart "source" = "source" := by decide
  have ht : localPart "target" = "target" := by decide
  rw [childrenNamed, unitElement_eq, Node.children, filter_indented, unitElements,
    ← List.singleton_append, List.filter_append, List.filter_append, filter_localName? "note",
    filter_localName? "source", filter_localName? "target"]
  · simp [contentsElement, localName?, ht]
  · simp [contentsElement, localName?, hs]
  · simp [noteElement, localName?, hn]

theorem childrenNamed_unitElement :
    childrenNamed "target" (unitElement targets message) =
      ((lookupMessage message.name targets).map fun translation =>
        contentsElement "target" translation.contents).toList := by
  simp [childrenNamed_unitElement_eq]

/-- A translation of a message may be read: no payload of it is empty. -/
def IsFull (targets : List Message) (key : String) : Prop :=
  ∀ translation ∈ lookupMessage key targets, "" ∉ translation.contents.payloads

theorem readUnit_eq_ok_iff {answer : Option Message} :
    readUnit (unitElement targets message).joined = .ok answer ↔
      IsFull targets message.name ∧
        answer = (lookupMessage message.name targets).map Message.joined := by
  have ha : (unitElement targets message).joined.attribute? "id" = some message.name := by
    rw [attribute?_joined]
    rfl
  rw [readUnit, requireAttribute_of_ne ha message.name_ne, bind_ok, childrenNamed_joined,
    childrenNamed_unitElement]
  cases hl : lookupMessage message.name targets with
  | none => simp [IsFull, hl, pure, Except.pure, eq_comm]
  | some translation =>
    have hc : (contentsElement "target" translation.contents).joined.children =
        joinedAll (contentNodes true 0 translation.contents) := by
      rw [children_joined]
      rfl
    simp only [Option.map_some, Option.toList_some, List.map_cons, List.map_nil, hc,
      readContents_contentNodes, IsFull, hl, Option.mem_some_iff, forall_eq']
    split_ifs with he
    · refine ⟨fun h => ?_, fun h => absurd he h.1⟩
      cases h
    · have hj : translation.joined =
          ⟨message.name, translation.contents.joined, message.name_ne⟩ := by
        simp [Message.joined, name_of_lookupMessage hl]
      rw [hj]
      exact ⟨fun h => ⟨he, (Except.ok.inj h).symm⟩, fun h => h.2 ▸ rfl⟩

/-- What is read of the tree of some messages with their translations, joined. -/
theorem readRoot_eq_ok_iff {answer : String} {out : List Message} :
    readRoot (document source target messages targets).joined = .ok (answer, out) ↔
      (target ≠ "" ∧ ∀ message ∈ messages, IsFull targets message.name) ∧ answer = target ∧
        out = (messages.map ProgramMessage.name).filterMap fun key =>
          (lookupMessage key targets).map Message.joined := by
  have hf : requireOne "file" (document source target messages targets).joined =
      .ok (fileElement source target messages targets).joined := by
    refine requireOne_of_eq ?_
    rw [elementsNamed_joined, elementsNamed_document (by decide),
      elementsNamed_fileElement (by decide)]
    simp
  have ha : (fileElement source target messages targets).joined.attribute? "target-language" =
      some target := by
    rw [attribute?_joined]
    rfl
  have hm : (fileElement source target messages targets).joined.elementsNamed "trans-unit" =
      messages.map fun message => (unitElement targets message).joined := by
    rw [elementsNamed_joined, elementsNamed_fileElement (by decide)]
    simp
  -- every unit that is written has a name, so that reading fails only on its contents
  have hr (out : List (Option Message)) :
      (messages.map fun message => (unitElement targets message).joined).mapM readUnit = .ok out ↔
        (∀ message ∈ messages, IsFull targets message.name) ∧
          out = messages.map fun message =>
            (lookupMessage message.name targets).map Message.joined := by
    rw [List.mapM_map]
    exact mapM_eq_ok_iff fun message _ _ => readUnit_eq_ok_iff
  rw [readRoot, hf, bind_ok, hm]
  by_cases hl : target = ""
  · subst hl
    rw [requireAttribute_of_empty ha]
    exact ⟨nofun, fun h => absurd rfl h.1.1⟩
  · rw [requireAttribute_of_ne ha hl, bind_ok, bind_eq_ok_iff]
    constructor
    · rintro ⟨units, hu, ha⟩
      obtain ⟨rfl, rfl⟩ := Prod.mk.inj (Except.ok.inj ha)
      obtain ⟨hp, rfl⟩ := (hr _).1 hu
      exact ⟨⟨hl, hp⟩, rfl, by simp [List.filterMap_map]⟩
    · rintro ⟨⟨-, hp⟩, rfl, rfl⟩
      refine ⟨_, (hr _).2 ⟨hp, rfl⟩, ?_⟩
      simp [List.filterMap_map, pure, Except.pure]

/-! ### Documents read back -/

/-- The translations of some messages of the program, joined: of each name the first one. -/
def translations (messages : List ProgramMessage) (targets : List Message) : List Message :=
  (messages.map ProgramMessage.name).eraseDups.filterMap fun key =>
    (lookupMessage key targets).map Message.joined

theorem firstOfEach_translations (messages : List ProgramMessage) (targets : List Message) :
    firstOfEach Message.name ((messages.map ProgramMessage.name).filterMap fun key =>
      (lookupMessage key targets).map Message.joined) = translations messages targets := by
  rw [← firstMessages_eq_firstOfEach, firstMessages_filterMap]
  · simp [translations]
  · intro key message h
    obtain ⟨translation, hl, rfl⟩ := Option.map_eq_some_iff.1 h
    exact (name_of_lookupMessage hl : translation.name = key)

/-- What it takes for a written document to be read into a bundle. -/
theorem parse_writeDocument_eq_ok_iff (path : Option String) (bundle : Bundle)
    (hs : isLegalText source) (ht : isLegalText target)
    (h : ∀ message ∈ messages, isLegalUnit targets message) :
    (parse (document source target messages targets).writeDocument path).perform.1 = .ok bundle ↔
      (target ≠ "" ∧ ∀ message ∈ messages, IsFull targets message.name) ∧
        bundle.locale = target ∧ bundle.messages = translations messages targets := by
  rw [parse, document, readDocument_writeDocument (writable_document hs ht h) (by decide)]
  constructor
  · rintro ⟨out, hr, hb⟩
    obtain ⟨hc, ha, rfl⟩ := readRoot_eq_ok_iff.1 hr
    exact ⟨hc, ha, hb.trans (firstOfEach_translations messages targets)⟩
  · rintro ⟨hc, ha, hb⟩
    exact ⟨_, readRoot_eq_ok_iff.2 ⟨hc, ha, rfl⟩,
      hb.trans (firstOfEach_translations messages targets).symm⟩

/-- Writing depends on the translations of the messages only. -/
theorem encode_congr {again : List Message} (h : ∀ message ∈ messages,
      lookupMessage message.name targets = lookupMessage message.name again) :
    encode source target messages targets = encode source target messages again := by
  have hu : ∀ message ∈ messages, appendUnit targets message = appendUnit again message := by
    intro message hm
    rw [appendUnit, h message hm]
    rfl
  have hl : messages.forM (fun message => do appendUnit targets message; indent 0) =
      messages.forM (fun message => do appendUnit again message; indent 0) :=
    forM_congr fun message hm => by rw [hu message hm]
  rw [encode, hl]
  rfl

/-- Writing looks at the first translation of each name only. -/
theorem perform_encodeReporting (source target : String) (messages : List ProgramMessage)
    (targets : List Message) :
    (encodeReporting source target messages targets).perform.1 =
      encode source target messages targets :=
  encode_congr fun _ _ => lookupMessage_firstMessages List.not_mem_nil targets

/-- **A document is read back just where it has a target locale and no empty payload**: with that
locale and the first translation of each message, its contents joined. -/
theorem parse_encodeReporting (source target : String) (messages : List ProgramMessage)
    (targets : List Message) (path : Option String) (hs : isLegalText source)
    (ht : isLegalText target) (hm : ∀ message ∈ messages, isLegalMessage message)
    (hl : ∀ message ∈ messages, ∀ translation ∈ lookupMessage message.name targets,
      isLegalContents translation.contents) :
    ∃ text, (encodeReporting source target messages targets).perform.1 = .ok text ∧
      ((∃ bundle, (parse text path).perform.1 = .ok bundle) ↔
        target ≠ "" ∧ ∀ message ∈ messages, ∀ translation ∈ lookupMessage message.name targets,
          "" ∉ translation.contents.payloads) ∧
      ∀ bundle, (parse text path).perform.1 = .ok bundle →
        bundle.locale = target ∧
        bundle.messages = (messages.map ProgramMessage.name).eraseDups.filterMap fun key =>
          (lookupMessage key targets).map Message.joined := by
  have hu : ∀ message ∈ messages, isLegalUnit targets message :=
    fun message h => isLegalUnit_iff.2 ⟨hm message h, hl message h⟩
  have hp (bundle : Bundle) := parse_writeDocument_eq_ok_iff path bundle hs ht hu
  refine ⟨_, (perform_encodeReporting ..).trans (encode_eq_ok hs ht hu), ⟨?_, ?_⟩, ?_⟩
  · rintro ⟨bundle, hb⟩
    exact ((hp bundle).1 hb).1
  · intro hc
    obtain ⟨bundle, ha, hb⟩ := Bundle.exists_of_messages hc.1
      ((messages.map ProgramMessage.name).filterMap fun key =>
        (lookupMessage key targets).map Message.joined)
    exact ⟨bundle, (hp bundle).2 ⟨hc, ha, hb.trans (firstOfEach_translations messages targets)⟩⟩
  · exact fun bundle hb => ((hp bundle).1 hb).2

/-- Messages of the program, two of one name, and translations, two of the same name. -/
def repeatedUnits : List ProgramMessage × List Message :=
  ([{ name := "a", contents := [.text "x", .placeholder ""], labels := ["note"],
      name_ne := by decide },
    { name := "b", contents := [.text "y"], name_ne := by decide },
    { name := "a", contents := [.text "z"], name_ne := by decide }],
   [⟨"c", [.placeholder ""], by decide⟩,
    ⟨"a", [.text "\r", .text "", .text "&", .placeholder "<b>"], by decide⟩,
    ⟨"a", [.placeholder ""], by decide⟩])

/-- The first translation comes back, whatever the others are. -/
theorem parse_encodeReporting_repeatedUnits :
    isLegalText "en" ∧ isLegalText "de" ∧
      (∀ message ∈ repeatedUnits.1, isLegalMessage message) ∧
      (∀ message ∈ repeatedUnits.1, ∀ translation ∈ lookupMessage message.name repeatedUnits.2,
        isLegalContents translation.contents) ∧
      ∃ text bundle,
        (encodeReporting "en" "de" repeatedUnits.1 repeatedUnits.2).perform.1 = .ok text ∧
        (parse text none).perform.1 = .ok bundle ∧
        bundle.messages = [⟨"a", [.text "\r&", .placeholder "<b>"], by decide⟩] := by
  have hs : isLegalText "en" := by decide
  have ht : isLegalText "de" := by decide
  have hm : ∀ message ∈ repeatedUnits.1, isLegalMessage message := by decide +kernel
  have hl : ∀ message ∈ repeatedUnits.1, ∀ translation ∈
      lookupMessage message.name repeatedUnits.2, isLegalContents translation.contents := by
    decide +kernel
  have hp : ∀ message ∈ repeatedUnits.1, ∀ translation ∈
      lookupMessage message.name repeatedUnits.2, "" ∉ translation.contents.payloads := by
    decide +kernel
  obtain ⟨text, he, hi, hb⟩ :=
    parse_encodeReporting "en" "de" repeatedUnits.1 repeatedUnits.2 none hs ht hm hl
  obtain ⟨bundle, hr⟩ := hi.2 ⟨by decide, hp⟩
  refine ⟨hs, ht, hm, hl, text, bundle, he, hr, ?_⟩
  rw [(hb bundle hr).2]
  decide +kernel

end Polyglot.Interchange.Xliff
