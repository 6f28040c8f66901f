import Polyglot.Proofs.Interchange.Rewrite
import Polyglot.Proofs.Interchange.Xlb

/-!
# Units read in full

Reading a unit leaves nothing out and adds nothing: its contents are the characters of its element,
the placeholders among them those of the elements inside, and an element that holds anything else is
refused. Both formats are read in this way, unit by unit, and the bundle keeps the first unit of
each name. Main statement: `readsInFull`.
-/

namespace Polyglot

namespace Xml.Node

mutual

/-- The character content of a node, in document order. -/
def characters : Node → String
  | element _ _ children => charactersOf children
  | text words => words
  | comment _ => ""
  | instruction _ _ => ""
  | reference _ => ""

/-- The character content of some nodes, in document order. -/
def charactersOf : List Node → String
  | [] => ""
  | node :: rest => characters node ++ charactersOf rest

end

theorem characters_of_attribute? {node : Node} {key value : String}
    (h : node.attribute? key = some value) : node.characters = charactersOf node.children := by
  cases node with
  | element => rfl
  | _ => cases h

theorem characters_of_localName? {node : Node} {name : String} (h : node.localName? = some name) :
    node.characters = charactersOf node.children := by
  cases node with
  | element => rfl
  | _ => cases h

end Xml.Node

namespace Interchange

open Xml Node

variable {tag name : String} {contents : Contents} {node : Node} {nodes : List Node}
  {text : String} {path : Option String} {bundle : Bundle}

/-- A unit may hold the node: text, or a placeholder that holds one run of text. -/
def isPiece : Node → Bool
  | .text _ => true
  | .element tag _ [.text payload] => localPart tag == placeholderTag && payload != ""
  | _ => false

theorem isPiece_of_payload? {payload : String} (hl : node.localName? = some placeholderTag)
    (hp : payload? node.children = some payload) : isPiece node ∧ node.characters = payload := by
  obtain ⟨hc, he⟩ := payload?_eq_some_iff.1 hp
  cases node with
  | element tag attributes children =>
    obtain rfl : children = [.text payload] := hc
    have ht : localPart tag = placeholderTag := Option.some.inj hl
    exact ⟨by simp [isPiece, ht, he], by simp [characters, charactersOf]⟩
  | _ => cases hl

/-! ### Units -/

/-- Contents are all that the element of a unit holds: they have the normal form of contents, the
characters of the element and the placeholders in it, and it holds nothing else. -/
structure ReadsAll (contents : Contents) (element : Node) : Prop where
  joined : contents.IsJoined
  full : "" ∉ contents.payloads
  readable : contents.readable = element.characters
  payloads : contents.payloads = (element.childrenNamed placeholderTag).map Node.characters
  pieces : ∀ node ∈ element.children, isPiece node

theorem pieces_of_readContents (hc : AllClean nodes)
    (h : readContents tag name nodes = .ok contents) :
    contents.readable = charactersOf nodes ∧
      contents.payloads = (nodes.filter fun node => node.localName? == some placeholderTag).map
        Node.characters ∧
      ∀ node ∈ nodes, isPiece node := by
  induction nodes generalizing contents with
  | nil =>
    cases h
    exact ⟨rfl, rfl, List.forall_mem_nil _⟩
  | cons node rest ih =>
    -- a run of text is not empty, so it is kept; of the other nodes only a placeholder is read
    by_cases ht : ∃ words, node = .text words
    · obtain ⟨words, rfl⟩ := ht
      rw [readContents_text words hc.joined.1] at h
      obtain ⟨back, hb, rfl⟩ := map_eq_ok_iff.1 h
      obtain ⟨hr, hp, hk⟩ := ih hc.tail hb
      exact ⟨by rw [Contents.readable_text, hr, charactersOf, characters],
        by rw [Contents.payloads_text, hp, List.filter_cons_of_neg (by simp [localName?])],
        List.forall_mem_cons.2 ⟨rfl, hk⟩⟩
    · have hn : NoText (node :: rest) := fun words he => ht ⟨words, Option.some.inj he⟩
      obtain ⟨payload, back, hp, hl, hb, rfl⟩ := exists_of_readContents_cons hn h
      obtain ⟨hi, hw⟩ := isPiece_of_payload? hl hp
      obtain ⟨hr, hq, hk⟩ := ih hc.tail hb
      exact ⟨by rw [Contents.readable_placeholder, hr, charactersOf, hw],
        by rw [Contents.payloads_placeholder, hq, List.filter_cons_of_pos (by simp [hl]),
          List.map_cons, hw],
        List.forall_mem_cons.2 ⟨hi, hk⟩⟩

theorem readsAll_of_readContents (hc : node.IsClean)
    (hn : node.characters = charactersOf node.children)
    (h : readContents tag name node.children = .ok contents) : ReadsAll contents node := by
  have hh := isHeld_of_readContents (allClean_children hc) h
  obtain ⟨hr, hp, hk⟩ := pieces_of_readContents (allClean_children hc) h
  exact ⟨hh.joined, hh.full, hr.trans hn.symm, hp, hk⟩

/-! ### Documents -/

/-- The units of a bundle document with their names: its `msg` elements. -/
def Xlb.units (root : Node) : List (Option String × Node) :=
  (root.elementsNamed "msg").map fun unit => (unit.attribute? "name", unit)

/-- The targets of a unit with its name. -/
def Xliff.targets (unit : Node) : List (Option String × Node) :=
  (unit.childrenNamed "target").map fun target => (unit.attribute? "id", target)

/-- The translated units of a document with their names: the targets in its units. -/
def Xliff.units (root : Node) : List (Option String × Node) :=
  ((root.elementsNamed "file").flatMap (elementsNamed "trans-unit")).flatMap targets

/-- A message is read of a unit with its name and with all that the unit holds. -/
structure ReadOf (unit : Option String × Node) (message : Message) : Prop where
  name : unit.1 = some message.name
  contents : ReadsAll message.contents unit.2

/-- A bundle holds the first unit of each name, and each of its units is read in full. -/
structure HoldsFirst (bundle : Bundle) (units : List (Option String × Node)) : Prop where
  locale_ne : bundle.locale ≠ ""
  nodup : (bundle.messages.map Message.name).Nodup
  name_ne : ∀ message ∈ bundle.messages, message.name ≠ ""
  first : ∃ messages, List.Forall₂ ReadOf units messages ∧
    bundle.messages = firstOfEach Message.name messages

theorem HoldsFirst.of_forall₂ {units : List (Option String × Node)} {messages : List Message}
    (h : List.Forall₂ ReadOf units messages)
    (hb : bundle.messages = firstOfEach Message.name messages) : HoldsFirst bundle units :=
  ⟨bundle.locale_ne, bundle.nodup, fun message _ => message.name_ne, messages, h, hb⟩

/-- Each unit of a document that is read holds nothing but the pieces of contents. -/
theorem HoldsFirst.pieces {units : List (Option String × Node)} (h : HoldsFirst bundle units) :
    ∀ unit ∈ units, ∀ node ∈ unit.2.children, isPiece node := by
  intro unit hu
  obtain ⟨messages, hm, -⟩ := h.first
  obtain ⟨message, -, hr⟩ := exists_right_of_forall₂ hm hu
  exact hr.contents.pieces

namespace Xlb

theorem readOf_of_readMessage {message : Message} (hc : node.IsClean)
    (h : readMessage node = .ok message) : ReadOf (node.attribute? "name", node) message := by
  obtain ⟨⟨name, hn⟩, ha, h⟩ := bind_eq_ok_iff.1 h
  obtain ⟨contents, hr, h⟩ := bind_eq_ok_iff.1 h
  obtain rfl := Except.ok.inj h
  have ha := attribute?_of_requireAttribute ha
  exact ⟨ha, readsAll_of_readContents hc (characters_of_attribute? ha) hr⟩

theorem readOf_of_readRoot {root : Node} {locale : String} {messages : List Message}
    (hc : root.IsClean) (h : readRoot root = .ok (locale, messages)) :
    List.Forall₂ ReadOf (units root) messages := by
  obtain ⟨file, -, h⟩ := bind_eq_ok_iff.1 h
  obtain ⟨value, -, h⟩ := bind_eq_ok_iff.1 h
  obtain ⟨out, hm, h⟩ := bind_eq_ok_iff.1 h
  obtain ⟨-, rfl⟩ := Prod.mk.inj (Except.ok.inj h)
  have hu := isClean_of_mem_elementsNamed "msg" root hc
  rw [units, List.forall₂_map_left_iff]
  exact forall₂_of_mapM hm fun unit hn _ hr => readOf_of_readMessage (hu unit hn) hr

end Xlb

namespace Xliff

theorem readOf_of_readUnit {message : Option Message} (hc : node.IsClean)
    (h : readUnit node = .ok message) : List.Forall₂ ReadOf (targets node) message.toList := by
  obtain ⟨⟨name, hn⟩, ha, h⟩ := bind_eq_ok_iff.1 h
  have ha := attribute?_of_requireAttribute ha
  dsimp only at h
  split at h
  · rename_i hu
    obtain rfl := Except.ok.inj h
    rw [targets, hu]
    exact .nil
  · rename_i target hu
    obtain ⟨contents, hr, h⟩ := bind_eq_ok_iff.1 h
    obtain rfl := Except.ok.inj h
    obtain ⟨ht, hl⟩ := List.mem_filter.1 (show target ∈ node.childrenNamed "target" by simp [hu])
    have hr := readsAll_of_readContents ((allClean_children hc).clean target ht)
      (characters_of_localName? (beq_iff_eq.1 hl)) hr
    rw [targets, hu]
    exact .cons ⟨ha, hr⟩ .nil
  · cases h

theorem readOf_of_readRoot {root : Node} {locale : String} {messages : List Message}
    (hc : root.IsClean) (h : readRoot root = .ok (locale, messages)) :
    List.Forall₂ ReadOf (units root) messages := by
  obtain ⟨file, hf, h⟩ := bind_eq_ok_iff.1 h
  obtain ⟨value, -, h⟩ := bind_eq_ok_iff.1 h
  obtain ⟨out, hm, h⟩ := bind_eq_ok_iff.1 h
  obtain ⟨-, rfl⟩ := Prod.mk.inj (Except.ok.inj h)
  have hc := isClean_of_mem_elementsNamed "file" root hc file (mem_of_requireOne hf)
  have hu := isClean_of_mem_elementsNamed "trans-unit" file hc
  rw [units, elementsNamed_of_requireOne hf, List.flatMap_singleton,
    List.filterMap_eq_flatMap_toList]
  exact List.rel_flatMap (forall₂_of_mapM hm fun unit hn _ hr => readOf_of_readUnit (hu unit hn) hr)
    fun _ _ hr => hr

end Xliff

/-- A format reads documents in full: a bundle holds the units of its document, and a document is
refused if one of its units holds anything else than pieces, whatever the kind of the node. -/
structure ReadsInFull (parse : String → Option String → Run Bundle)
    (units : Node → List (Option String × Node)) : Prop where
  holds : ∀ text path bundle, (parse text path).perform.1 = .ok bundle →
    ∃ root, Xml.parse text = some root ∧ HoldsFirst bundle (units root)
  refuses : ∀ text path root, Xml.parse text = some root →
    (∃ unit ∈ units root, ∃ node ∈ unit.2.children, !isPiece node) →
    ∃ failure, (parse text path).perform.1 = .error failure

theorem ReadsInFull.of_readRoot {readRoot : Node → Except Diagnostic (String × List Message)}
    {units : Node → List (Option String × Node)}
    (h : ∀ root locale messages, root.IsClean → readRoot root = .ok (locale, messages) →
      List.Forall₂ ReadOf (units root) messages) :
    ReadsInFull (readDocument readRoot) units := by
  have holds : ∀ text path bundle, (readDocument readRoot text path).perform.1 = .ok bundle →
      ∃ root, Xml.parse text = some root ∧ HoldsFirst bundle (units root) := by
    intro text path bundle hr
    obtain ⟨root, messages, hp, -, hm, hb⟩ := readDocument_eq_ok_iff.1 hr
    exact ⟨root, hp, .of_forall₂ (h root _ messages (isClean_of_parse hp) hm) hb⟩
  refine ⟨holds, fun text path root hp ⟨unit, hu, node, hn, hi⟩ => ?_⟩
  cases hr : (readDocument readRoot text path).perform.1 with
  | error failure => exact ⟨failure, rfl⟩
  | ok bundle =>
    obtain ⟨other, ho, hb⟩ := holds text path bundle hr
    obtain rfl := Option.some.inj (ho.symm.trans hp)
    rw [hb.pieces unit hu node hn] at hi
    cases hi

/-- **Reading loses nothing and adds nothing**, in both formats. -/
theorem readsInFull : ReadsInFull Xlb.parse Xlb.units ∧ ReadsInFull Xliff.parse Xliff.units :=
  ⟨.of_readRoot fun _ _ _ => Xlb.readOf_of_readRoot,
    .of_readRoot fun _ _ _ => Xliff.readOf_of_readRoot⟩

/-- A bundle document with a section, a character by its name and a name that repeats. -/
def Xlb.sectionText : String :=
  "<localizationbundle locale='de'><msg name='a'>1<![CDATA[<]]><ph>&lt;b></ph></msg>" ++
  "<msg name='a'/></localizationbundle>"

/-- A translated document with a comment inside a placeholder. -/
def Xliff.commentText : String :=
  "<file target-language='de'><trans-unit id='a'><target>1<ph>b<!-- n --></ph></target>" ++
  "</trans-unit></file>"

/-- A section is text and the first unit of a name is the one that is held; a placeholder with a
comment in it is refused. -/
theorem readsInFull_section_comment :
    (∃ bundle root, (Xlb.parse Xlb.sectionText none).perform.1 = .ok bundle ∧
      bundle.messages = [⟨"a", [.text "1<", .placeholder "<b>"], by decide⟩] ∧
      Xml.parse Xlb.sectionText = some root ∧ HoldsFirst bundle (Xlb.units root)) ∧
    ∃ root failure, Xml.parse Xliff.commentText = some root ∧
      (∃ unit ∈ Xliff.units root, ∃ node ∈ unit.2.children, !isPiece node) ∧
      (Xliff.parse Xliff.commentText none).perform.1 = .error failure := by
  constructor
  · have hp : (Xlb.parse Xlb.sectionText none).perform.1.toOption.map Bundle.messages =
        some [⟨"a", [.text "1<", .placeholder "<b>"], by decide⟩] := by
      have hl : Xlb.sectionText.toList = _ := String.toList_append
      rw [String.toList_ofList, String.toList_ofList] at hl
      rw [Xlb.parse, readDocument, readText, Xml.parse, hl]
      decide +kernel
    cases hr : (Xlb.parse Xlb.sectionText none).perform.1 with
    | error failure =>
      rw [hr] at hp
      cases hp
    | ok bundle =>
      rw [hr] at hp
      obtain ⟨root, ht, hh⟩ := readsInFull.1.holds _ none bundle hr
      exact ⟨bundle, root, rfl, Option.some.inj hp, ht, hh⟩
  · have hp : (Xml.parse Xliff.commentText).any fun root => (Xliff.units root).any fun unit =>
        unit.2.children.any fun node => !isPiece node := by
      have hl : Xliff.commentText.toList = _ := String.toList_append
      rw [String.toList_ofList, String.toList_ofList] at hl
      rw [Xml.parse, hl]
      decide +kernel
    cases ht : Xml.parse Xliff.commentText with
    | none =>
      rw [ht] at hp
      cases hp
    | some root =>
      rw [ht, Option.any_some] at hp
      obtain ⟨unit, hu, hp⟩ := List.any_eq_true.1 hp
      obtain ⟨node, hn, hi⟩ := List.any_eq_true.1 hp
      obtain ⟨failure, hf⟩ := readsInFull.2.refuses _ none root ht ⟨unit, hu, node, hn, hi⟩
      exact ⟨root, failure, rfl, ⟨unit, hu, node, hn, hi⟩, hf⟩

end Interchange

end Polyglot
