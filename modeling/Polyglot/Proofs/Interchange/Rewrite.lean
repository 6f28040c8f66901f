import Polyglot.Proofs.Interchange.Xliff
import Polyglot.Proofs.Xml.Clean

/-!
# XLIFF documents written anew

What is read of any document can be written again: a clean tree answers contents that are legal and
joined and whose payloads are not empty. Rewriting a document keeps the translations of the messages
that it is written for, and another rewriting changes nothing. Main statement:
`Xliff.rewrite_stable`.
-/

namespace Polyglot.Interchange

open Xml Node

variable {tag name : String} {contents : Contents} {node : Node} {nodes : List Node}

/-! ### Elements of clean trees -/

mutual

theorem isClean_of_mem_elementsNamed (name : String) (node : Node) (h : node.IsClean) :
    ∀ element ∈ elementsNamed name node, element.IsClean := by
  cases h with
  | element ha hj hc =>
    rw [elementsNamed, List.forall_mem_append]
    refine ⟨fun element hm => ?_, isClean_of_mem_elementsNamedIn name _ hc⟩
    split_ifs at hm
    · rw [List.mem_singleton.1 hm]
      exact .element ha hj hc
    · cases hm
  | _ => exact List.forall_mem_nil _

theorem isClean_of_mem_elementsNamedIn (name : String) (nodes : List Node)
    (h : ∀ node ∈ nodes, node.IsClean) :
    ∀ element ∈ elementsNamedIn name nodes, element.IsClean := by
  cases nodes with
  | nil => exact List.forall_mem_nil _
  | cons node rest =>
    obtain ⟨hn, hr⟩ := List.forall_mem_cons.1 h
    exact List.forall_mem_append.2 ⟨isClean_of_mem_elementsNamed name node hn,
      isClean_of_mem_elementsNamedIn name rest hr⟩

end

theorem allClean_children (h : node.IsClean) : AllClean node.children := by
  cases h with
  | element ha hj hc => exact ⟨hj, hc⟩
  | _ => exact .nil

theorem isLegalText_of_attribute? {key value : String} (h : node.IsClean)
    (hv : node.attribute? key = some value) : isLegalText value := by
  cases h with
  | element ha hj hc => exact ha _ (mem_of_lookup hv)
  | _ => cases hv

theorem attribute?_of_requireAttribute {key : String} {value : { value : String // value ≠ "" }}
    (h : requireAttribute key node = .ok value) : node.attribute? key = some value.1 := by
  rw [requireAttribute] at h
  split_ifs at h with he
  obtain rfl := Except.ok.inj h
  obtain ⟨words, ha⟩ : ∃ words, node.attribute? key = some words := by
    by_contra hn
    rw [← Option.ne_none_iff_exists', not_not] at hn
    exact he (by rw [hn, Option.getD_none])
  show node.attribute? key = some ((node.attribute? key).getD "")
  rw [ha, Option.getD_some]

theorem elementsNamed_of_requireOne {element : Node} (h : requireOne name node = .ok element) :
    node.elementsNamed name = [element] := by
  rw [requireOne] at h
  split at h
  · cases h
  · rename_i other he
    obtain rfl := Except.ok.inj h
    exact he
  · cases h

theorem mem_of_requireOne {element : Node} (h : requireOne name node = .ok element) :
    element ∈ node.elementsNamed name :=
  elementsNamed_of_requireOne h ▸ List.mem_singleton_self element

/-! ### Contents that are read -/

/-- Contents as documents hold them. -/
structure IsHeld (contents : Contents) : Prop where
  legal : isLegalContents contents
  joined : contents.IsJoined
  full : "" ∉ contents.payloads

theorem payload?_eq_some_iff {payload : String} :
    payload? nodes = some payload ↔ nodes = [.text payload] ∧ payload ≠ "" := by
  fun_cases payload? nodes
  · simp_all
  · rename_i words hw
    have hw : words ≠ "" := by simpa using hw
    simp only [Option.some.injEq, List.cons.injEq, Node.text.injEq, and_true]
    exact ⟨fun he => ⟨he, he ▸ hw⟩, fun he => he.1⟩
  · rename_i hn
    exact ⟨nofun, fun he => absurd he.1 (hn payload)⟩

theorem legal_of_readContents (h : AllClean nodes)
    (hr : readContents tag name nodes = .ok contents) :
    isLegalContents contents ∧ "" ∉ contents.payloads := by
  induction nodes generalizing contents with
  | nil =>
    cases hr
    exact ⟨rfl, List.not_mem_nil⟩
  | cons node rest ih =>
    obtain ⟨hc, -⟩ := List.forall_mem_cons.1 h.clean
    by_cases hn : ∃ words, node = .text words
    · obtain ⟨words, rfl⟩ := hn
      rw [readContents_text words h.joined.1] at hr
      obtain ⟨back, hb, rfl⟩ := map_eq_ok_iff.1 hr
      obtain ⟨hl, hp⟩ := ih h.tail hb
      cases hc with
      | text hw => exact ⟨by simpa [isLegalContents, isLegalContent, hw] using hl, hp⟩
    · have ht : NoText (node :: rest) := fun words he => hn ⟨words, Option.some.inj he⟩
      obtain ⟨payload, back, hp, -, hb, rfl⟩ := exists_of_readContents_cons ht hr
      obtain ⟨hl, hf⟩ := ih h.tail hb
      obtain ⟨hk, he⟩ := payload?_eq_some_iff.1 hp
      have hw : isLegalText payload := by
        cases (allClean_children hc).clean (.text payload) (by simp [hk]) with
        | text hw => exact hw
      refine ⟨by simpa [isLegalContents, isLegalContent, hw] using hl, ?_⟩
      rw [Contents.payloads_placeholder, List.mem_cons, not_or]
      exact ⟨he.symm, hf⟩

/-- What is read of clean nodes may be written and read again. -/
theorem isHeld_of_readContents (h : AllClean nodes)
    (hr : readContents tag name nodes = .ok contents) : IsHeld contents :=
  ⟨(legal_of_readContents h hr).1, isJoined_of_readContents h.joined hr,
    (legal_of_readContents h hr).2⟩

namespace Xliff

theorem isHeld_of_readUnit {unit : Node} {message : Message} (h : unit.IsClean)
    (hr : readUnit unit = .ok (some message)) : IsHeld message.contents := by
  obtain ⟨⟨name, hn⟩, -, hr⟩ := bind_eq_ok_iff.1 hr
  dsimp only at hr
  split at hr
  · cases hr
  · rename_i element he
    obtain ⟨contents, hc, hr⟩ := bind_eq_ok_iff.1 hr
    obtain rfl := Option.some.inj (Except.ok.inj hr)
    have hm : element ∈ unit.childrenNamed "target" := he ▸ List.mem_singleton_self element
    have ht := (allClean_children h).clean element (List.mem_filter.1 hm).1
    exact isHeld_of_readContents (allClean_children ht) hc
  · cases hr

/-- The locale and the messages that are read of a clean tree may be written and read again. -/
theorem isHeld_of_readRoot {root : Node} {locale : String} {out : List Message} (h : root.IsClean)
    (hr : readRoot root = .ok (locale, out)) :
    isLegalText locale ∧ ∀ message ∈ out, IsHeld message.contents := by
  obtain ⟨file, hf, hr⟩ := bind_eq_ok_iff.1 hr
  obtain ⟨⟨value, hv⟩, ha, hr⟩ := bind_eq_ok_iff.1 hr
  obtain ⟨units, hu, hr⟩ := bind_eq_ok_iff.1 hr
  obtain ⟨rfl, rfl⟩ := Prod.mk.inj (Except.ok.inj hr)
  have hc : file.IsClean := isClean_of_mem_elementsNamed "file" root h file (mem_of_requireOne hf)
  refine ⟨isLegalText_of_attribute? hc (attribute?_of_requireAttribute ha), fun message hm => ?_⟩
  obtain ⟨answer, ha, rfl⟩ := List.mem_filterMap.1 hm
  obtain ⟨unit, hn, hr⟩ := exists_of_mem_mapM hu ha
  exact isHeld_of_readUnit (isClean_of_mem_elementsNamed "trans-unit" file hc unit hn) hr

/-- The locale and the messages of any bundle that is read may be written and read again. -/
theorem isHeld_of_parse {text : String} {path : Option String} {bundle : Bundle}
    (h : (parse text path).perform.1 = .ok bundle) :
    isLegalText bundle.locale ∧ ∀ message ∈ bundle.messages, IsHeld message.contents := by
  obtain ⟨root, out, hp, -, hr, hb⟩ := readDocument_eq_ok_iff.1 h
  obtain ⟨hl, hm⟩ := isHeld_of_readRoot (isClean_of_parse hp) hr
  exact ⟨hl, fun message hf => hm message (mem_of_mem_firstOfEach (hb ▸ hf))⟩

/-! ### Writing anew -/

theorem map_joined_of_isHeld {bundle : Bundle} (h : ∀ message ∈ bundle.messages,
    IsHeld message.contents) (key : String) :
    (lookupMessage key bundle.messages).map Message.joined = bundle.get? key := by
  cases hl : lookupMessage key bundle.messages with
  | none => exact hl.symm
  | some message =>
    have hj := (h message (List.mem_of_find?_eq_some hl)).joined
    rw [Option.map_some, Message.joined_of_isJoined hj]
    exact hl.symm

/-- **Rewriting a document loses no translation and is stable.** -/
theorem rewrite_stable (text : String) (path : Option String) (bundle : Bundle)
    (h : (parse text path).perform.1 = .ok bundle) (source : String)
    (messages : List ProgramMessage) (hs : isLegalText source)
    (hm : ∀ message ∈ messages, isLegalMessage message) (other : Option String) :
    ∃ copy again,
      (encodeReporting source bundle.locale messages bundle.messages).perform.1 = .ok copy ∧
      (parse copy other).perform.1 = .ok again ∧ again.locale = bundle.locale ∧
      again.messages = (messages.map ProgramMessage.name).eraseDups.filterMap bundle.get? ∧
      (encodeReporting source bundle.locale messages again.messages).perform.1 = .ok copy := by
  obtain ⟨hl, hh⟩ := isHeld_of_parse h
  have hu : ∀ message ∈ messages, isLegalUnit bundle.messages message := by
    intro message hn
    refine isLegalUnit_iff.2 ⟨hm message hn, fun translation ht => ?_⟩
    exact (hh translation (List.mem_of_find?_eq_some ht)).legal
  have hf : ∀ message ∈ messages, IsFull bundle.messages message.name :=
    fun message _ translation ht => (hh translation (List.mem_of_find?_eq_some ht)).full
  -- what was read is joined already, and joining it leaves it as it is
  have ht : translations messages bundle.messages =
      (messages.map ProgramMessage.name).eraseDups.filterMap bundle.get? :=
    List.filterMap_congr fun key _ => map_joined_of_isHeld hh key
  obtain ⟨again, ha, hb⟩ : ∃ again : Bundle, again.locale = bundle.locale ∧
      again.messages = translations messages bundle.messages := by
    rw [← firstOfEach_translations]
    exact Bundle.exists_of_messages bundle.locale_ne _
  -- the messages are looked up in both bundles with the same answers; writing depends on no more
  have hk : ∀ message ∈ messages,
      lookupMessage message.name again.messages = lookupMessage message.name bundle.messages := by
    intro message hn
    have hg : ∀ key message, bundle.get? key = some message → message.name = key :=
      fun _ _ => name_of_lookupMessage
    have hm : message.name ∈ (messages.map ProgramMessage.name).eraseDups :=
      List.mem_eraseDups.2 (List.mem_map_of_mem hn)
    rw [hb, ht, lookupMessage_filterMap hg hm]
    rfl
  have he : encode source bundle.locale messages bundle.messages = .ok _ := encode_eq_ok hs hl hu
  refine ⟨_, again, (perform_encodeReporting ..).trans he, ?_, ha, hb.trans ht, ?_⟩
  · exact (parse_writeDocument_eq_ok_iff other again hs hl hu).2 ⟨⟨bundle.locale_ne, hf⟩, ha, hb⟩
  · exact (perform_encodeReporting ..).trans ((encode_congr hk).trans he)

theorem toList_append_append (s t u : String) :
    (s ++ t ++ u).toList = s.toList ++ t.toList ++ u.toList := by
  rw [String.toList_append, String.toList_append]

/-- A document with prefixes, a comment, a section, a character by its number and a line that ends
in two characters. -/
def foreignText : String :=
  "<x:xliff xmlns:x='urn:x'>\r\n<x:file target-language='de'><!-- n --><x:trans-unit id='c'>" ++
  "<x:target/></x:trans-unit><x:trans-unit id='a'><x:target>1<![CDATA[<]]>&#13;" ++
  "<x:ph>&lt;b></x:ph></x:target></x:trans-unit></x:file></x:xliff>"

/-- The document is written anew for messages of which it has one translation. -/
theorem rewrite_stable_foreignText :
    isLegalText "en" ∧ (∀ message ∈ repeatedUnits.1, isLegalMessage message) ∧
      ∃ bundle copy again, (parse foreignText none).perform.1 = .ok bundle ∧
        (encodeReporting "en" bundle.locale repeatedUnits.1 bundle.messages).perform.1 = .ok copy ∧
        (parse copy none).perform.1 = .ok again ∧
        again.messages = [⟨"a", [.text "1<\r", .placeholder "<b>"], by decide⟩] ∧
        (encodeReporting "en" bundle.locale repeatedUnits.1 again.messages).perform.1 =
          .ok copy := by
  have hs : isLegalText "en" := by decide
  have hm : ∀ message ∈ repeatedUnits.1, isLegalMessage message := by decide +kernel
  have hp : (parse foreignText none).perform.1.toOption.map Bundle.messages =
      some [⟨"c", [], by decide⟩, ⟨"a", [.text "1<\r", .placeholder "<b>"], by decide⟩] := by
    -- the characters are read off the three pieces: those of the joined text take long to compute
    have hl : foreignText.toList = _ := toList_append_append _ _ _
    rw [String.toList_ofList, String.toList_ofList, String.toList_ofList] at hl
    rw [parse, readDocument, readText, Xml.parse, hl]
    decide +kernel
  obtain ⟨bundle, hb, he⟩ := Option.map_eq_some_iff.1 hp
  have hr : (parse foreignText none).perform.1 = .ok bundle := by
    cases hx : (parse foreignText none).perform.1 <;> rw [hx] at hb <;> cases hb
    rfl
  obtain ⟨copy, again, hc, ha, -, hg, hk⟩ :=
    rewrite_stable foreignText none bundle hr "en" repeatedUnits.1 hs hm none
  refine ⟨hs, hm, bundle, copy, again, hr, hc, ha, ?_, hk⟩
  have hf : bundle.get? = fun key => lookupMessage key bundle.messages := rfl
  rw [hg, hf, he]
  decide +kernel

end Xliff

end Polyglot.Interchange
