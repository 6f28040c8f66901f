import Polyglot.Proofs.Xml.Legal
import Polyglot.Proofs.Xml.Markup

/-!
# Writable trees

A tree of elements and text whose tags keep all rules about names and namespaces and whose texts a
document may hold. A written tree of this kind reads as the same tree, its runs of text joined and
its attribute values as they are written; nothing in it is taken for a line end or is refused.
-/

namespace Polyglot.Xml

open Markup Scan

/-! ### Tags -/

namespace Namespaces

/-- Reading finds nothing wrong with a tag inside some namespaces. -/
structure TagFits (outer : Namespaces) (name : String) (attributes : List Attribute) : Prop where
  tag : isName name.toList
  /-- The element has a local name. -/
  stray : strayLocalName? (declarations attributes ++ outer) name = none
  keys : ∀ entry ∈ attributes, isName entry.1.toList ∧ isQualified entry.1 ∧
    entry.1 ≠ "xml:id" ∧ entry.1 ≠ "xml:space"
  values : ∀ entry ∈ attributes, isLegalText entry.2
  nodup : (attributes.map Prod.fst).Nodup
  /-- The declarations are in order. -/
  declared : ∀ entry ∈ attributes, ∀ front ∈ declared? entry.1,
    declarationFindings front entry.2 = []
  fronts : ((declarations attributes).map Prod.fst).Nodup
  bound : ∀ entry ∈ attributes, declared? entry.1 = none →
    (declarations attributes ++ outer).isUnbound entry.1 = false
  repetitions : (declarations attributes ++ outer).repetitions
    ((attributes.map Prod.fst).filter fun key => (declared? key).isNone) = 0

/-- A name of attributes that has no prefix and declares no namespace. -/
def isBare (key : String) : Bool :=
  isName key.toList && isQualified key && (splitName key).1.isNone && key != "xmlns"

variable {outer : Namespaces} {name key : String} {attributes : List Attribute}

theorem splitName_of_fst (h : (splitName key).1 = none) : splitName key = (none, key) := by
  revert h
  fun_cases splitName key
  · exact fun _ => rfl
  · exact fun h => nomatch h

theorem declared?_of_isBare (h : isBare key) : declared? key = none := by
  simp only [isBare, Bool.and_eq_true, bne_iff_ne, Option.isNone_iff_eq_none] at h
  obtain ⟨⟨⟨-, hq⟩, hs⟩, hx⟩ := h
  rw [declared?, if_pos hq, splitName_of_fst hs]
  split
  · rename_i he
    exact absurd (congrArg Prod.snd he) hx
  · rename_i he
    cases congrArg Prod.fst he
  · rfl

theorem declarations_of_isBare (h : ∀ entry ∈ attributes, isBare entry.1) :
    declarations attributes = [] := by
  have hn : attributes.filterMap (fun entry => (declared? entry.1).map (·, entry.2)) = [] := by
    rw [List.filterMap_eq_nil_iff]
    intro entry he
    rw [declared?_of_isBare (h entry he), Option.map_none]
  unfold declarations
  rw [hn]
  rfl

/-- A tag whose attributes have no prefixes fits where its name is in order. -/
theorem TagFits.of_isBare (hn : isName name.toList) (hs : strayLocalName? outer name = none)
    (hk : ∀ entry ∈ attributes, isBare entry.1) (hv : ∀ entry ∈ attributes, isLegalText entry.2)
    (hd : (attributes.map Prod.fst).Nodup) : TagFits outer name attributes := by
  have hb {entry : Attribute} (he : entry ∈ attributes) : isName entry.1.toList ∧
      isQualified entry.1 ∧ (splitName entry.1).1 = none := by
    have h := hk entry he
    simp only [isBare, Bool.and_eq_true, Option.isNone_iff_eq_none] at h
    exact ⟨h.1.1.1, h.1.1.2, h.1.2⟩
  have ho := declarations_of_isBare hk
  refine ⟨hn, by rwa [ho], fun entry he => ?_, hv, hd, fun entry he front hf => ?_, by simp [ho],
    fun entry he _ => ?_, ?_⟩
  · refine ⟨(hb he).1, (hb he).2.1, ?_, ?_⟩ <;> intro hx <;>
      exact absurd (hx ▸ (hb he).2.2) (by decide)
  · rw [declared?_of_isBare (hk entry he)] at hf
    cases hf
  · simp [isUnbound, (hb he).2.2]
  · have hx : ((attributes.map Prod.fst).filter fun key => (declared? key).isNone).filterMap
        ((declarations attributes ++ outer).expandAttribute?) = [] := by
      rw [List.filterMap_eq_nil_iff]
      intro key hkey
      obtain ⟨entry, he, rfl⟩ := List.mem_map.1 (List.mem_filter.1 hkey).1
      simp [expandAttribute?, (hb he).2.2, (hb he).2.1]
    rw [Namespaces.repetitions, hx]
    rfl

end Namespaces

namespace Node

open Namespaces

variable {room : Nat} {outer : Namespaces} {node : Node} {children : List Node} {name : String}
  {attributes : List Attribute} {top next : Opened} {opened : List Opened} {rest : List Char}
  {nodes : List Node}

/-- A tree of elements and text that reading takes without a finding inside some namespaces, with
fewer elements inside each other than there is room for. -/
inductive Writable : (room : Nat) → Namespaces → Node → Prop
  | text {room : Nat} {outer : Namespaces} {words : String} (h : isLegalText words) :
    Writable room outer (.text words)
  | element {room : Nat} {outer : Namespaces} {name : String} {attributes : List Attribute}
      {children : List Node} (ht : TagFits outer name attributes)
      (hc : ∀ child ∈ children, Writable room (declarations attributes ++ outer) child) :
    Writable (room + 1) outer (.element name attributes children)

/-- An element whose attributes have no prefixes is writable where its name is in order. -/
theorem Writable.of_isBare (hn : isName name.toList) (hs : strayLocalName? outer name = none)
    (hk : ∀ entry ∈ attributes, isBare entry.1) (hv : ∀ entry ∈ attributes, isLegalText entry.2)
    (hd : (attributes.map Prod.fst).Nodup) (hc : ∀ child ∈ children, Writable room outer child) :
    Writable (room + 1) outer (.element name attributes children) := by
  refine .element (.of_isBare hn hs hk hv hd) ?_
  rwa [declarations_of_isBare hk]

/-! ### Written characters -/

theorem toList_write_closed (name : String) (attributes : List Attribute) :
    (write (element name attributes [])).toList =
      '<' :: (startChars name attributes true ++ []) := by
  simp [write, startChars, tagEnd, String.toList_join, List.flatMap_map]

theorem toList_write_opened (h : children ≠ []) :
    (write (element name attributes children)).toList =
      '<' :: (startChars name attributes false ++
        ((writeAll children).toList ++ '<' :: '/' :: (name.toList ++ ['>']))) := by
  obtain ⟨child, later, rfl⟩ := List.exists_cons_of_ne_nil h
  simp [write, writeAll, startChars, tagEnd, String.toList_join, List.flatMap_map]

/-! ### Elements read back -/

/-- An element is read where it was written. -/
def ReadsBack (node : Node) : Prop :=
  ∀ ⦃top : Opened⦄ ⦃opened : List Opened⦄ ⦃rest : List Char⦄ ⦃nodes : List Node⦄,
    Reads { top with inside := node.joinedWith written :: top.inside } opened rest nodes →
      Reads top opened (node.write.toList ++ rest) nodes

theorem stops_writeAll (h : ∀ words later, children ≠ .text words :: later)
    (hw : ∀ child ∈ children, Writable room outer child) (hr : Stops (· != '<') rest) :
    Stops (· != '<') ((writeAll children).toList ++ rest) := by
  cases children with
  | nil => simpa [writeAll] using hr
  | cons child later =>
    cases hw child List.mem_cons_self with
    | text => exact absurd rfl (h _ later)
    | @element _ _ _ _ kids =>
      by_cases hk : kids = []
      · subst hk
        simp [writeAll, toList_write_closed, Stops]
      · simp [writeAll, toList_write_opened hk, Stops]

/-- The run of text, if it is not empty. -/
def run? (words : String) : List Node :=
  if words = "" then [] else [text words]

theorem reverse_joinTo_append (words : String) (h : NoText children) (before : List Node) :
    (joinTo (text words) children).reverse ++ before =
      children.reverse ++ (run? words ++ before) := by
  rw [joinTo_text words h, run?]
  split_ifs <;> simp

theorem reads_run? (words : String) (hn : NoText top.inside) (hr : Stops (· != '<') rest)
    (h : Reads { top with inside := run? words ++ top.inside } (next :: opened) rest nodes) :
    Reads top (next :: opened) ((escapeText words).toList ++ rest) nodes := by
  by_cases hw : words = ""
  · subst hw
    exact h
  · rw [run?, if_neg hw] at h
    exact h.words hw hr hn

/-- The nodes of an element are read behind a run of text of theirs that was written before. -/
theorem reads_writeAll (hw : ∀ child ∈ children, Writable room outer child)
    (ih : ∀ name attributes kids, element name attributes kids ∈ children →
      ReadsBack (element name attributes kids))
    (words : String) (hn : NoText top.inside) (hr : Stops (· != '<') rest)
    (h : Reads { top with
        inside := (joinTo (text words) (joinedAllWith written children)).reverse ++ top.inside }
      (next :: opened) rest nodes) :
    Reads top (next :: opened)
      ((escapeText words).toList ++ ((writeAll children).toList ++ rest)) nodes := by
  -- `words` are the runs of text since the last element, which reading joins
  induction children generalizing words top with
  | nil =>
    rw [joinedAllWith, reverse_joinTo_append words (by simp [NoText])] at h
    exact reads_run? words hn hr h
  | cons child later ihl =>
    have hwl : ∀ node ∈ later, Writable room outer node :=
      fun node hm => hw node (List.mem_cons_of_mem child hm)
    have ihe : ∀ name attributes kids, element name attributes kids ∈ later →
        ReadsBack (element name attributes kids) :=
      fun name attributes kids hm => @ih name attributes kids (List.mem_cons_of_mem child hm)
    cases hw child List.mem_cons_self with
    | @text _ _ back hb =>
      rw [joinedAllWith, joinedWith, joinTo_joinTo] at h
      · have hc := ihl hwl ihe (words ++ back) hn h
        simpa [writeAll, write, escapeText] using hc
      · simp
    | @element room outer name attributes kids ht hc =>
      have hs :
          Stops (· != '<') ((writeAll (element name attributes kids :: later)).toList ++ rest) :=
        stops_writeAll (by simp) hw hr
      refine reads_run? words hn hs ?_
      rw [writeAll, String.toList_append, List.append_assoc]
      refine ih name attributes kids List.mem_cons_self ?_
      have hj : joinedAllWith written (element name attributes kids :: later) =
          joinedWith written (element name attributes kids) :: joinedAllWith written later := by
        rw [joinedAllWith, joinedWith, joinTo_element]
      rw [hj, reverse_joinTo_append words (by simp [NoText, joinedWith]), List.reverse_cons,
        List.append_assoc] at h
      refine ihl hwl ihe "" (by simp [NoText, joinedWith]) ?_
      rwa [joinTo_empty]

/-- **A writable element is read back.** -/
theorem Writable.readsBack (h : Writable room outer node) :
    ∀ name attributes children, node = .element name attributes children → ReadsBack node := by
  induction h with
  | text => exact fun _ _ _ h => nomatch h
  | @element room outer name attributes children ht hc ih =>
    rintro _ _ _ - top opened rest nodes hr
    rw [joinedWith] at hr
    have hk : ∀ entry ∈ attributes, isName entry.1.toList := fun entry he => (ht.keys entry he).1
    by_cases hn : children = []
    · subst hn
      rw [toList_write_closed, List.append_nil]
      exact hr.closed ht.tag hk
    · rw [toList_write_opened hn]
      simp only [List.cons_append, List.append_assoc]
      refine Reads.opened ?_ ht.tag hk
      refine reads_writeAll hc (fun _ _ _ hm => ih _ hm _ _ _ rfl) "" (by simp [NoText]) ?_ ?_
      · simp [Stops]
      · rw [joinTo_empty, List.append_nil]
        refine Reads.finish ?_ ht.tag
        rwa [Opened.complete, List.reverse_reverse]

/-! ### Legal characters -/

theorem isKept_of_flatMap {escape : Char → List Char} {text : String}
    (he : ∀ c, ∀ d ∈ escape c, d ≠ '\r' ∧ (isLegal c → isLegal d)) (h : isLegalText text) :
    ∀ c ∈ text.toList.flatMap escape, IsKept c := by
  intro d hd
  obtain ⟨c, hc, hd⟩ := List.mem_flatMap.1 hd
  exact ⟨(he c d hd).2 (List.all_eq_true.1 h c hc), (he c d hd).1⟩

theorem isKept_escapeText {text : String} (h : isLegalText text) :
    ∀ c ∈ (escapeText text).toList, IsKept c := by
  rw [escapeText, String.toList_ofList]
  exact isKept_of_flatMap (fun c d hd => (mem_escapeTextChar hd).2.2) h

theorem isKept_escapeValue {text : String} (h : isLegalText text) :
    ∀ c ∈ (escapeValue text).toList, IsKept c := by
  rw [escapeValue, String.toList_ofList]
  exact isKept_of_flatMap (fun c d hd => (mem_escapeValueChar hd).2.2) h

theorem isKept_attributeChars {entry : Attribute} (hk : isName entry.1.toList)
    (hv : isLegalText entry.2) : ∀ c ∈ attributeChars entry, IsKept c := by
  have hb : IsKept ' ' ∧ IsKept '=' ∧ IsKept '"' := by
    refine ⟨⟨?_, ?_⟩, ⟨?_, ?_⟩, ⟨?_, ?_⟩⟩ <;> decide
  simp only [attributeChars, List.forall_mem_cons, List.forall_mem_append]
  exact ⟨hb.1, isKept_of_isName hk, hb.2.1, hb.2.2, isKept_escapeValue hv, hb.2.2, by simp⟩

theorem isKept_startChars (h : TagFits outer name attributes) (closed : Bool) :
    ∀ c ∈ startChars name attributes closed, IsKept c := by
  have he : ∀ c ∈ tagEnd closed, IsKept c := by
    cases closed <;> simp [tagEnd, IsKept] <;> decide
  simp only [startChars, List.forall_mem_append]
  refine ⟨isKept_of_isName h.tag, ?_, he⟩
  intro c hc
  obtain ⟨entry, hm, hc⟩ := List.mem_flatMap.1 hc
  exact isKept_attributeChars (h.keys entry hm).1 (h.values entry hm) c hc

theorem isKept_writeAll (h : ∀ child ∈ children, ∀ c ∈ child.write.toList, IsKept c) :
    ∀ c ∈ (writeAll children).toList, IsKept c := by
  induction children with
  | nil => simp [writeAll]
  | cons child later ih =>
    rw [List.forall_mem_cons] at h
    simp only [writeAll, String.toList_append, List.forall_mem_append]
    exact ⟨h.1, ih h.2⟩

/-- A written tree holds nothing that reading would refuse or change. -/
theorem Writable.isKept (h : Writable room outer node) : ∀ c ∈ node.write.toList, IsKept c := by
  induction h with
  | text h => exact isKept_escapeText h
  | @element room outer name attributes children ht hc ih =>
    have hb : IsKept '<' ∧ IsKept '/' ∧ IsKept '>' := by
      refine ⟨⟨?_, ?_⟩, ⟨?_, ?_⟩, ⟨?_, ?_⟩⟩ <;> decide
    by_cases hn : children = []
    · subst hn
      simp only [toList_write_closed, List.append_nil, List.forall_mem_cons]
      exact ⟨hb.1, isKept_startChars ht true⟩
    · simp only [toList_write_opened hn, List.forall_mem_cons, List.forall_mem_append]
      exact ⟨hb.1, isKept_startChars ht false, isKept_writeAll ih, hb.1, hb.2.1,
        isKept_of_isName ht.tag, hb.2.2, by simp⟩

/-! ### Local names -/

theorem strayNameIn?_joinTo {namespaces : Namespaces} (h : strayName? namespaces node = none) :
    strayNameIn? namespaces (joinTo node children) = strayNameIn? namespaces children := by
  fun_cases joinTo node children
  case case4 => rw [strayNameIn?, h]
  all_goals rfl

theorem strayNameIn?_joinedAll {namespaces : Namespaces}
    (h : ∀ child ∈ children, strayName? namespaces child.joined = none) :
    strayNameIn? namespaces (joinedAll children) = none := by
  induction children with
  | nil => rfl
  | cons child later ih =>
    rw [List.forall_mem_cons] at h
    rw [joinedAll_cons, strayNameIn?_joinTo h.1, ih h.2]

/-- Every element of a writable tree has a local name. -/
theorem Writable.strayName? (h : Writable room outer node) :
    strayName? outer node.joined = none := by
  induction h with
  | text => rfl
  | element ht hc ih =>
    simp only [joined_element, Namespaces.strayName?, ht.stray, strayNameIn?_joinedAll ih]

end Node

end Polyglot.Xml
