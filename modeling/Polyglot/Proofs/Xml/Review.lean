import Polyglot.Proofs.Xml.Writable

/-!
# Written trees reviewed

A review of a writable tree as it was read back finds nothing. It answers the tree with its values
as they were before they were written.
-/

namespace Polyglot.Xml.Review

open Markup Namespaces

variable {review : Review} {entities : Entities} {place : Place} {room : Nat} {doctype : Doctype}
  {outer : Namespaces} {name : String} {attributes : List Attribute}

/-! ### Values -/

theorem run_reviewReference {entity : String} {c : Char} (h : predefined? entity = some c) :
    (reviewReference entities place room entity).run review = some ([.character c], review) := by
  have hf : entities.find? entity = some (.character c) := by rw [Entities.find?, h]
  rw [reviewReference, hf]
  rfl

theorem run_reviewPiece_entity {entity : String} {c : Char} (h : predefined? entity = some c) :
    (reviewPiece entities place room (.reference (.entity entity))).run review =
      some ([.character c], review) := by
  simp [reviewPiece, run_reviewReference h, chargeParts]

theorem run_reviewPiece_plain {c : Char} (h : valueChar? c = some c) :
    (reviewPiece entities place room (.plain c)).run review = some ([.character c], review) := by
  rw [reviewPiece, h]
  rfl

/-- Each written character of a value is reviewed as itself. -/
theorem run_reviewPiece_valuePiece (c : Char) :
    (reviewPiece entities place room (valuePiece c)).run review =
      some ([.character c], review) := by
  fun_cases valuePiece c
  case case8 _ hl _ _ ht hn hr =>
    refine run_reviewPiece_plain ?_
    have hl : c ≠ '<' := hl
    by_cases hb : c = ' '
    · rw [hb]
      rfl
    · have hs : isSpace c = false := by simp_all [isSpace]
      simp [valueChar?, hl, hs]
  all_goals first | exact run_reviewPiece_entity rfl | rfl

/-- A written value is reviewed as its characters. -/
theorem run_reviewValue (value : String) :
    (reviewValue entities place room (escapeValue value).toList).run review =
      some (value.toList.map .character, review) := by
  have hm : (value.toList.mapM (reviewPiece entities place room ∘ valuePiece)).run review =
      some (value.toList.map fun c => [.character c], review) :=
    run_mapM_of_run fun c _ => run_reviewPiece_valuePiece c
  have hf : (value.toList.map fun c => [ValuePart.character c]).flatten =
      value.toList.map .character := by
    rw [← List.flatMap_def, List.map_eq_flatMap]
  simp [reviewValue, pieces_escapeValue, List.mapM_map, hm, hf]

theorem valueText_characters (value : String) :
    entities.valueText (value.toList.map .character) = value := by
  simp [Entities.valueText, List.flatMap_map]

/-! ### Tags -/

theorem of_strayLocalName? {namespaces : Namespaces} (h : strayLocalName? namespaces name = none) :
    isQualified name ∧ namespaces.isUnbound name = false := by
  rw [strayLocalName?] at h
  split_ifs at h with hs
  simpa using hs

theorem run_reviewNames {namespaces : Namespaces} {present : List String}
    (hn : present.Nodup)
    (hu : ∀ key ∈ present, declared? key = none → namespaces.isUnbound key = false)
    (hr : namespaces.repetitions (present.filter fun key => (declared? key).isNone) = 0) :
    (reviewNames namespaces present []).run review = some ((), review) := by
  have hc : (present.filter fun key => (declared? key).isNone).countP namespaces.isUnbound = 0 := by
    rw [List.countP_eq_zero]
    intro key hk
    obtain ⟨hk, hd⟩ := List.mem_filter.1 hk
    simp [hu key hk (Option.isNone_iff_eq_none.1 hd)]
  have hf : (present.filter fun key => (declared? key).isNone).Nodup := hn.filter _
  simp [reviewNames, noteAll, hc, hr, hf]

section Bare

variable (hb : doctype.attributeRules = [])
include hb

theorem typeOf_eq_text (element key : String) : doctype.typeOf element key = .text := by
  simp [Doctype.typeOf, Doctype.rule?, hb]

theorem standards_eq_nil (element : String) : doctype.standards element = [] := by
  simp [Doctype.standards, hb]

/-- What the review of a written attribute answers. -/
def rawWritten (entry : Attribute) : RawAttribute :=
  ⟨entry.1, escapeValue entry.2, entry.2.toList.map .character⟩

theorem run_reviewAttribute {entry : Attribute} (h : TagFits outer name attributes)
    (he : entry ∈ attributes) :
    (reviewAttribute doctype room name (written entry)).run review =
      some (rawWritten entry, review) := by
  obtain ⟨-, hq, -, hs⟩ := h.keys entry he
  have hd := h.declared entry he
  simp only [reviewAttribute, written, typeOf_eq_text hb]
  simp [noteWhen, hq, hs, run_reviewValue, AttributeType.normalize, valueText_characters]
  cases hf : declared? entry.1 with
  | none => rfl
  | some front =>
    simp only [hd front hf]
    rfl

theorem run_reviewIdentity {entry : Attribute} (h : TagFits outer name attributes)
    (he : entry ∈ attributes) :
    (reviewIdentity doctype name (rawWritten entry)).run review = some ((), review) := by
  obtain ⟨-, -, hi, -⟩ := h.keys entry he
  simp only [reviewIdentity, rawWritten, typeOf_eq_text hb]
  split_ifs <;> simp_all

/-- A tag that fits is reviewed without a finding. -/
theorem run_reviewTag (h : TagFits outer name attributes) :
    (reviewTag doctype room outer name (attributes.map written)).run review =
      some ((declarations attributes ++ outer, attributes), review) := by
  have hm : (attributes.mapM (reviewAttribute doctype room name ∘ written)).run review =
      some (attributes.map rawWritten, review) :=
    run_mapM_of_run fun entry he => run_reviewAttribute hb h he
  have hi : (forM attributes fun entry => reviewIdentity doctype name (rawWritten entry)).run
      review = some ((), review) :=
    run_forM_of_run fun entry he => run_reviewIdentity hb h he
  have hp : (attributes.map rawWritten).map
      (fun raw => (raw.key, doctype.entities.valueText raw.value)) = attributes := by
    rw [List.map_map]
    refine List.map_id'' (fun entry => ?_) attributes
    simp [rawWritten, valueText_characters]
  obtain ⟨hq, hu⟩ := of_strayLocalName? h.stray
  have hn : (reviewNames (declarations attributes ++ outer) (attributes.map Prod.fst) []).run
      review = some ((), review) := run_reviewNames h.nodup
    (fun key hk hd => by
      obtain ⟨entry, he, rfl⟩ := List.mem_map.1 hk
      exact h.bound entry he hd) h.repetitions
  have hd : declarations [] = [] := rfl
  simp [reviewTag, standards_eq_nil hb, noteWhen, hq, List.mapM_map, hm, hp, hd, h.fronts, hn, hu,
    hi, -List.map_map]

/-! ### Nodes -/

variable {refer : Nat → String → Reviewing Unit} {depth levels : Nat} {node : Node}
  {children : List Node}

omit hb in
theorem run_reviewNodes_run (words : String) (hn : Node.NoText children) {answer : List Node}
    (ha : Node.NoText answer)
    (h : (reviewNodes doctype room refer outer depth children).run review = some (answer, review)) :
    (reviewNodes doctype room refer outer depth (Node.joinTo (.text words) children)).run review =
      some (Node.joinTo (.text words) answer, review) := by
  rw [Node.joinTo_text words hn, Node.joinTo_text words ha]
  split_ifs with hw
  · exact h
  · simp [reviewNodes, reviewNode, h]

omit hb in
/-- The nodes of an element are reviewed with a run of text in front of them. -/
theorem run_reviewNodes (hw : ∀ child ∈ children, Node.Writable levels outer child)
    (ih : ∀ child ∈ children, (reviewNode doctype room refer outer depth
      (child.joinedWith written)).run review = some (child.joined, review)) (words : String) :
    (reviewNodes doctype room refer outer depth
        (Node.joinTo (.text words) (Node.joinedAllWith written children))).run review =
      some (Node.joinTo (.text words) (Node.joinedAll children), review) := by
  induction children generalizing words with
  | nil =>
    have hn : Node.NoText [] := by simp [Node.NoText]
    exact run_reviewNodes_run words hn hn rfl
  | cons child later ihl =>
    rw [List.forall_mem_cons] at hw ih
    have hl := ihl hw.2 ih.2
    cases hw.1 with
    | @text _ _ back hb =>
      simp only [Node.joinedAllWith, Node.joinedAll, Node.joinedWith, Node.joinTo_joinTo]
      exact hl (words ++ back)
    | @element levels outer name attributes kids ht hc =>
      have hh := ih.1
      have hs := hl ""
      simp only [Node.joinTo_empty, Node.joined, Node.joinedWith] at hh hs
      simp only [Node.joinedAllWith, Node.joinedAll, Node.joinedWith, Node.joinTo_element]
      refine run_reviewNodes_run words (by simp [Node.NoText]) (by simp [Node.NoText]) ?_
      simp [reviewNodes, hh, hs, Node.joinedAll]

/-- **A writable tree is reviewed without a finding.** -/
theorem run_reviewNode (h : Node.Writable levels outer node) (hd : depth + levels ≤ maxDepth) :
    (reviewNode doctype room refer outer depth (node.joinedWith written)).run review =
      some (node.joined, review) := by
  induction h generalizing depth with
  | text => rfl
  | @element levels outer name attributes children ht hc ih =>
    have hi : ∀ child ∈ children, (reviewNode doctype room refer (declarations attributes ++ outer)
        (depth + 1) (child.joinedWith written)).run review = some (child.joined, review) :=
      fun child hm => ih child hm (by omega)
    have hn := run_reviewNodes hc hi ""
    simp only [Node.joinTo_empty, Node.joinedAll] at hn
    simp [Node.joinedWith, Node.joined, reviewNode, run_reviewTag hb ht, hn,
      show depth < maxDepth by omega]

end Bare

end Polyglot.Xml.Review
