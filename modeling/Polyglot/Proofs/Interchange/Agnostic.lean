import Polyglot.Proofs.Interchange.Located

/-!
# Reading without namespaces

Elements are found, read and described by their local names. Two documents whose trees differ in the
namespaces of elements only are read in the same way, up to the wording of every finding. Main
statement: `ignoresNamespaces`.
-/

namespace Polyglot

namespace Xml.Node

/-! ### Trees that differ in namespaces -/

/-- An attribute of this name has no namespace prefix and declares no namespace. -/
def isUnprefixed (key : String) : Bool :=
  (splitName key).1.isNone && key != "xmlns"

/-- The attributes without prefix are the same, in any order. -/
def SameAttributes (attributes others : List Attribute) : Prop :=
  ∀ key, isUnprefixed key → attributes.lookup key = others.lookup key

/-- The nodes are the same, inward as well, but for the namespaces of elements. -/
inductive Alike : Node → Node → Prop
  | element {name other : String} {attributes others : List Attribute} {children nodes : List Node}
      (hn : localPart name = localPart other) (ha : SameAttributes attributes others)
      (hc : List.Forall₂ Alike children nodes) :
      Alike (.element name attributes children) (.element other others nodes)
  | text (words : String) : Alike (.text words) (.text words)
  | comment (words : String) : Alike (.comment words) (.comment words)
  | instruction (target data : String) : Alike (.instruction target data) (.instruction target data)
  | reference (name : String) : Alike (.reference name) (.reference name)

variable {node twin : Node} {nodes others : List Node} {attributes entries : List Attribute}

theorem sameAttributes_iff : SameAttributes attributes entries ↔
    ∀ entry ∈ attributes ++ entries, isUnprefixed entry.1 →
      attributes.lookup entry.1 = entries.lookup entry.1 := by
  constructor
  · exact fun h entry _ => h entry.1
  · intro h key hk
    by_cases hm : ∃ entry ∈ attributes ++ entries, entry.1 = key
    · obtain ⟨entry, he, rfl⟩ := hm
      exact h entry he hk
    · simp only [List.mem_append, not_exists, not_and] at hm
      have hn {list : List Attribute} (hl : ∀ entry ∈ list, entry.1 ≠ key) :
          list.lookup key = none :=
        List.lookup_eq_none_iff.2 fun entry he => bne_iff_ne.2 (hl entry he).symm
      rw [hn fun entry he => hm entry (.inl he), hn fun entry he => hm entry (.inr he)]

instance : Decidable (SameAttributes attributes entries) :=
  decidable_of_iff' _ sameAttributes_iff

mutual

/-- Whether nodes are alike. -/
def isAlike : Node → Node → Bool
  | .element name attributes children, .element other others nodes =>
    localPart name == localPart other && decide (SameAttributes attributes others) &&
      areAlike children nodes
  | .text words, .text others => words == others
  | .comment words, .comment others => words == others
  | .instruction target data, .instruction other others => target == other && data == others
  | .reference name, .reference other => name == other
  | _, _ => false

/-- Whether nodes are alike one by one. -/
def areAlike : List Node → List Node → Bool
  | [], [] => true
  | node :: nodes, twin :: others => isAlike node twin && areAlike nodes others
  | _, _ => false

end

mutual

theorem isAlike_iff (node twin : Node) : isAlike node twin ↔ Alike node twin := by
  cases node with
  | element name attributes children =>
    cases twin with
    | element other others nodes =>
      simp only [isAlike, Bool.and_eq_true, beq_iff_eq, decide_eq_true_eq,
        areAlike_iff children nodes]
      constructor
      · exact fun h => .element h.1.1 h.1.2 h.2
      · rintro ⟨hn, ha, hc⟩
        exact ⟨⟨hn, ha⟩, hc⟩
    | _ => exact iff_of_false nofun nofun
  | text words =>
    cases twin with
    | text others =>
      rw [isAlike, beq_iff_eq]
      exact ⟨fun h => h ▸ .text words, fun h => by cases h; rfl⟩
    | _ => exact iff_of_false nofun nofun
  | comment words =>
    cases twin with
    | comment others =>
      rw [isAlike, beq_iff_eq]
      exact ⟨fun h => h ▸ .comment words, fun h => by cases h; rfl⟩
    | _ => exact iff_of_false nofun nofun
  | instruction target data =>
    cases twin with
    | instruction other others =>
      rw [isAlike, Bool.and_eq_true, beq_iff_eq, beq_iff_eq]
      exact ⟨fun h => h.1 ▸ h.2 ▸ .instruction target data, fun h => by cases h; exact ⟨rfl, rfl⟩⟩
    | _ => exact iff_of_false nofun nofun
  | reference name =>
    cases twin with
    | reference other =>
      rw [isAlike, beq_iff_eq]
      exact ⟨fun h => h ▸ .reference name, fun h => by cases h; rfl⟩
    | _ => exact iff_of_false nofun nofun

theorem areAlike_iff (nodes others : List Node) :
    areAlike nodes others ↔ List.Forall₂ Alike nodes others := by
  cases nodes with
  | nil => cases others <;> simp [areAlike]
  | cons node nodes =>
    cases others with
    | nil => simp [areAlike]
    | cons twin others =>
      simp [areAlike, isAlike_iff node twin, areAlike_iff nodes others]

end

instance : Decidable (Alike node twin) :=
  decidable_of_iff _ (isAlike_iff node twin)

/-! ### Looking into alike trees -/

namespace Alike

theorem localName?_eq (h : Alike node twin) : node.localName? = twin.localName? := by
  cases h with
  | element hn => exact congrArg some hn
  | _ => rfl

theorem describe_eq (h : Alike node twin) : node.describe = twin.describe := by
  cases h with
  | element hn => exact congrArg (fun name => "element <" ++ name ++ ">") hn
  | _ => rfl

theorem attribute?_eq (h : Alike node twin) {key : String} (hk : isUnprefixed key) :
    node.attribute? key = twin.attribute? key := by
  cases h with
  | element _ ha => exact ha key hk
  | _ => rfl

theorem children (h : Alike node twin) : List.Forall₂ Alike node.children twin.children := by
  cases h with
  | element _ _ hc => exact hc
  | _ => exact .nil

theorem childrenNamed (h : Alike node twin) (name : String) :
    List.Forall₂ Alike (node.childrenNamed name) (twin.childrenNamed name) := by
  refine List.rel_filter (fun child other hc => ?_) h.children
  dsimp only
  rw [hc.localName?_eq]

end Alike

mutual

theorem alike_elementsNamed (name : String) (node twin : Node) (h : Alike node twin) :
    List.Forall₂ Alike (elementsNamed name node) (elementsNamed name twin) := by
  cases h with
  | element hn ha hc =>
    rw [elementsNamed, elementsNamed, hn]
    refine List.rel_append ?_ (alike_elementsNamedIn name _ _ hc)
    split_ifs
    · exact .cons (.element hn ha hc) .nil
    · exact .nil
  | _ => exact .nil

theorem alike_elementsNamedIn (name : String) (nodes others : List Node)
    (h : List.Forall₂ Alike nodes others) :
    List.Forall₂ Alike (elementsNamedIn name nodes) (elementsNamedIn name others) := by
  cases h with
  | nil => exact .nil
  | cons hn hr =>
    exact List.rel_append (alike_elementsNamed name _ _ hn) (alike_elementsNamedIn name _ _ hr)

end

end Xml.Node

namespace Interchange

open Xml Node

variable {node twin : Node} {nodes others : List Node}

theorem payload?_eq_of_alike (h : List.Forall₂ Alike nodes others) :
    payload? nodes = payload? others := by
  cases h with
  | nil => rfl
  | cons hn hr =>
    cases hr with
    | nil => cases hn <;> rfl
    | cons => cases hn <;> rfl

theorem readContents_eq_of_alike (tag name : String) (h : List.Forall₂ Alike nodes others) :
    readContents tag name nodes = readContents tag name others := by
  induction h with
  | nil => rfl
  | cons hn hr ih =>
    have hd := hn.describe_eq
    have hl := hn.localName?_eq
    have hp := payload?_eq_of_alike hn.children
    cases hn with
    | text words => rw [readContents, readContents, ih]
    | _ =>
      rw [readContents.eq_3 _ _ _ _ (by simp), readContents.eq_3 _ _ _ _ (by simp), hl, hp, hd, ih]

theorem requireAttribute_eq_of_alike {key : String} (hk : isUnprefixed key)
    (h : Alike node twin) : requireAttribute key node = requireAttribute key twin := by
  simp only [requireAttribute, h.attribute?_eq hk, h.localName?_eq]

/-- What is done with the only element of a name is the same where it is the same for elements that
are alike. -/
theorem requireOne_bind_eq_of_alike {α : Type} {read other : Node → Except Diagnostic α}
    (name : String) (h : Alike node twin)
    (hr : ∀ element copy, Alike element copy → read element = other copy) :
    requireOne name node >>= read = requireOne name twin >>= other := by
  have he := alike_elementsNamed name node twin h
  rw [requireOne, requireOne]
  generalize elementsNamed name node = found at he ⊢
  generalize elementsNamed name twin = again at he ⊢
  cases he with
  | nil => rfl
  | cons hf hl =>
    cases hl with
    | nil => exact hr _ _ hf
    | cons _ hl =>
      simp only [List.length_cons, hl.length_eq]
      rfl

theorem Xlb.readMessage_eq_of_alike (h : Alike node twin) :
    readMessage node = readMessage twin := by
  rw [readMessage, readMessage, requireAttribute_eq_of_alike (by decide) h]
  simp only [readContents_eq_of_alike "msg" _ h.children]

theorem Xlb.readRoot_eq_of_alike (h : Alike node twin) : readRoot node = readRoot twin := by
  rw [readRoot, readRoot]
  refine requireOne_bind_eq_of_alike _ h fun element other he => ?_
  rw [requireAttribute_eq_of_alike (by decide) he,
    mapM_congr_of_forall₂ (alike_elementsNamed "msg" node twin h) fun _ _ =>
      readMessage_eq_of_alike]

theorem Xliff.readUnit_eq_of_alike (h : Alike node twin) : readUnit node = readUnit twin := by
  rw [readUnit, readUnit, requireAttribute_eq_of_alike (by decide) h]
  have ht := h.childrenNamed "target"
  generalize node.childrenNamed "target" = found at ht ⊢
  generalize twin.childrenNamed "target" = again at ht ⊢
  cases ht with
  | nil => rfl
  | cons hf hl =>
    cases hl with
    | nil => simp only [readContents_eq_of_alike "trans-unit" _ hf.children]
    | cons _ hl => simp only [List.length_cons, hl.length_eq]

theorem Xliff.readRoot_eq_of_alike (h : Alike node twin) : readRoot node = readRoot twin := by
  rw [readRoot, readRoot]
  refine requireOne_bind_eq_of_alike _ h fun element other he => ?_
  rw [requireAttribute_eq_of_alike (by decide) he,
    mapM_congr_of_forall₂ (alike_elementsNamed "trans-unit" element other he) fun _ _ =>
      readUnit_eq_of_alike]

/-! ### Documents -/

/-- The result is a bundle or a failure that says what is wrong with the document. -/
def IsAnswer (result : Except Failure Bundle) : Prop :=
  (∃ bundle, result = .ok bundle) ∨ ∃ failure, result = .error (.parse failure)

/-- A format reads the same from two texts with these trees. The one exception are elements without
a local name. -/
structure IgnoresNamespaces (parse : String → Option String → Run Bundle) (path : Option String)
    (text again : String) (root twin : Node) : Prop where
  isAnswer_iff : IsAnswer (parse text path).perform.1 ↔ Namespaces.strayName? [] root = none
  same_iff : (parse text path).perform = (parse again path).perform ↔
    Namespaces.strayName? [] root = Namespaces.strayName? [] twin

variable {readRoot : Node → Except Diagnostic (String × List Message)}

theorem not_isAnswer_of_stray (name : String) :
    ¬ IsAnswer (.error (.value (.invalidTagName name))) := by
  rintro (⟨bundle, h⟩ | ⟨failure, h⟩) <;> cases h

theorem ReadsRoots.isAnswer_iff (h : ReadsRoots readRoot) {text : String} {root : Node}
    (path : Option String) (hp : Xml.parse text = some root) :
    IsAnswer (readDocument readRoot text path).perform.1 ↔
      Namespaces.strayName? [] root = none := by
  cases hs : Namespaces.strayName? [] root with
  | some name =>
    rw [perform_readDocument_of_stray hp hs]
    exact iff_of_false (not_isAnswer_of_stray name) nofun
  | none =>
    rw [perform_readDocument_of_root hp hs]
    refine iff_of_true ?_ rfl
    cases hr : readRoot root with
    | error d => exact .inr ⟨_, rfl⟩
    | ok answer => exact .inl (exists_ofFirst_eq_ok (h.locale_ne root _ _ hr) answer.2)

theorem ReadsRoots.ignoresNamespaces_readDocument (h : ReadsRoots readRoot) {text again : String}
    {root twin : Node} (path : Option String) (hp : Xml.parse text = some root)
    (hq : Xml.parse again = some twin) (hr : readRoot root = readRoot twin) :
    IgnoresNamespaces (readDocument readRoot) path text again root twin where
  isAnswer_iff := h.isAnswer_iff path hp
  same_iff := by
    -- where one of the documents alone has a stray name, only the other one is answered
    have hn := h.isAnswer_iff path hp
    have ht := h.isAnswer_iff path hq
    cases hs : Namespaces.strayName? [] root with
    | none =>
      cases hz : Namespaces.strayName? [] twin with
      | none =>
        rw [perform_readDocument_of_root hp hs, perform_readDocument_of_root hq hz, hr]
        exact iff_of_true rfl rfl
      | some name =>
        refine iff_of_false (fun he => ?_) nofun
        rw [← he, hn, hs, hz] at ht
        exact nomatch ht.1 rfl
    | some name =>
      rw [perform_readDocument_of_stray hp hs] at hn ⊢
      cases hz : Namespaces.strayName? [] twin with
      | none =>
        refine iff_of_false (fun he => ?_) nofun
        rw [← he] at ht
        exact not_isAnswer_of_stray name (ht.2 hz)
      | some other =>
        rw [perform_readDocument_of_stray hq hz]
        simp

/-- **Reading ignores namespaces**, in both formats: of trees that are alike the same is read unless
an element of one of them has no local name, and then the failure is not one of the document. -/
theorem ignoresNamespaces (path : Option String) (text again : String) (root twin : Node)
    (hp : Xml.parse text = some root) (hq : Xml.parse again = some twin) (h : Alike root twin) :
    IgnoresNamespaces Xlb.parse path text again root twin ∧
      IgnoresNamespaces Xliff.parse path text again root twin :=
  ⟨Xlb.readsRoots.ignoresNamespaces_readDocument path hp hq (Xlb.readRoot_eq_of_alike h),
    Xliff.readsRoots.ignoresNamespaces_readDocument path hp hq (Xliff.readRoot_eq_of_alike h)⟩

/-- Two texts are read as trees that are alike and whose stray names are given ones. -/
def areReadAlike (text again : String) (stray other : Option String) : Bool :=
  (Xml.parse text).any fun root => (Xml.parse again).any fun twin =>
    decide (Alike root twin) && Namespaces.strayName? [] root == stray &&
      Namespaces.strayName? [] twin == other

theorem exists_of_areReadAlike {text again : String} {stray other : Option String}
    (h : areReadAlike text again stray other) :
    ∃ root twin, Xml.parse text = some root ∧ Xml.parse again = some twin ∧ Alike root twin ∧
      Namespaces.strayName? [] root = stray ∧ Namespaces.strayName? [] twin = other := by
  obtain ⟨root, hp, h⟩ := (Option.any_eq_true ..).1 h
  obtain ⟨twin, hq, h⟩ := (Option.any_eq_true ..).1 h
  simp only [Bool.and_eq_true, decide_eq_true_eq, beq_iff_eq] at h
  exact ⟨root, twin, hp, hq, h.1.1, h.1.2, h.2⟩

/-- A document with two namespaces, -/
def prefixedText : String :=
  "<x:file xmlns:x='urn:x' y='' target-language='de'><trans-unit id='a' xmlns='urn:y'>" ++
  "<x:target>t<ph>p</ph></x:target></trans-unit></x:file>"

/-- and the same one without. -/
def plainText : String :=
  "<file target-language='de' y=''><trans-unit id='a'>" ++
  "<target>t<ph>p</ph></target></trans-unit></file>"

/-- The namespaces make no difference. -/
theorem ignoresNamespaces_prefixed :
    ∃ root twin, Xml.parse prefixedText = some root ∧ Xml.parse plainText = some twin ∧
      Alike root twin ∧ IsAnswer (Xliff.parse prefixedText none).perform.1 ∧
      (Xliff.parse prefixedText none).perform = (Xliff.parse plainText none).perform := by
  have ha : areReadAlike prefixedText plainText none none := by
    have hl : prefixedText.toList = _ := String.toList_append
    have hr : plainText.toList = _ := String.toList_append
    rw [String.toList_ofList, String.toList_ofList] at hl hr
    rw [areReadAlike, Xml.parse, Xml.parse, hl, hr]
    decide +kernel
  obtain ⟨root, twin, hp, hq, ha, hs, ht⟩ := exists_of_areReadAlike ha
  have hi : IgnoresNamespaces Xliff.parse none prefixedText plainText root twin :=
    (ignoresNamespaces none prefixedText plainText root twin hp hq ha).2
  exact ⟨root, twin, hp, hq, ha, hi.isAnswer_iff.2 hs, hi.same_iff.2 (hs.trans ht.symm)⟩

/-- A document in a namespace with a brace in it, which is accepted because the instruction behind
it is worth a warning, -/
def bracedText : String :=
  "<localizationbundle xmlns='a\x7db' locale='es'><msg name='m'>t</msg><?xmlfoo?>" ++
  "</localizationbundle>"

/-- and the same one in no namespace. -/
def unbracedText : String :=
  "<localizationbundle locale='es'><msg name='m'>t</msg><?xmlfoo?>" ++ "</localizationbundle>"

/-- A namespace may make a difference. -/
theorem not_forall_sameAnswer :
    ¬ ∀ text again root twin, Xml.parse text = some root → Xml.parse again = some twin →
      Alike root twin →
      (∃ bundle, (Xlb.parse text none).perform.1 = .ok bundle ∧
        (Xlb.parse again none).perform.1 = .ok bundle) ∨
      ∃ failure, (Xlb.parse text none).perform.1 = .error (.parse failure) ∧
        (Xlb.parse again none).perform.1 = .error (.parse failure) := by
  have ha : areReadAlike bracedText unbracedText (some "b\x7dlocalizationbundle") none := by
    have hl : bracedText.toList = _ := String.toList_append
    have hr : unbracedText.toList = _ := String.toList_append
    rw [String.toList_ofList, String.toList_ofList] at hl hr
    rw [areReadAlike, Xml.parse, Xml.parse, hl, hr]
    decide +kernel
  obtain ⟨root, twin, hp, hq, ha, hs, -⟩ := exists_of_areReadAlike ha
  intro h
  have hf : (Xlb.parse bracedText none).perform.1 = .error (.value (.invalidTagName _)) :=
    congrArg Prod.fst (perform_readDocument_of_stray hp hs)
  obtain ⟨bundle, hb, -⟩ | ⟨failure, hb, -⟩ := h bracedText unbracedText root twin hp hq ha
  · cases hf.symm.trans hb
  · cases hf.symm.trans hb

end Interchange

end Polyglot
