import Polyglot.Proofs.Xml.Joined
import Polyglot.Proofs.Xml.LegalDoctype
import Polyglot.Proofs.Xml.Markup

/-!
# Clean trees

Whatever a document looks like, its tree is clean: text and values are legal, no run of text is
empty and no two runs meet. Reading has three parts, and each keeps this: a legal text is cut into
legal markup, legal markup builds clean nodes, and a review of clean nodes under legal declarations
answers clean nodes. Main statement: `Node.isClean_of_parse`.
-/

namespace Polyglot.Xml

open Scan

namespace Node

/-- A document may hold all text and all values in the tree, and its runs of text are joined. -/
inductive IsClean : Node → Prop
  | element {name : String} {attributes : List Attribute} {children : List Node}
      (ha : ∀ entry ∈ attributes, isLegalText entry.2) (hj : AllJoined children)
      (hc : ∀ child ∈ children, IsClean child) : IsClean (.element name attributes children)
  | text {words : String} (h : isLegalText words) : IsClean (.text words)
  | comment (words : String) : IsClean (.comment words)
  | instruction (target data : String) : IsClean (.instruction target data)
  | reference (name : String) : IsClean (.reference name)

/-- Nodes side by side that are clean. -/
structure AllClean (nodes : List Node) : Prop where
  joined : AllJoined nodes
  clean : ∀ node ∈ nodes, IsClean node

variable {node first : Node} {nodes rest later : List Node}

theorem AllClean.nil : AllClean [] :=
  ⟨trivial, List.forall_mem_nil _⟩

theorem AllClean.reverse (h : AllClean nodes) : AllClean nodes.reverse :=
  ⟨h.joined.reverse, fun node hm => h.clean node (List.mem_reverse.1 hm)⟩

/-- A node that is no run of text may stand beside any other. -/
theorem AllClean.cons (h : AllClean nodes) (hn : IsClean node) (ht : ∀ words, node ≠ .text words) :
    AllClean (node :: nodes) := by
  refine ⟨?_, List.forall_mem_cons.2 ⟨hn, h.clean⟩⟩
  cases node with
  | text words => exact absurd rfl (ht words)
  | _ => exact h.joined

theorem AllClean.tail (h : AllClean (node :: rest)) : AllClean rest := by
  refine ⟨?_, (List.forall_mem_cons.1 h.clean).2⟩
  cases node with
  | text => exact h.joined.2.2
  | _ => exact h.joined

/-- Clean nodes stay clean when others take their places, runs of text for themselves. -/
theorem AllClean.replace (h : AllClean (node :: rest)) (hf : first.IsClean)
    (hw : ∀ words, first = .text words ↔ node = .text words) (hl : AllClean later)
    (hn : NoText rest → NoText later) : AllClean (first :: later) := by
  cases first with
  | text words =>
    obtain rfl := (hw words).1 rfl
    obtain ⟨he, ht, -⟩ := h.joined
    exact ⟨⟨he, hn ht, hl.joined⟩, List.forall_mem_cons.2 ⟨hf, hl.clean⟩⟩
  | _ => exact hl.cons hf nofun

end Node

open Node

/-! ### Markup -/

namespace Markup

variable {text later : List Char} {markup : List Markup} {nodes : List Node}

/-- A document may hold the text and the values of the markup. -/
def IsLegal : Markup → Prop
  | .start _ attributes _ => ∀ entry ∈ attributes, isLegalText entry.2
  | .characters text _ => LegalChars text
  | _ => True

theorem keeps_attributes (fuel : Nat) : Keeps LegalChars
    (fun answer => ∀ entry ∈ answer.1, isLegalText entry.2) (attributes fuel) := by
  induction fuel with
  | zero => exact .failure
  | succ fuel ih =>
    refine safe_space.andThen fun _ => (safe_tryLiteral _).andThen fun _ =>
      .ite (fun _ => .pure (List.forall_mem_nil _)) fun _ => ?_
    refine (safe_tryLiteral _).andThen fun _ => .ite (fun _ => .pure (List.forall_mem_nil _))
      fun _ => Keeps.ofGuard.andThen fun _ => ?_
    refine keeps_name.andThen fun name => safe_space.andThen fun _ =>
      (safe_literal _).andThen fun _ => safe_space.andThen fun _ => ?_
    refine keeps_quoted.bind fun value hv => ih.bind fun answer ha => .pure ?_
    exact List.forall_mem_cons.2 ⟨isLegalText_ofList.2 hv, ha⟩

theorem keeps_startTag : Keeps LegalChars IsLegal startTag :=
  keeps_name.andThen fun _ => keeps_rest.andThen fun _ =>
    (keeps_attributes _).bind fun _ ha => .pure ha

theorem keeps_bracketed : Keeps LegalChars IsLegal bracketed := by
  refine (safe_tryLiteral _).andThen fun _ => .ite (fun _ => ?_) fun _ => ?_
  · exact keeps_comment.andThen fun _ => .pure True.intro
  refine (safe_tryLiteral _).andThen fun _ => .ite (fun _ => ?_) fun _ => ?_
  · exact (keeps_takeThrough _).bind fun _ ht => .pure ht
  refine (safe_tryLiteral _).andThen fun _ => .ite (fun _ => ?_) fun _ => ?_
  · exact safe_instruction.andThen fun _ => .pure True.intro
  refine (safe_tryLiteral _).andThen fun _ => .ite (fun _ => ?_) fun _ => keeps_startTag
  exact keeps_name.andThen fun _ => safe_close.andThen fun _ => .pure True.intro

theorem isLegal_ofPiece {piece : Piece} (h : piece.IsLegal) : (ofPiece piece).IsLegal := by
  fun_cases ofPiece piece
  · exact List.forall_mem_singleton.2 h
  · exact List.forall_mem_singleton.2 h
  · rename_i hp
    exact List.forall_mem_singleton.2 (isLegal_of_predefined? hp)
  · trivial

theorem isLegal_of_ofRun (h : LegalChars text) (hr : ofRun text = some markup) :
    ∀ piece ∈ markup, piece.IsLegal := by
  rw [ofRun] at hr
  split at hr
  · cases hr
  split_ifs at hr
  · obtain ⟨ps, hp, rfl⟩ := Option.map_eq_some_iff.1 hr
    exact List.forall_mem_map.2 fun piece hm => isLegal_ofPiece (isLegal_of_pieces h hp piece hm)
  · obtain rfl := Option.some.inj hr
    exact List.forall_mem_singleton.2 h

/-- A legal text is cut into legal markup. -/
theorem isLegal_of_ofTextWithin {fuel : Nat} (h : LegalChars text)
    (hm : ofTextWithin fuel text = some markup) : ∀ piece ∈ markup, piece.IsLegal := by
  fun_induction ofTextWithin fuel text generalizing markup with
  | case1 =>
    cases hm
    exact List.forall_mem_nil _
  | case2 => cases hm
  | case3 fuel text ih =>
    obtain ⟨⟨piece, later⟩, hb, hm⟩ := Option.bind_eq_some_iff.1 hm
    obtain ⟨rest, hr, hm⟩ := Option.bind_eq_some_iff.1 hm
    obtain rfl := Option.some.inj hm
    obtain ⟨hl, hp⟩ := keeps_bracketed text (List.forall_mem_cons.1 h).2 piece later hb
    exact List.forall_mem_cons.2 ⟨hp, ih later hl hr⟩
  | case4 fuel c text hc ih =>
    obtain ⟨front, hf, hm⟩ := Option.bind_eq_some_iff.1 hm
    obtain ⟨rest, hr, hm⟩ := Option.bind_eq_some_iff.1 hm
    obtain rfl := Option.some.inj hm
    have hfl := isLegal_of_ofRun (legalChars_takeWhile h _) hf
    exact List.forall_mem_append.2 ⟨hfl, ih (legalChars_dropWhile h _) hr⟩

/-! ### Building -/

@[simp] theorem push_empty (nodes : List Node) : push (.text "") nodes = nodes := by
  cases nodes with
  | nil => rfl
  | cons node rest => cases node <;> simp [push]

/-- A run of text behind clean nodes is joined to the one that it meets. -/
theorem allClean_push {words : String} (h : AllClean nodes) (hw : isLegalText words) :
    AllClean (push (.text words) nodes) := by
  have hs (hn : NoText nodes) : AllClean (push (.text words) nodes) := by
    by_cases he : words = ""
    · subst he
      rwa [push_empty]
    · rw [push_of_noText he hn]
      exact ⟨⟨he, hn, h.joined⟩, List.forall_mem_cons.2 ⟨.text hw, h.clean⟩⟩
  -- only a run of text in front of `words` is changed
  cases nodes with
  | nil => exact hs nofun
  | cons node rest =>
    cases node with
    | text earlier =>
      obtain ⟨⟨he, hn, hj⟩, hc⟩ := h
      obtain ⟨ht, hr⟩ := List.forall_mem_cons.1 hc
      cases ht with
      | text hl =>
        have hb : isLegalText (earlier ++ words) := isLegalText_append.2 ⟨hl, hw⟩
        exact ⟨⟨by simp [he], hn, hj⟩, List.forall_mem_cons.2 ⟨.text hb, hr⟩⟩
    | _ => exact hs (by simp [NoText])

/-- The values and the nodes of an open element are clean. -/
structure Opened.IsClean (opened : Opened) : Prop where
  values : ∀ entry ∈ opened.attributes, isLegalText entry.2
  inside : AllClean opened.inside

variable {top : Opened} {outer : List Opened}

theorem Opened.IsClean.complete (h : top.IsClean) : top.complete.IsClean :=
  .element h.values h.inside.reverse.joined h.inside.reverse.clean

theorem Opened.IsClean.add {node : Node} (h : top.IsClean) (hn : node.IsClean)
    (ht : ∀ words, node ≠ .text words) :
    Opened.IsClean { top with inside := node :: top.inside } :=
  ⟨h.values, h.inside.cons hn ht⟩

/-- Legal markup builds clean nodes inside open elements that are clean. -/
theorem allClean_of_build (h : ∀ piece ∈ markup, piece.IsLegal)
    (ht : ∀ opened ∈ top :: outer, opened.IsClean) (hb : build top outer markup = some nodes) :
    AllClean nodes := by
  fun_induction build top outer markup
  case case1 top =>
    obtain rfl := Option.some.inj hb
    exact (ht top List.mem_cons_self).inside.reverse
  case case3 top outer name attributes later ih =>
    obtain ⟨hp, hl⟩ := List.forall_mem_cons.1 h
    obtain ⟨hi, ho⟩ := List.forall_mem_cons.1 ht
    exact ih hl (List.forall_mem_cons.2 ⟨hi.add (.element hp trivial nofun) nofun, ho⟩) hb
  case case4 top outer name attributes later ih =>
    obtain ⟨hp, hl⟩ := List.forall_mem_cons.1 h
    exact ih hl (List.forall_mem_cons.2 ⟨⟨hp, .nil⟩, ht⟩) hb
  case case6 top next outer name later _ ih =>
    obtain ⟨-, hl⟩ := List.forall_mem_cons.1 h
    obtain ⟨hi, ho⟩ := List.forall_mem_cons.1 ht
    obtain ⟨hn, ho⟩ := List.forall_mem_cons.1 ho
    exact ih hl (List.forall_mem_cons.2 ⟨hn.add hi.complete nofun, ho⟩) hb
  case case8 top outer words literal later ih =>
    obtain ⟨hp, hl⟩ := List.forall_mem_cons.1 h
    obtain ⟨hi, ho⟩ := List.forall_mem_cons.1 ht
    have hn := allClean_push hi.inside (isLegalText_ofList.2 hp)
    exact ih hl (List.forall_mem_cons.2 ⟨⟨hi.values, hn⟩, ho⟩) hb
  case case9 top outer words later ih =>
    obtain ⟨hi, ho⟩ := List.forall_mem_cons.1 ht
    have hn := hi.add (.comment words) nofun
    exact ih (List.forall_mem_cons.1 h).2 (List.forall_mem_cons.2 ⟨hn, ho⟩) hb
  case case10 top outer target data later ih =>
    obtain ⟨hi, ho⟩ := List.forall_mem_cons.1 ht
    have hn := hi.add (.instruction target data) nofun
    exact ih (List.forall_mem_cons.1 h).2 (List.forall_mem_cons.2 ⟨hn, ho⟩) hb
  case case11 top outer name later ih =>
    obtain ⟨hi, ho⟩ := List.forall_mem_cons.1 ht
    have hn := hi.add (.reference name) nofun
    exact ih (List.forall_mem_cons.1 h).2 (List.forall_mem_cons.2 ⟨hn, ho⟩) hb
  -- the other cases have an end tag too many, too few or of another name
  all_goals cases hb

end Markup

/-! ### Reviewing -/

namespace Review

variable {doctype : Doctype} {room : Nat} {refer : Nat → String → Reviewing Unit}
  {namespaces : Namespaces} {depth : Nat} {name : String} {attributes : List Attribute}

theorem isLegalText_of_standards (h : doctype.IsLegal) :
    ∀ entry ∈ doctype.standards name, isLegalText entry.2 := by
  intro entry he
  obtain ⟨rule, hr, he⟩ := List.mem_filterMap.1 he
  split_ifs at he
  obtain ⟨value, hv, rfl⟩ := Option.map_eq_some_iff.1 he
  exact h.rules rule hr value hv

theorem keeps_reviewAttribute (h : doctype.IsLegal) {entry : Attribute}
    (he : isLegalText entry.2) : Keeps (fun _ => True)
      (fun raw => LegalParts raw.value) (reviewAttribute doctype room name entry) := by
  refine Keeps.any.andThen fun _ => ?_
  refine (keeps_reviewValue h.entities (isLegalText_iff.1 he)).bind fun value hv => ?_
  have hn := isLegal_normalize hv (doctype.typeOf name entry.1)
  refine Keeps.any.andThen fun _ => ?_
  extract_lets answered
  cases Namespaces.declared? entry.1 with
  | none => exact .pure hn
  | some front => exact Keeps.any.andThen fun _ => .pure hn

/-- The attributes that a reviewed tag has and those that it leaves out are legal. -/
theorem keeps_reviewTag (h : doctype.IsLegal) (ha : ∀ entry ∈ attributes, isLegalText entry.2) :
    Keeps (fun _ => True) (fun answer => ∀ entry ∈ answer.2, isLegalText entry.2)
      (reviewTag doctype room namespaces name attributes) := by
  refine Keeps.any.andThen fun _ => ?_
  have hr : Keeps (fun _ => True) (fun raw => ∀ entry ∈ raw, LegalParts entry.value)
    (attributes.mapM (reviewAttribute doctype room name)) :=
      .mapM fun entry he => keeps_reviewAttribute h (ha entry he)
  refine hr.bind fun raw hl => ?_
  extract_lets present own missing inner
  refine Keeps.any.andThen fun _ => Keeps.any.andThen fun _ => Keeps.any.andThen fun _ =>
    Keeps.any.andThen fun _ => .pure ?_
  refine List.forall_mem_append.2 ⟨List.forall_mem_map.2 fun entry he => ?_, fun entry he => ?_⟩
  · exact h.entities.valueText (hl entry he)
  · exact isLegalText_of_standards h entry (List.mem_filter.1 he).1

variable {node : Node} {nodes : List Node}

mutual

/-- A review of a clean node answers a clean node, a run of text only for itself. -/
theorem keeps_reviewNode (h : doctype.IsLegal) (room : Nat) (refer : Nat → String → Reviewing Unit)
    (namespaces : Namespaces) (depth : Nat) (node : Node) (hn : node.IsClean) :
    Keeps (fun _ => True)
      (fun answer => answer.IsClean ∧ ∀ words, answer = .text words ↔ node = .text words)
      (reviewNode doctype room refer namespaces depth node) := by
  cases node with
  | element name attributes children =>
    cases hn with
    | element ha hj hc =>
      refine Keeps.any.andThen fun _ => (keeps_reviewTag h ha).bind fun answer hl => ?_
      refine (keeps_reviewNodes h room refer _ _ children ⟨hj, hc⟩).bind fun inside hi => ?_
      exact .pure ⟨.element hl hi.1.joined hi.1.clean, by simp⟩
  | instruction target data =>
    exact Keeps.any.andThen fun _ => .pure ⟨.instruction target data, by simp⟩
  | reference name => exact Keeps.any.andThen fun _ => .pure ⟨.reference name, by simp⟩
  | _ => exact .pure ⟨hn, fun _ => Iff.rfl⟩

/-- A review of clean nodes answers clean nodes. -/
theorem keeps_reviewNodes (h : doctype.IsLegal) (room : Nat)
    (refer : Nat → String → Reviewing Unit) (namespaces : Namespaces) (depth : Nat)
    (nodes : List Node) (hn : AllClean nodes) :
    Keeps (fun _ => True) (fun answer => AllClean answer ∧ (NoText nodes → NoText answer))
      (reviewNodes doctype room refer namespaces depth nodes) := by
  cases nodes with
  | nil => exact .pure ⟨.nil, id⟩
  | cons node rest =>
    have hc := List.forall_mem_cons.1 hn.clean
    refine (keeps_reviewNode h room refer namespaces depth node hc.1).bind fun first hf => ?_
    refine (keeps_reviewNodes h room refer namespaces depth rest hn.tail).bind fun later hl => ?_
    refine .pure ⟨hn.replace hf.1 hf.2 hl.1 hl.2, fun ht words he => ht words ?_⟩
    rw [List.head?_cons, Option.some.injEq] at he ⊢
    exact (hf.2 words).1 he

end

end Review

/-! ### Documents -/

variable {text : List Char} {doctype : Doctype} {declaration : Declaration} {root : Node}

/-- What stands in front of the root of a legal text declares what is legal. -/
theorem keeps_prolog (h : doctype.IsLegal) (fuel : Nat) :
    Keeps LegalChars Doctype.IsLegal (prolog fuel doctype) := by
  induction fuel generalizing doctype with
  | zero => exact .pure h
  | succ fuel ih =>
    refine safe_space.andThen fun _ => ?_
    refine (safe_tryLiteral _).andThen fun _ => .ite (fun _ => ?_) fun _ => ?_
    · exact keeps_comment.andThen fun _ => ih h
    refine (safe_tryLiteral _).andThen fun _ => .ite (fun _ => ?_) fun _ => ?_
    · exact safe_instruction.andThen fun _ => ih (h.noteAll _)
    refine (safe_tryLiteral _).andThen fun _ => .ite (fun _ => ?_) fun _ => ?_
    · exact Doctype.keeps_declaration h
    · exact .pure h

theorem isLegal_doctype (declaration : Declaration) (length : Nat) :
    (declaration.doctype length).IsLegal := by
  have hd : Doctype.IsLegal { standalone := declaration.standalone, review := { length } } :=
    ⟨List.forall_mem_nil _, List.forall_mem_nil _, List.forall_mem_nil _⟩
  exact hd.noteWhen _ _

theorem legalChars_unifyLineEnds (h : LegalChars text) : LegalChars (Text.unifyLineEnds text) := by
  have hb : isLegal '\n' := by decide
  fun_induction Text.unifyLineEnds text with
  | case1 => exact h
  | case2 rest ih =>
    exact List.forall_mem_cons.2 ⟨hb, ih fun c hc => h c (by simp [hc])⟩
  | case3 rest _ ih =>
    exact List.forall_mem_cons.2 ⟨hb, ih (List.forall_mem_cons.1 h).2⟩
  | case4 c rest _ _ ih =>
    exact List.forall_mem_cons.2 ⟨(List.forall_mem_cons.1 h).1, ih (List.forall_mem_cons.1 h).2⟩

theorem mem_of_root? {nodes : List Node} (h : root? nodes = some root) : root ∈ nodes := by
  rw [root?] at h
  split at h
  · rename_i other ho
    obtain rfl := Option.some.inj h
    exact (List.mem_filter.1 (ho ▸ List.mem_singleton_self other)).1
  · cases h

namespace Node

theorem isClean_of_parseBody (h : LegalChars text) (hp : parseBody declaration text = some root) :
    root.IsClean := by
  obtain ⟨⟨doctype, body⟩, hd, hp⟩ := Option.bind_eq_some_iff.1 hp
  obtain ⟨markup, hm, hp⟩ := Option.bind_eq_some_iff.1 hp
  obtain ⟨-, -, hp⟩ := Option.bind_eq_some_iff.1 hp
  obtain ⟨nodes, hn, hp⟩ := Option.bind_eq_some_iff.1 hp
  obtain ⟨⟨reviewed, review⟩, hr, hp⟩ := Option.bind_eq_some_iff.1 hp
  obtain ⟨-, -, hp⟩ := Option.bind_eq_some_iff.1 hp
  -- legal declarations, then legal markup, clean nodes, and clean nodes after the review
  obtain ⟨hb, hl⟩ := keeps_prolog (isLegal_doctype declaration _) _ text h doctype body hd
  have hi := Markup.isLegal_of_ofTextWithin hb hm
  have ho : ∀ opened ∈ [(⟨"", [], []⟩ : Markup.Opened)], opened.IsClean :=
    List.forall_mem_singleton.2 ⟨nofun, .nil⟩
  have hc := Markup.allClean_of_build hi ho hn
  have ha := Review.keeps_reviewNodes hl _ _ _ _ nodes hc _ True.intro reviewed review hr
  exact ha.2.1.clean root (mem_of_root? hp)

/-- **The tree of any document is clean.** -/
theorem isClean_of_parse {text : String} (h : parse text = some root) : root.IsClean := by
  rw [parse] at h
  unfold parseChars at h
  split at h
  obtain ⟨⟨declaration, body⟩, -, h⟩ := Option.bind_eq_some_iff.1 h
  -- only here are characters refused, so that nothing is known of the declaration
  have hk (body : List Char) (hb : (do
      guard (body.all isLegal)
      parseBody declaration (Text.unifyLineEnds body)) = some root) : root.IsClean := by
    obtain ⟨_, hg, hp⟩ := Option.bind_eq_some_iff.1 hb
    have hl : LegalChars body := by
      by_contra hn
      rw [LegalChars, ← List.all_eq_true] at hn
      simp [guard, hn] at hg
    exact isClean_of_parseBody (legalChars_unifyLineEnds hl) hp
  dsimp only at h
  split_ifs at h
  · exact hk _ h
  · obtain ⟨body, -, h⟩ := Option.bind_eq_some_iff.1 h
    exact hk body h

end Node

end Polyglot.Xml
