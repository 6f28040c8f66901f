import Polyglot.Proofs.Xml.LegalScan
import Polyglot.Xml.Doctype.Declaration

/-!
# Declarations of legal texts

What a document type declaration in a legal text declares is legal: the texts of entities and the
values of attributes that tags leave out.
-/

namespace Polyglot.Xml

open Scan

/-! ### Values -/

namespace Review

variable {entities : Entities} {place : Place} {room : Nat} {name : String} {text : List Char}

/-- The parts of a value are legal. -/
abbrev LegalParts (parts : List ValuePart) : Prop :=
  ∀ part ∈ parts, part.IsLegal

theorem keeps_reviewReference (h : entities.IsLegal) (hn : LegalChars name.toList) :
    Keeps (fun _ => True) LegalParts (reviewReference entities place room name) := by
  have he : LegalParts [.entity name] := List.forall_mem_singleton.2 hn
  cases hf : entities.find? name with
  | none =>
    rw [reviewReference, hf]
    exact Keeps.any.andThen fun _ => Keeps.any.andThen fun _ => .pure (List.forall_mem_nil _)
  | some entity =>
    cases entity with
    | character c =>
      rw [reviewReference, hf]
      exact .pure (List.forall_mem_singleton.2 (h.find? hf))
    | internal text =>
      rw [reviewReference, hf]
      refine Keeps.any.andThen fun entity => .ite (fun _ => .pure he) fun _ => ?_
      cases room with
      | zero => exact .failure
      | succ room =>
        exact Keeps.any.andThen fun _ => Keeps.any.andThen fun _ =>
          Keeps.any.andThen fun _ => .pure he
    | _ =>
      rw [reviewReference, hf]
      exact .failure

theorem isLegal_of_valueChar? {c d : Char} (hc : isLegal c) (h : valueChar? c = some d) :
    isLegal d := by
  rw [valueChar?] at h
  split_ifs at h <;> cases h
  · decide
  · exact hc

theorem keeps_reviewPiece (h : entities.IsLegal) {piece : Piece} (hp : piece.IsLegal) :
    Keeps (fun _ => True) LegalParts (reviewPiece entities place room piece) := by
  match piece with
  | .plain c =>
    rw [reviewPiece]
    cases hv : valueChar? c with
    | none => exact .failure
    | some d => exact .pure (List.forall_mem_singleton.2 (isLegal_of_valueChar? hp hv))
  | .reference (.character c) => exact .pure (List.forall_mem_singleton.2 hp)
  | .reference (.entity name) =>
    exact (keeps_reviewReference h hp).bind fun parts hl => Keeps.any.andThen fun _ => .pure hl

/-- The parts of the value that a legal text writes are legal. -/
theorem keeps_reviewValue (h : entities.IsLegal) (ht : LegalChars text) :
    Keeps (fun _ => True) LegalParts (reviewValue entities place room text) := by
  have hp : ∀ ps ∈ pieces none text, ∀ piece ∈ ps, piece.IsLegal :=
    fun ps hs => isLegal_of_pieces ht hs
  refine (Keeps.ofOption hp).bind fun ps hl => ?_
  refine (Keeps.mapM fun piece hm => keeps_reviewPiece h (hl piece hm)).bind fun parts hps => ?_
  refine .pure fun part hm => ?_
  obtain ⟨inner, hi, hm⟩ := List.mem_flatten.1 hm
  exact hps inner hi part hm

end Review

/-! ### Document types -/

namespace Doctype

/-- All that a document type declares is legal. -/
structure IsLegal (doctype : Doctype) : Prop where
  entities : doctype.entities.IsLegal
  parameters : ∀ entry ∈ doctype.parameterEntities, entry.2.IsLegal
  rules : ∀ rule ∈ doctype.attributeRules, ∀ value ∈ rule.standard, isLegalText value

variable {doctype : Doctype} {text : List Char}

namespace IsLegal

theorem note (h : doctype.IsLegal) (finding : Finding) : (doctype.note finding).IsLegal :=
  ⟨h.entities, h.parameters, h.rules⟩

theorem withReview (h : doctype.IsLegal) (review : Review) :
    ({ doctype with review } : Doctype).IsLegal :=
  ⟨h.entities, h.parameters, h.rules⟩

theorem noteAll (h : doctype.IsLegal) (findings : List Finding) :
    (doctype.noteAll findings).IsLegal := by
  induction findings generalizing doctype with
  | nil => exact h
  | cons finding findings ih => exact ih (h.note finding)

theorem noteWhen (h : doctype.IsLegal) (found : Bool) (finding : Finding) :
    (doctype.noteWhen found finding).IsLegal := by
  rw [Doctype.noteWhen]
  split_ifs
  · exact h.note finding
  · exact h

theorem loosen (h : doctype.IsLegal) : doctype.loosen.IsLegal :=
  ⟨h.entities, h.parameters, h.rules⟩

theorem addEntity (h : doctype.IsLegal) (name : String) {entity : Entity} (he : entity.IsLegal) :
    (doctype.addEntity name entity).IsLegal := by
  fun_cases Doctype.addEntity doctype name entity
  · exact h
  · refine ⟨?_, h.parameters, h.rules⟩
    exact List.forall_mem_append.2 ⟨h.entities, List.forall_mem_singleton.2 he⟩
  · exact h.noteWhen _ _
  · exact h.note _

theorem addParameterEntity (h : doctype.IsLegal) (name : String) {entity : Entity}
    (he : entity.IsLegal) : (doctype.addParameterEntity name entity).IsLegal := by
  rw [Doctype.addParameterEntity]
  split_ifs
  · exact h
  · refine ⟨h.entities, ?_, h.rules⟩
    exact List.forall_mem_append.2 ⟨h.parameters, List.forall_mem_singleton.2 he⟩

theorem addElement (h : doctype.IsLegal) (name : String) : (doctype.addElement name).IsLegal := by
  rw [Doctype.addElement]
  split_ifs
  · exact h.note _
  · exact ⟨h.entities, h.parameters, h.rules⟩

theorem addNotation (h : doctype.IsLegal) (name : String) :
    (doctype.addNotation name).IsLegal := by
  have hn := h.noteWhen (name.toList.contains ':') .fault
  rw [Doctype.addNotation]
  split_ifs
  · exact hn.note _
  · exact ⟨hn.entities, hn.parameters, hn.rules⟩

theorem appendRule (h : doctype.IsLegal) {rule : AttributeRule}
    (hr : ∀ value ∈ rule.standard, isLegalText value) :
    ({ doctype with attributeRules := doctype.attributeRules ++ [rule] } : Doctype).IsLegal :=
  ⟨h.entities, h.parameters, List.forall_mem_append.2 ⟨h.rules, List.forall_mem_singleton.2 hr⟩⟩

theorem addRule (h : doctype.IsLegal) {rule : AttributeRule}
    (hr : ∀ value ∈ rule.standard, isLegalText value) : (doctype.addRule rule).IsLegal := by
  have hn := (h.noteWhen (rule.key == "xml:id" && rule.type != .identifier) .fault).noteWhen
    (!rule.standard.all fun value => rule.type.admits value.toList) .fault
  unfold Doctype.addRule
  extract_lets fits first second third
  split_ifs
  · exact IsLegal.note hn _
  · exact (IsLegal.noteWhen hn _ _).appendRule hr
  · exact (IsLegal.noteWhen hn _ _).appendRule (by simp)

end IsLegal

/-! ### Scans of declarations -/

theorem safe_publicId : Safe publicId :=
  keeps_quoted.andThen fun _ => Keeps.ofGuard.trivial

theorem safe_externalId : Safe externalId := by
  refine (safe_tryLiteral _).andThen fun _ => .ite (fun _ => ?_) fun _ => ?_
  · exact safe_someSpace.andThen fun _ => keeps_quoted.andThen fun _ => .pure True.intro
  · refine (safe_tryLiteral _).andThen fun _ => .ite (fun _ => ?_) fun _ => .pure True.intro
    exact safe_someSpace.andThen fun _ => safe_publicId.andThen fun _ =>
      safe_someSpace.andThen fun _ => keeps_quoted.andThen fun _ => .pure True.intro

/-- The text of an entity is legal where the declaration is. -/
theorem isLegal_of_entityText? (h : doctype.IsLegal) (ht : LegalChars text)
    {answer : Doctype × List Char} (he : doctype.entityText? text = some answer) :
    answer.1.IsLegal ∧ LegalChars answer.2 := by
  obtain ⟨front, hf, he⟩ := Option.bind_eq_some_iff.1 he
  have hl : LegalChars front := legalChars_of_replacement? (legalChars_takeWhile ht _) hf
  split at he
  · obtain rfl := Option.some.inj he
    exact ⟨h, hl⟩
  · obtain ⟨⟨name, back⟩, -, he⟩ := Option.bind_eq_some_iff.1 he
    obtain ⟨-, -, he⟩ := Option.bind_eq_some_iff.1 he
    obtain rfl := Option.some.inj he
    exact ⟨h.loosen.note _, hl⟩

theorem keeps_entityDeclaration (h : doctype.IsLegal) :
    Keeps LegalChars Doctype.IsLegal (entityDeclaration doctype) := by
  unfold entityDeclaration
  refine safe_someSpace.andThen fun _ => (safe_tryLiteral _).andThen fun parameter => ?_
  extract_lets rest
  have hr (u : Unit) : Keeps LegalChars Doctype.IsLegal (rest u) := by
    refine keeps_plainName.andThen fun name => (safe_tryLiteral _).andThen fun colon => ?_
    -- `add` declares the entity for content or for declarations, `finish` one kept outside
    extract_lets noted add finish
    have hn : noted.IsLegal := h.noteWhen colon .fault
    have ha {doctype : Doctype} {entity : Entity} (hd : doctype.IsLegal) (he : entity.IsLegal) :
        (add doctype entity).IsLegal := by
      unfold add
      split_ifs
      · exact hd.addParameterEntity name he
      · exact hd.addEntity name he
    have hf : Keeps LegalChars Doctype.IsLegal (finish ()) :=
      safe_close.andThen fun _ => .pure (ha hn True.intro)
    refine safe_someSpace.andThen fun _ => safe_externalId.andThen fun place => ?_
    cases place with
    | some place =>
      refine Keeps.ofGuard.andThen fun _ => safe_space.andThen fun spaced => ?_
      refine .ite (fun _ => ?_) fun _ => hf
      refine (safe_tryLiteral _).andThen fun _ => .ite (fun _ => ?_) fun _ => hf
      exact Keeps.ofGuard.andThen fun _ => safe_someSpace.andThen fun _ =>
        (keeps_takeWhile _).andThen fun _ => Keeps.ofGuard.andThen fun _ =>
          safe_close.andThen fun _ => .pure (ha hn True.intro)
    | none =>
      refine keeps_quoted.bind fun text ht => ?_
      cases he : noted.entityText? text with
      | none => exact .failure
      | some answer =>
        obtain ⟨hd, hl⟩ := isLegal_of_entityText? hn ht he
        exact safe_close.andThen fun _ => .pure (ha hd hl)
  exact .ite (fun _ => safe_someSpace.andThen hr) fun _ => hr ()

theorem safe_alternatives (test : List Char → Bool) : Safe (alternatives test) :=
  (safe_literal _).andThen fun _ => (keeps_takeThrough _).andThen fun _ => Keeps.ofGuard.trivial

theorem safe_attributeType : Safe attributeType := by
  refine Keeps.andThen (.forIn fun entry _ => ?_) fun found => ?_
  · exact (safe_tryLiteral _).andThen fun _ => .ite (fun _ => .pure True.intro) fun _ =>
      .pure True.intro
  · extract_lets answer
    cases answer.1 with
    | some type => exact .pure True.intro
    | none =>
      refine (safe_tryLiteral _).andThen fun _ => .ite (fun _ => ?_) fun _ => ?_
      · exact safe_someSpace.andThen fun _ => (safe_alternatives _).andThen fun _ =>
          .pure True.intro
      · exact (safe_alternatives _).andThen fun _ => .pure True.intro

/-- What a declaration says about an absent attribute is legal. -/
theorem keeps_attributeDefault (h : doctype.IsLegal) (type : AttributeType) (room : Nat) :
    Keeps LegalChars (fun answer => answer.1.IsLegal ∧ ∀ value ∈ answer.2, isLegalText value)
      (attributeDefault type room doctype) := by
  have hn : doctype.IsLegal ∧ ∀ value ∈ (none : Option String), isLegalText value := ⟨h, nofun⟩
  refine (safe_tryLiteral _).andThen fun _ => .ite (fun _ => .pure hn) fun _ => ?_
  refine (safe_tryLiteral _).andThen fun _ => .ite (fun _ => .pure hn) fun _ => ?_
  refine (safe_tryLiteral _).andThen fun fixed => ?_
  extract_lets rest
  have hr (u : Unit) : Keeps LegalChars
      (fun answer => answer.1.IsLegal ∧ ∀ value ∈ answer.2, isLegalText value) (rest u) := by
    refine keeps_quoted.bind fun text ht => ?_
    cases hv : (Review.reviewValue doctype.entities .declarations room text).run doctype.review with
    | none => exact .failure
    | some answer =>
      have hl := (Review.keeps_reviewValue h.entities ht _ True.intro _ _ hv).2
      refine .pure ⟨h.withReview _, fun value hm => ?_⟩
      obtain rfl := Option.some.inj hm
      exact isLegalText_writtenValue (isLegal_normalize hl type)
  exact .ite (fun _ => safe_someSpace.andThen hr) fun _ => hr ()

theorem keeps_attributeList (h : doctype.IsLegal) (element : String) (room fuel : Nat) :
    Keeps LegalChars Doctype.IsLegal (attributeList element room fuel doctype) := by
  induction fuel generalizing doctype with
  | zero => exact .failure
  | succ fuel ih =>
    refine safe_space.andThen fun _ => (safe_tryLiteral _).andThen fun _ =>
      .ite (fun _ => .pure h) fun _ => Keeps.ofGuard.andThen fun _ => ?_
    refine keeps_name.andThen fun key => safe_someSpace.andThen fun _ =>
      safe_attributeType.andThen fun type => safe_someSpace.andThen fun _ => ?_
    exact (keeps_attributeDefault h type room).bind fun answer ha => ih (ha.1.addRule ha.2)

/-! ### Content models -/

theorem safe_occurrence : Safe occurrence := by
  refine Keeps.andThen (.forIn fun mark _ => ?_) fun found => ?_
  · exact (safe_tryLiteral _).andThen fun _ => .ite (fun _ => .pure True.intro) fun _ =>
      .pure True.intro
  · extract_lets answer
    cases answer.1 <;> exact .pure True.intro

theorem safe_separator : Safe separator := by
  refine safe_space.andThen fun _ => (safe_tryLiteral _).andThen fun _ =>
    .ite (fun _ => .pure True.intro) fun _ => ?_
  refine (safe_tryLiteral _).andThen fun _ => .ite (fun _ => .pure True.intro) fun _ => ?_
  exact (safe_literal _).andThen fun _ => .pure True.intro

/-- The parts of a content model are read together, by induction on the steps that are left. -/
theorem safe_model (fuel : Nat) : (∀ room, Safe (modelPart room fuel)) ∧
    (∀ room, Safe (modelGroup room fuel)) ∧ ∀ room sign, Safe (modelParts room sign fuel) := by
  -- each of the three calls the others with one step less
  induction fuel with
  | zero => exact ⟨fun _ => .failure, fun _ => .failure, fun _ _ => .failure⟩
  | succ fuel ih =>
    obtain ⟨hp, hg, hs⟩ := ih
    refine ⟨fun room => ?_, fun room => ?_, fun room sign => ?_⟩
    · refine (safe_tryLiteral _).andThen fun _ => ?_
      extract_lets rest
      have hr (u : Unit) : Safe (rest u) := safe_occurrence
      refine .ite (fun _ => ?_) fun _ => ?_
      · exact Keeps.ofGuard.andThen fun _ => (hg _).andThen hr
      · exact keeps_name.andThen fun _ => hr ()
    · refine safe_space.andThen fun _ => (hp room).andThen fun _ => ?_
      refine safe_separator.andThen fun sign => ?_
      cases sign with
      | none => exact .pure True.intro
      | some sign => exact hs room sign
    · refine safe_space.andThen fun _ => (hp room).andThen fun _ => ?_
      refine safe_separator.andThen fun next => ?_
      cases next with
      | none => exact .pure True.intro
      | some next => exact Keeps.ofGuard.andThen fun _ => hs room sign

theorem safe_mixedModel : Safe mixedModel := by
  refine (keeps_takeThrough _).andThen fun names => ?_
  split
  · exact (safe_tryLiteral _).andThen fun _ => .pure True.intro
  · exact Keeps.ofGuard.andThen fun _ => safe_literal _
  · exact .failure

theorem safe_contentModel : Safe contentModel := by
  refine (safe_literal _).andThen fun _ => safe_space.andThen fun _ =>
    (safe_tryLiteral _).andThen fun _ => .ite (fun _ => safe_mixedModel) fun _ => ?_
  exact keeps_rest.andThen fun _ => ((safe_model _).2.1 _).andThen fun _ => safe_occurrence

/-! ### Declarations -/

theorem keeps_elementDeclaration (h : doctype.IsLegal) :
    Keeps LegalChars Doctype.IsLegal (elementDeclaration doctype) := by
  refine safe_someSpace.andThen fun _ => keeps_name.andThen fun name =>
    safe_someSpace.andThen fun _ => (safe_tryLiteral _).andThen fun _ => ?_
  extract_lets rest
  have hr (u : Unit) : Keeps LegalChars Doctype.IsLegal (rest u) := .pure (h.addElement name)
  refine .ite (fun _ => safe_close.andThen hr) fun _ => ?_
  refine (safe_tryLiteral _).andThen fun _ => .ite (fun _ => safe_close.andThen hr) fun _ => ?_
  exact safe_contentModel.andThen fun _ => safe_close.andThen hr

theorem safe_notationId : Safe notationId := by
  refine (safe_tryLiteral _).andThen fun _ => .ite (fun _ => ?_) fun _ => ?_
  · exact safe_someSpace.andThen fun _ => keeps_quoted.andThen fun _ => safe_close
  · refine (safe_literal _).andThen fun _ => safe_someSpace.andThen fun _ =>
      safe_publicId.andThen fun _ => safe_space.andThen fun _ => ?_
    refine (safe_tryLiteral _).andThen fun _ => .ite (fun _ => .pure True.intro) fun _ => ?_
    exact Keeps.ofGuard.andThen fun _ => keeps_quoted.andThen fun _ => safe_close

theorem keeps_notationDeclaration (h : doctype.IsLegal) :
    Keeps LegalChars Doctype.IsLegal (notationDeclaration doctype) :=
  safe_someSpace.andThen fun _ => keeps_name.andThen fun name => safe_someSpace.andThen fun _ =>
    safe_notationId.andThen fun _ => .pure (h.addNotation name)

/-- A reader of declarations that keeps what is declared legal. -/
def ReadsLegal (readText : Doctype → List Char → Option Doctype) : Prop :=
  ∀ doctype text, doctype.IsLegal → LegalChars text → ∀ answer ∈ readText doctype text,
    answer.IsLegal

variable {readText : Doctype → List Char → Option Doctype}

theorem keeps_furtherDeclarations (hr : ReadsLegal readText) (h : doctype.IsLegal) :
    Keeps LegalChars Doctype.IsLegal (furtherDeclarations readText doctype) := by
  refine keeps_name.andThen fun name => (safe_literal _).andThen fun _ => ?_
  have hl := h.loosen
  dsimp only
  split
  · rename_i text hf
    have ht : LegalChars text := hl.parameters _ (mem_of_lookup hf)
    split
    · rename_i answer ha
      have hd : answer.IsLegal := hr _ text (hl.withReview _) ht answer ha
      split
      · exact .pure (hd.withReview _)
      · exact .failure
    · exact .failure
  · exact .pure hl
  · exact Keeps.ofGuard.andThen fun _ => .pure (hl.note _)

theorem keeps_nextDeclaration (hr : ReadsLegal readText) (room : Nat) (h : doctype.IsLegal) :
    Keeps LegalChars Doctype.IsLegal (nextDeclaration readText room doctype) := by
  refine (safe_tryLiteral _).andThen fun _ => .ite (fun _ => ?_) fun _ => ?_
  · exact keeps_furtherDeclarations hr h
  refine (safe_tryLiteral _).andThen fun _ => .ite (fun _ => ?_) fun _ => ?_
  · exact keeps_comment.andThen fun _ => .pure h
  refine (safe_tryLiteral _).andThen fun _ => .ite (fun _ => ?_) fun _ => ?_
  · exact safe_instruction.andThen fun _ => .pure (h.noteAll _)
  refine (safe_tryLiteral _).andThen fun _ => .ite (fun _ => ?_) fun _ => ?_
  · exact keeps_entityDeclaration h
  refine (safe_tryLiteral _).andThen fun _ => .ite (fun _ => ?_) fun _ => ?_
  · exact safe_someSpace.andThen fun _ => keeps_name.andThen fun element =>
      keeps_rest.andThen fun _ => keeps_attributeList h element room _
  refine (safe_tryLiteral _).andThen fun _ => .ite (fun _ => ?_) fun _ => ?_
  · exact keeps_elementDeclaration h
  · exact (safe_literal _).andThen fun _ => keeps_notationDeclaration h

theorem keeps_declarations (hr : ReadsLegal readText) (room : Nat) (nested : Bool) (fuel : Nat)
    (h : doctype.IsLegal) :
    Keeps LegalChars Doctype.IsLegal (declarations readText room nested fuel doctype) := by
  induction fuel generalizing doctype with
  | zero => exact .failure
  | succ fuel ih =>
    refine safe_space.andThen fun _ => keeps_rest.andThen fun _ => .ite (fun _ => ?_) fun _ => ?_
    · exact Keeps.ofGuard.andThen fun _ => .pure h
    refine (safe_tryLiteral _).andThen fun _ => .ite (fun _ => ?_) fun _ => ?_
    · exact Keeps.ofGuard.andThen fun _ => .pure h
    · exact (keeps_nextDeclaration hr room h).bind fun doctype hd => ih hd

/-- The texts that names for further declarations stand for are read like the declarations
themselves. -/
theorem readsLegal_readText? (room : Nat) : ReadsLegal (readText? room) := by
  induction room with
  | zero => exact fun _ _ _ _ _ hm => nomatch hm
  | succ room ih =>
    intro doctype text h ht answer hm
    obtain ⟨⟨answer, later⟩, hr, rfl⟩ := Option.map_eq_some_iff.1 hm
    exact (keeps_declarations ih room true _ h text ht answer later hr).2

/-- The rest of a document type declaration in a legal text declares what is legal. -/
theorem keeps_declaration (h : doctype.IsLegal) :
    Keeps LegalChars Doctype.IsLegal (declaration doctype) := by
  refine safe_someSpace.andThen fun _ => keeps_name.andThen fun _ =>
    safe_space.andThen fun spaced => ?_
  extract_lets declared
  have hd (place : Option (List Char)) : Keeps LegalChars Doctype.IsLegal (declared place) := by
    refine safe_space.andThen fun _ => ?_
    extract_lets opened
    have ho : opened.IsLegal := by
      unfold opened
      split_ifs
      · exact h.loosen
      · exact h
    refine (safe_tryLiteral _).andThen fun _ => .ite (fun _ => ?_) fun _ => ?_
    · exact keeps_rest.andThen fun _ =>
        (keeps_declarations (readsLegal_readText? _) _ _ _ ho).bind fun doctype hd =>
          safe_close.andThen fun _ => .pure hd
    · exact safe_close.andThen fun _ => .pure ho
  exact .ite (fun _ => safe_externalId.andThen hd) fun _ => hd none

end Doctype

end Polyglot.Xml
