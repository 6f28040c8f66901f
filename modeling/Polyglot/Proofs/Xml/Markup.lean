import Polyglot.Proofs.Xml.Joined
import Polyglot.Proofs.Xml.Tag
import Polyglot.Xml.Document

/-!
# Markup read back

A text is cut into markup tag by tag and run by run, and the markup builds nodes inside the elements
that are open. `Reads` says both at once: what a text makes of the elements that are open where it
begins. Its lemmas read one tag or one run of text from the front.
-/

namespace Polyglot.Xml.Markup

open Scan

variable {text : List Char} {markup : List Markup} {top next : Opened} {outer : List Opened}
  {nodes : List Node} {name : String} {attributes : List Attribute}

/-! ### Cutting up -/

/-- A text is cut into some markup; no tag leaves more than it takes from. -/
inductive Cuts : List Char → List Markup → Prop
  | nil : Cuts [] []
  | tag {text later : List Char} {piece : Markup} {markup : List Markup}
      (h : bracketed.run text = some (piece, later)) (hl : later.length ≤ text.length)
      (hm : Cuts later markup) : Cuts ('<' :: text) (piece :: markup)
  | run {c : Char} {text : List Char} {front markup : List Markup} (hc : c ≠ '<')
      (h : ofRun ((c :: text).takeWhile (· != '<')) = some front)
      (hm : Cuts ((c :: text).dropWhile (· != '<')) markup) : Cuts (c :: text) (front ++ markup)

/-- Cutting needs no more steps than there are characters. -/
theorem Cuts.ofTextWithin {fuel : Nat} (h : Cuts text markup) (hf : text.length ≤ fuel) :
    ofTextWithin fuel text = some markup := by
  induction h generalizing fuel with
  | nil => cases fuel <;> rfl
  | tag h hl hm ih =>
    obtain ⟨fuel, rfl⟩ := Nat.exists_eq_succ_of_ne_zero (Nat.ne_of_gt (Nat.lt_of_lt_of_le
      (Nat.succ_pos _) hf))
    rw [List.length_cons] at hf
    simp [Markup.ofTextWithin, h, ih (show _ ≤ fuel by omega)]
  | @run c text front markup hc h hm ih =>
    obtain ⟨fuel, rfl⟩ := Nat.exists_eq_succ_of_ne_zero (Nat.ne_of_gt (Nat.lt_of_lt_of_le
      (Nat.succ_pos _) hf))
    have hd : ((c :: text).dropWhile (· != '<')).length ≤ fuel := by
      have hl := (List.dropWhile_suffix (· != '<') (l := text)).length_le
      rw [List.length_cons] at hf
      rw [List.dropWhile_cons_of_pos (by simpa using hc)]
      omega
    simp [Markup.ofTextWithin.eq_4 _ _ _ hc, h, ih hd]

theorem Cuts.ofText? (h : Cuts text markup) : ofText? text = some markup :=
  h.ofTextWithin (Nat.le_refl _)

/-- What a text makes of the elements that are open where it begins: some nodes, with only space
outside of the outermost. -/
def Reads (top : Opened) (outer : List Opened) (text : List Char) (nodes : List Node) : Prop :=
  ∃ markup, Cuts text markup ∧ isOutsideClean outer.length markup ∧
    build top outer markup = some nodes

/-! ### Tags -/

theorem Reads.closed
    (h : Reads { top with inside := .element name (attributes.map written) [] :: top.inside }
      outer text nodes)
    (hn : isName name.toList) (ha : ∀ entry ∈ attributes, isName entry.1.toList) :
    Reads top outer ('<' :: (startChars name attributes true ++ text)) nodes := by
  obtain ⟨markup, hc, ho, hb⟩ := h
  exact ⟨_, .tag (run_bracketed_start hn ha) (by simp) hc, ho, by rw [build]; exact hb⟩

theorem Reads.opened (h : Reads ⟨name, attributes.map written, []⟩ (top :: outer) text nodes)
    (hn : isName name.toList) (ha : ∀ entry ∈ attributes, isName entry.1.toList) :
    Reads top outer ('<' :: (startChars name attributes false ++ text)) nodes := by
  obtain ⟨markup, hc, ho, hb⟩ := h
  exact ⟨_, .tag (run_bracketed_start hn ha) (by simp) hc, ho, by rw [build]; exact hb⟩

theorem Reads.finish
    (h : Reads { next with inside := top.complete :: next.inside } outer text nodes)
    (hn : isName top.name.toList) :
    Reads top (next :: outer) ('<' :: '/' :: (top.name.toList ++ '>' :: text)) nodes := by
  obtain ⟨markup, hc, ho, hb⟩ := h
  refine ⟨_, .tag (run_bracketed_finish hn) (by simp; omega) hc, ho, ?_⟩
  rw [build, if_pos (beq_self_eq_true _), hb]

/-! ### Runs of text -/

theorem splitAt?_eq_none {c : Char} {mark : List Char} (hm : c ∈ mark) (ht : c ∉ text) :
    splitAt? mark text = none := by
  have ha {text : List Char} (ht : c ∉ text) : after? mark text = none := by
    by_contra hs
    obtain ⟨later, hs⟩ := Option.ne_none_iff_exists'.1 hs
    exact ht (eq_append_of_after? hs ▸ List.mem_append_left later hm)
  induction text with
  | nil => rw [splitAt?, ha ht]; rfl
  | cons d text ih =>
    rw [splitAt?, ha ht, ih fun h => ht (List.mem_cons_of_mem d h)]
    rfl

theorem escapeTextChar_eq_or (c : Char) : escapeTextChar c = [c] ∨ '&' ∈ escapeTextChar c := by
  fun_cases escapeTextChar c
  case case5 => exact .inl rfl
  all_goals exact .inr (by decide)

theorem flatMap_escapeTextChar (h : '&' ∉ text.flatMap escapeTextChar) :
    text.flatMap escapeTextChar = text := by
  induction text with
  | nil => rfl
  | cons c text ih =>
    rw [List.flatMap_cons, List.mem_append, not_or] at h
    rw [List.flatMap_cons, (escapeTextChar_eq_or c).resolve_right h.1, ih h.2]
    rfl

theorem escapeText_ne_nil {text : String} (h : text ≠ "") : (escapeText text).toList ≠ [] := by
  obtain ⟨c, later, hc⟩ := List.exists_cons_of_ne_nil (l := text.toList) (by simpa using h)
  have he : escapeTextChar c ≠ [] := by fun_cases escapeTextChar c <;> simp
  rw [escapeText, String.toList_ofList, hc, List.flatMap_cons]
  exact List.append_ne_nil_of_left_ne_nil he _

theorem ofPiece_textPiece (c : Char) :
    ∃ literal, ofPiece (textPiece c) = .characters [c] literal := by
  fun_cases textPiece c
  all_goals exact ⟨_, rfl⟩

/-- Markup that is characters only, those of a given text in order. -/
inductive Spells : List Char → List Markup → Prop
  | nil : Spells [] []
  | cons {front text : List Char} {markup : List Markup} (hf : front ≠ []) (literal : Bool)
      (h : Spells text markup) : Spells (front ++ text) (.characters front literal :: markup)

theorem spells_pieces (text : List Char) : Spells text (text.map (ofPiece ∘ textPiece)) := by
  induction text with
  | nil => exact .nil
  | cons c text ih =>
    obtain ⟨literal, hl⟩ := ofPiece_textPiece c
    rw [List.map_cons, Function.comp_apply, hl]
    exact .cons (List.cons_ne_nil c []) literal ih

/-- A written run of text is cut into characters that spell the text. -/
theorem ofRun_escapeText {text : String} (ht : text ≠ "") :
    ∃ markup, ofRun (escapeText text).toList = some markup ∧ Spells text.toList markup := by
  have hg : '>' ∉ (escapeText text).toList := by
    rw [escapeText, String.toList_ofList]
    intro h
    obtain ⟨c, -, hc⟩ := List.mem_flatMap.1 h
    exact (mem_escapeTextChar hc).2.1 rfl
  rw [ofRun, splitAt?_eq_none (c := '>') (by decide) hg]
  -- a run without references is one piece of markup, any other one piece for each character
  by_cases ha : '&' ∈ (escapeText text).toList
  · refine ⟨text.toList.map (ofPiece ∘ textPiece), ?_, spells_pieces _⟩
    simp [ha, pieces_escapeText]
  · refine ⟨[.characters text.toList true], ?_, ?_⟩
    · have he : (escapeText text).toList = text.toList := by
        rw [escapeText, String.toList_ofList] at ha ⊢
        exact flatMap_escapeTextChar ha
      rw [he] at ha ⊢
      simp [ha]
    · have hs : Spells (text.toList ++ []) [.characters text.toList true] :=
        .cons (by simpa using ht) true .nil
      rwa [List.append_nil] at hs

theorem push_of_noText {words : String} (hw : words ≠ "") (h : Node.NoText nodes) :
    push (.text words) nodes = .text words :: nodes := by
  cases nodes with
  | nil => simp [push, hw]
  | cons node rest =>
    cases node with
    | text back => exact absurd rfl (h back)
    | _ => simp [push, hw]

theorem isOutsideClean_append {front : List Markup} (h : Spells text front) (hd : outer ≠ []) :
    isOutsideClean outer.length (front ++ markup) = isOutsideClean outer.length markup := by
  induction h with
  | nil => rfl
  | cons hf literal h ih => simp [isOutsideClean, hd, ih]

theorem build_append_text {front : List Markup} {words : String} (h : Spells text front) :
    build { top with inside := .text words :: nodes } outer (front ++ markup) =
      build { top with inside := .text (words ++ String.ofList text) :: nodes } outer markup := by
  induction h generalizing words with
  | nil => simp
  | cons hf literal h ih =>
    simp only [List.cons_append, build, push]
    rw [ih, String.append_assoc, String.ofList_append]

/-- Characters become one run of text. -/
theorem build_append {front : List Markup} (h : Spells text front) (ht : text ≠ [])
    (hn : Node.NoText top.inside) : build top outer (front ++ markup) =
      build { top with inside := .text (String.ofList text) :: top.inside } outer markup := by
  cases h with
  | nil => exact absurd rfl ht
  | cons hf literal h =>
    have hw : String.ofList _ ≠ "" := fun he => hf (String.ofList_eq_empty_iff.1 he)
    rw [List.cons_append, build, push_of_noText hw hn, build_append_text h, String.ofList_append]

/-- A run of text is read inside an open element where the node before it is none. -/
theorem Reads.words {words : String} (hw : words ≠ "") (hs : Stops (· != '<') text)
    (hn : Node.NoText top.inside)
    (h : Reads { top with inside := .text words :: top.inside } (next :: outer) text nodes) :
    Reads top (next :: outer) ((escapeText words).toList ++ text) nodes := by
  obtain ⟨markup, hc, ho, hb⟩ := h
  obtain ⟨front, hr, hf⟩ := ofRun_escapeText hw
  have hl : ∀ c ∈ (escapeText words).toList, c != '<' := by
    rw [escapeText, String.toList_ofList]
    intro c h
    obtain ⟨d, -, hd⟩ := List.mem_flatMap.1 h
    simpa using (mem_escapeTextChar hd).1
  refine ⟨front ++ markup, ?_, ?_, ?_⟩
  · obtain ⟨c, later, he⟩ := List.exists_cons_of_ne_nil (escapeText_ne_nil hw)
    have ht := takeWhile_append_stop hl hs
    have hd := dropWhile_append_stop hl hs
    rw [he, List.cons_append] at ht hd ⊢
    refine .run (by simpa using hl c (he ▸ List.mem_cons_self)) ?_ (hd.symm ▸ hc)
    rw [ht, ← he]
    exact hr
  · rw [isOutsideClean_append hf (List.cons_ne_nil next outer)]
    exact ho
  · rw [build_append hf (by simpa using hw) hn, String.ofList_toList]
    exact hb

end Polyglot.Xml.Markup
