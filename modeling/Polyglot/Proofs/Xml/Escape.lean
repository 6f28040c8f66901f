import Polyglot.Xml.Entity
import Polyglot.Xml.Writer
import Mathlib.Data.List.Basic

/-!
# Escaped text in documents

What stands for a character in a run of text or in an attribute value reads back as one piece, a
reference if the character was escaped. Nothing that is written holds a bracket, and no carriage
return is left that reading would take for a line end.
-/

namespace Polyglot.Xml

variable {c d : Char} {rest name : List Char}

/-! ### References -/

theorem pieces_opened {opened : List Char} {reference : Reference}
    (h : Reference.ofChars? (opened.reverse ++ name) = some reference) (hn : ';' ∉ name) :
    pieces (some opened) (name ++ ';' :: rest) =
      (.reference reference :: ·) <$> pieces none rest := by
  induction name generalizing opened with
  | nil =>
    rw [List.append_nil] at h
    rw [List.nil_append, pieces, h]
    cases pieces none rest <;> rfl
  | cons c name ih =>
    have hc : c ≠ ';' := fun he => hn (he ▸ List.mem_cons_self)
    rw [List.cons_append, pieces.eq_6 _ _ _ hc]
    exact ih (by simpa using h) fun hm => hn (List.mem_cons_of_mem c hm)

/-- A reference reads back as a piece of its own. -/
theorem pieces_reference (name : List Char) {reference : Reference}
    (h : Reference.ofChars? name = some reference)
    (hn : ';' ∉ name) :
    pieces none ('&' :: (name ++ ';' :: rest)) = (.reference reference :: ·) <$> pieces none rest :=
  pieces_opened h hn

theorem pieces_plain (h : c ≠ '&') :
    pieces none (c :: rest) = (.plain c :: ·) <$> pieces none rest :=
  pieces.eq_4 c rest h

/-! ### Escapes -/

/-- The piece that a written character of a run of text reads as. -/
def textPiece (c : Char) : Piece :=
  match c with
  | '&' => .reference (.entity "amp")
  | '<' => .reference (.entity "lt")
  | '>' => .reference (.entity "gt")
  | '\r' => .reference (.character '\r')
  | c => .plain c

/-- The piece that a written character of an attribute value reads as. -/
def valuePiece (c : Char) : Piece :=
  match c with
  | '&' => .reference (.entity "amp")
  | '<' => .reference (.entity "lt")
  | '>' => .reference (.entity "gt")
  | '"' => .reference (.entity "quot")
  | '\t' => .reference (.character '\t')
  | '\n' => .reference (.character '\n')
  | '\r' => .reference (.character '\r')
  | c => .plain c

theorem pieces_escapeTextChar (c : Char) (rest : List Char) :
    pieces none (escapeTextChar c ++ rest) = (textPiece c :: ·) <$> pieces none rest := by
  fun_cases escapeTextChar c
  · exact pieces_reference "amp".toList rfl (by decide)
  · exact pieces_reference "lt".toList rfl (by decide)
  · exact pieces_reference "gt".toList rfl (by decide)
  · exact pieces_reference "#13".toList rfl (by decide)
  · rename_i ha hl hg hr
    rw [textPiece.eq_5 c ha hl hg hr]
    exact pieces_plain ha

theorem pieces_escapeValueChar (c : Char) (rest : List Char) :
    pieces none (escapeValueChar c ++ rest) = (valuePiece c :: ·) <$> pieces none rest := by
  fun_cases escapeValueChar c
  · exact pieces_reference "amp".toList rfl (by decide)
  · exact pieces_reference "lt".toList rfl (by decide)
  · exact pieces_reference "gt".toList rfl (by decide)
  · exact pieces_reference "quot".toList rfl (by decide)
  · exact pieces_reference "#9".toList rfl (by decide)
  · exact pieces_reference "#10".toList rfl (by decide)
  · exact pieces_reference "#13".toList rfl (by decide)
  · rename_i ha hl hg hq ht hn hr
    rw [valuePiece.eq_8 c ha hl hg hq ht hn hr]
    exact pieces_plain ha

theorem pieces_flatMap {escape : Char → List Char} {piece : Char → Piece}
    (h : ∀ c rest, pieces none (escape c ++ rest) = (piece c :: ·) <$> pieces none rest)
    (text : List Char) : pieces none (text.flatMap escape) = some (text.map piece) := by
  induction text with
  | nil => rfl
  | cons c text ih => rw [List.flatMap_cons, h, ih]; rfl

/-- A written run of text reads as one piece for each character. -/
theorem pieces_escapeText (text : String) :
    pieces none (escapeText text).toList = some (text.toList.map textPiece) := by
  rw [escapeText, String.toList_ofList, pieces_flatMap pieces_escapeTextChar]

/-- A written attribute value reads as one piece for each character. -/
theorem pieces_escapeValue (value : String) :
    pieces none (escapeValue value).toList = some (value.toList.map valuePiece) := by
  rw [escapeValue, String.toList_ofList, pieces_flatMap pieces_escapeValueChar]

/-! ### What escapes hold -/

/-- What stands for a character starts no markup, and may stand in a document if the character
may. -/
theorem mem_escapeTextChar (h : d ∈ escapeTextChar c) :
    d ≠ '<' ∧ d ≠ '>' ∧ d ≠ '\r' ∧ (isLegal c → isLegal d) := by
  revert h
  fun_cases escapeTextChar c
  case case5 _ hl hg hr =>
    intro h
    obtain rfl := List.mem_singleton.1 h
    exact ⟨hl, hg, hr, id⟩
  all_goals
    revert d
    rw [← List.forall_iff_forall_mem]
    decide

theorem mem_escapeValueChar (h : d ∈ escapeValueChar c) :
    d ≠ '<' ∧ d ≠ '"' ∧ d ≠ '\r' ∧ (isLegal c → isLegal d) := by
  revert h
  fun_cases escapeValueChar c
  case case8 _ hl _ hq _ _ hr =>
    intro h
    obtain rfl := List.mem_singleton.1 h
    exact ⟨hl, hq, hr, id⟩
  all_goals
    revert d
    rw [← List.forall_iff_forall_mem]
    decide

end Polyglot.Xml
