import Polyglot.Proofs.Message.Joined
import Polyglot.Proofs.Message.Reordered

/-!
# Text cut into other runs

Text is escaped run by run, and the body reads as a whole. So it matters where a text is cut: a
dollar sign that ends one run is not escaped, and with a brace at the start of the next run it opens
a slot. At every other place a text may be cut, or two runs joined, and the body stays the same,
hence the template that it reads as, its static texts and the identifier of the message.
-/

namespace Polyglot

open Source Source.TemplateText

namespace Contents

variable {contents other : Contents} {front back : List Char}

/-- A cut between the two texts stands between a dollar sign and a brace. -/
def cutsSlot (front back : List Char) : Bool :=
  front.getLast? == some '$' && back.head? == some '{'

/-- The text in front of the first placeholder. -/
def leadingText : Contents → List Char
  | .text words :: rest => words.toList ++ leadingText rest
  | _ => []

/-- The number of runs of text that end between a dollar sign and a brace. -/
def slotCuts : Contents → Nat
  | [] => 0
  | .text words :: rest => (cutsSlot words.toList (leadingText rest)).toNat + slotCuts rest
  | .placeholder _ :: rest => slotCuts rest

/-! ### Escaping in parts -/

theorem cutsSlot_tail {c : Char} (h : cutsSlot (c :: front) back = false) :
    cutsSlot front back = false := by
  cases front with
  | nil => rfl
  | cons d front => exact h

/-- Two texts are escaped like one if no slot is cut between them. -/
theorem escapeChars_append (h : cutsSlot front back = false) :
    escapeChars (front ++ back) = escapeChars front ++ escapeChars back := by
  induction front using escapeChars.induct with
  | case1 => rfl
  | case2 front ih => simp [escapeChars, ih (cutsSlot_tail (cutsSlot_tail h))]
  | case3 c front hn ih =>
    have hm (tail : List Char) (hc : c = '$') (hb : front ++ back = '{' :: tail) : False := by
      cases front with
      | nil => simp_all [cutsSlot]
      | cons d front =>
        obtain ⟨rfl, -⟩ := List.cons.inj hb
        exact hn front hc rfl
    rw [List.cons_append, escapeChars.eq_3 c _ hm, escapeChars.eq_3 c front hn,
      ih (cutsSlot_tail h), List.append_assoc]

/-- A slot that is cut lacks the backslash in front of it. -/
theorem length_escapeChars_append (front back : List Char) :
    (escapeChars (front ++ back)).length =
      (escapeChars front).length + (escapeChars back).length + (cutsSlot front back).toNat := by
  cases h : cutsSlot front back with
  | false => simp [escapeChars_append h]
  | true =>
    simp only [cutsSlot, Bool.and_eq_true, beq_iff_eq] at h
    obtain ⟨start, rfl⟩ := List.getLast?_eq_some_iff.1 h.1
    obtain ⟨tail, rfl⟩ := List.head?_eq_some_iff.1 h.2
    -- the dollar sign itself meets no brace in front of it
    have hs (later : List Char) : cutsSlot start ('$' :: later) = false := by simp [cutsSlot]
    rw [List.append_assoc, List.singleton_append, escapeChars_append (hs _),
      escapeChars_append (hs _)]
    simp [escapeChars, escapeChar, backtick]
    omega

/-! ### Bodies -/

theorem leadingText_joinTo (piece : Content) (contents : Contents) :
    leadingText (joinTo piece contents) = leadingText (piece :: contents) := by
  fun_cases joinTo piece contents <;> simp_all [leadingText]

@[simp] theorem leadingText_joined (contents : Contents) :
    leadingText contents.joined = leadingText contents := by
  induction contents with
  | nil => rfl
  | cons piece contents ih =>
    rw [joined, leadingText_joinTo]
    cases piece <;> simp [leadingText, ih]

/-- A run of text in front of joined contents becomes a part of their first text. -/
theorem exists_body_joinTo (hj : contents.IsJoined) (words : String) :
    ∃ back later, contents.body.toList = escapeChars back ++ later ∧
      (body (joinTo (.text words) contents)).toList =
        escapeChars (words.toList ++ back) ++ later ∧
      cutsSlot words.toList (leadingText contents) = cutsSlot words.toList back := by
  cases contents with
  | nil =>
    refine ⟨[], [], rfl, ?_, rfl⟩
    rw [joinTo_text (by simp)]
    split_ifs with hw <;> simp [body, escape, hw]
  | cons piece contents =>
    cases piece with
    | text back =>
      refine ⟨back.toList, (body contents).toList, ?_, ?_, ?_⟩
      · rw [toList_body_cons, toList_body_text]
      · rw [joinTo, toList_body_cons, toList_body_text, String.toList_append]
      · have hb : back.toList ≠ [] := fun hn => hj.1 (String.toList_eq_nil_iff.1 hn)
        rw [leadingText, cutsSlot, cutsSlot, List.head?_append_of_ne_nil _ hb]
    | placeholder payload =>
      refine ⟨[], (body (.placeholder payload :: contents)).toList, rfl, ?_, rfl⟩
      rw [joinTo_text (by simp), List.append_nil]
      split_ifs with hw
      · simp [hw]
      · rw [toList_body_cons (.text words), toList_body_text]

/-- Joining runs of text adds a backslash for each slot that was cut. -/
theorem length_body_joined (contents : Contents) :
    contents.joined.body.toList.length = contents.body.toList.length + slotCuts contents := by
  induction contents with
  | nil => rfl
  | cons piece contents ih =>
    rw [toList_body_cons, List.length_append, joined]
    cases piece with
    | placeholder payload =>
      rw [joinTo_placeholder, toList_body_cons, List.length_append, ih, slotCuts]
      omega
    | text words =>
      obtain ⟨back, later, hb, hl, hc⟩ := exists_body_joinTo (isJoined_joined contents) words
      rw [leadingText_joined] at hc
      rw [hb, List.length_append] at ih
      rw [hl, List.length_append, length_escapeChars_append, toList_body_text, slotCuts, hc]
      omega

/-- **Text may be cut at every place where no slot is cut**, and at no other: just then the body of
the joined contents is the body of the contents. -/
theorem body_joined_iff (contents : Contents) :
    contents.joined.body = contents.body ↔ slotCuts contents = 0 := by
  constructor
  · intro h
    have hl := length_body_joined contents
    rw [h] at hl
    omega
  · intro h
    apply String.toList_inj.1
    induction contents with
    | nil => rfl
    | cons piece contents ih =>
      cases piece with
      | placeholder payload =>
        rw [joined, joinTo_placeholder, toList_body_cons, ih h, ← toList_body_cons]
      | text words =>
        simp only [slotCuts, Nat.add_eq_zero_iff, Bool.toNat_eq_zero] at h
        obtain ⟨back, later, hb, hl, hc⟩ := exists_body_joinTo (isJoined_joined contents) words
        rw [leadingText_joined, h.1] at hc
        rw [joined, hl, escapeChars_append hc.symm, List.append_assoc, ← hb, ih h.2,
          ← toList_body_text, ← toList_body_cons]

theorem body_eq_of_joined_eq (h : contents.joined = other.joined) (hc : slotCuts contents = 0)
    (ho : slotCuts other = 0) : contents.body = other.body := by
  rw [← (body_joined_iff contents).2 hc, h, (body_joined_iff other).2 ho]

end Contents

open Contents

/-- **A message may be cut into other runs of text**, as long as no cut stands between a dollar sign
and a brace: its body stays the same, and so what the body reads as, its static texts and its
identifier. -/
theorem shapeId_of_joined_eq {message other : ProgramMessage}
    (h : message.contents.joined = other.contents.joined) (hr : message.isRich = other.isRich)
    (hm : slotCuts message.contents = 0) (ho : slotCuts other.contents = 0) :
    message.contents.body = other.contents.body ∧
      Template.parse message.contents.body = Template.parse other.contents.body ∧
      message.contents.templateStrings = other.contents.templateStrings ∧
      message.shapeId = other.shapeId := by
  have hb := body_eq_of_joined_eq h hm ho
  have ht : message.contents.templateStrings = other.contents.templateStrings := by
    rw [templateStrings, templateStrings, hb]
  refine ⟨hb, by rw [hb], ht, ?_⟩
  rw [ProgramMessage.shapeId, ProgramMessage.shapeId, ht, hr]

/-- A text with a line end and a slot, in one run. -/
def wholeLine : ProgramMessage :=
  ⟨"m", [.text "5$ \\\r\n$\x7bx\x7d"], [], false, none, by decide⟩

/-- The same text cut at each place where an escape or a line end might suffer. -/
def cutLine : ProgramMessage :=
  ⟨"m", [.text "5$", .text " \\", .text "\r", .text "\n", .text "", .text "$\x7b", .text "x\x7d"],
    [], false, none, by decide⟩

theorem shapeId_of_joined_eq_line :
    wholeLine.contents.joined = cutLine.contents.joined ∧ wholeLine.isRich = cutLine.isRich ∧
    slotCuts wholeLine.contents = 0 ∧ slotCuts cutLine.contents = 0 ∧
    wholeLine.contents.body = cutLine.contents.body ∧
      Template.parse wholeLine.contents.body = Template.parse cutLine.contents.body ∧
      wholeLine.contents.templateStrings = cutLine.contents.templateStrings ∧
      wholeLine.shapeId = cutLine.shapeId := by
  have hj : wholeLine.contents.joined = cutLine.contents.joined := by decide +kernel
  have hw : slotCuts wholeLine.contents = 0 := by decide +kernel
  have hc : slotCuts cutLine.contents = 0 := by decide +kernel
  exact ⟨hj, rfl, hw, hc, shapeId_of_joined_eq hj rfl hw hc⟩

/-- A text that looks like a slot, in one run. -/
def wholeSlot : ProgramMessage :=
  ⟨"m", [.text "$\x7bx\x7d"], [], false, none, by decide⟩

/-- The same text cut between the dollar sign and the brace. -/
def cutSlot : ProgramMessage :=
  ⟨"m", [.text "$", .text "\x7bx\x7d"], [], false, none, by decide⟩

/-- A cut between a dollar sign and a brace changes the identifier: the text becomes a slot. -/
theorem not_shapeId_of_joined_eq :
    ¬∀ message other : ProgramMessage, message.contents.joined = other.contents.joined →
      (Template.parse message.contents.body).isOk → message.isRich = other.isRich →
        message.shapeId = other.shapeId := by
  intro h
  have hs := h wholeSlot cutSlot (by decide +kernel) (by decide +kernel) rfl
  revert hs
  decide +kernel

end Polyglot
