import Polyglot.Message.Basic
import Mathlib.Tactic.Common

/-!
# Joined contents

Contents in which no run of text is empty and no two runs meet. Documents cannot tell other contents
from these, and `Contents.joined` makes them: it drops empty runs and joins the ones that meet. What
a translator reads and the payloads stay the same.
-/

namespace Polyglot

namespace Contents

/-- A piece in front of others, joined to the run of text that it meets. -/
def joinTo : Content → Contents → Contents
  | .placeholder payload, rest => .placeholder payload :: rest
  | .text front, .text back :: rest => .text (front ++ back) :: rest
  | .text front, rest => if front = "" then rest else .text front :: rest

/-- Contents without empty runs of text, the runs that meet joined. -/
def joined : Contents → Contents
  | [] => []
  | piece :: rest => joinTo piece (joined rest)

/-- No run of text is empty and no two runs meet. -/
def IsJoined : Contents → Prop
  | [] => True
  | .text front :: rest => front ≠ "" ∧ (∀ back, rest.head? ≠ some (.text back)) ∧ IsJoined rest
  | .placeholder _ :: rest => IsJoined rest

variable {piece : Content} {contents : Contents} {text : String}

@[simp] theorem joinTo_placeholder (payload : String) (contents : Contents) :
    joinTo (.placeholder payload) contents = .placeholder payload :: contents := by
  cases contents <;> rfl

theorem joinTo_text (h : ∀ back, contents.head? ≠ some (.text back)) :
    joinTo (.text text) contents = if text = "" then contents else .text text :: contents := by
  cases contents with
  | nil => rfl
  | cons piece rest =>
    cases piece with
    | text back => exact absurd rfl (h back)
    | placeholder => rfl

theorem IsJoined.joinTo (h : IsJoined contents) (piece : Content) :
    IsJoined (joinTo piece contents) := by
  cases piece with
  | placeholder => rwa [joinTo_placeholder]
  | text front =>
    cases contents with
    | nil =>
      rw [joinTo_text (by simp)]
      split_ifs with hf
      · exact h
      · exact ⟨hf, by simp, h⟩
    | cons next rest =>
      cases next with
      | text back => exact ⟨by simp [h.1], h.2⟩
      | placeholder =>
        rw [joinTo_text (by simp)]
        split_ifs with hf
        · exact h
        · exact ⟨hf, by simp, h⟩

/-- Joining reaches joined contents, -/
theorem isJoined_joined (contents : Contents) : IsJoined contents.joined := by
  induction contents with
  | nil => trivial
  | cons piece rest ih => exact ih.joinTo piece

/-- and leaves them as they are. -/
theorem joined_of_isJoined (h : IsJoined contents) : contents.joined = contents := by
  induction contents with
  | nil => rfl
  | cons piece rest ih =>
    cases piece with
    | text front =>
      obtain ⟨hf, hr, hj⟩ := h
      rw [joined, ih hj, joinTo_text hr, if_neg hf]
    | placeholder payload => rw [joined, ih h, joinTo_placeholder]

/-! ### What stays the same -/

@[simp] theorem payloads_joinTo (piece : Content) (contents : Contents) :
    payloads (joinTo piece contents) = payloads (piece :: contents) := by
  fun_cases joinTo piece contents <;> rfl

@[simp] theorem payloads_joined (contents : Contents) :
    contents.joined.payloads = contents.payloads := by
  induction contents with
  | nil => rfl
  | cons piece rest ih =>
    rw [joined, payloads_joinTo]
    cases piece <;> simp [ih]

theorem readable_text (text : String) (rest : Contents) :
    readable (.text text :: rest) = text ++ readable rest := by
  simp [readable]

theorem readable_placeholder (payload : String) (rest : Contents) :
    readable (.placeholder payload :: rest) = payload ++ readable rest := by
  simp [readable]

theorem readable_joinTo (piece : Content) (contents : Contents) :
    readable (joinTo piece contents) = readable (piece :: contents) := by
  fun_cases joinTo piece contents <;> simp_all [readable, String.append_assoc]

@[simp] theorem readable_joined (contents : Contents) :
    contents.joined.readable = contents.readable := by
  induction contents with
  | nil => rfl
  | cons piece rest ih =>
    rw [joined, readable_joinTo]
    simp_all [readable]

end Contents

/-- A message with joined contents. -/
def Message.joined (message : Message) : Message :=
  ⟨message.name, message.contents.joined, message.name_ne⟩

theorem Message.joined_of_isJoined {message : Message} (h : message.contents.IsJoined) :
    message.joined = message := by
  simp [joined, Contents.joined_of_isJoined h]

end Polyglot
