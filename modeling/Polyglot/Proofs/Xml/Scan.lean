import Polyglot.Proofs.Results
import Polyglot.Xml.Scan

/-!
# What scans read

One equation for each scan: what it answers and what it leaves. Then what it reads of a text that
begins with a name, a given word or a quoted value.
-/

namespace Polyglot.Xml.Scan

variable {test : Char → Bool} {text rest front : List Char}

/-! ### Equations -/

@[simp] theorem run_rest (text : List Char) : Scan.rest.run text = some (text, text) := rfl

@[simp] theorem run_takeWhile (test : Char → Bool) (text : List Char) :
    (takeWhile test).run text = some (text.takeWhile test, text.dropWhile test) := rfl

@[simp] theorem run_space (text : List Char) :
    space.run text = some (!(text.takeWhile isSpace).isEmpty, text.dropWhile isSpace) := rfl

theorem run_literal (front : String) (text : List Char) :
    (literal front).run text = (after? front.toList text).map (((), ·)) := by
  simp only [literal, StateT.run_bind, StateT.run_get, pure_bind]
  cases after? front.toList text <;> rfl

theorem run_tryLiteral (front : String) (text : List Char) :
    (tryLiteral front).run text = some (match after? front.toList text with
      | some later => (true, later)
      | none => (false, text)) := by
  simp only [tryLiteral, StateT.run_bind, StateT.run_get, pure_bind]
  cases after? front.toList text <;> rfl

@[simp] theorem run_takeThrough (mark : String) (text : List Char) :
    (takeThrough mark).run text = splitAt? mark.toList text := by
  simp only [takeThrough, StateT.run_bind, StateT.run_get, pure_bind]
  cases splitAt? mark.toList text <;> rfl

theorem run_name (text : List Char) :
    name.run text =
      if isName (text.takeWhile fun c => isNameChar c || c == ':') then
        some (String.ofList (text.takeWhile fun c => isNameChar c || c == ':'),
          text.dropWhile fun c => isNameChar c || c == ':')
      else none := by
  simp only [name, StateT.run_bind, run_takeWhile, Option.bind_eq_bind, Option.bind_some,
    run_guard]
  split_ifs <;> rfl

/-! ### What begins with what -/

@[simp] theorem after?_append (front rest : List Char) :
    after? front (front ++ rest) = some rest := by
  induction front with
  | nil => rfl
  | cons c front ih => simpa [after?] using ih

theorem after?_cons_ne {c d : Char} (h : c ≠ d) : after? (c :: front) (d :: rest) = none := by
  simp [after?, h]

theorem eq_append_of_after? {front text later : List Char} (h : after? front text = some later) :
    text = front ++ later := by
  induction front generalizing text with
  | nil => exact Option.some.inj h
  | cons c front ih =>
    cases text with
    | nil => cases h
    | cons d text =>
      simp only [after?, beq_iff_eq] at h
      split_ifs at h with hc
      rw [hc, List.cons_append, ih h]

/-- A text stops a scan of some characters at once. -/
def Stops (test : Char → Bool) (text : List Char) : Prop :=
  ∀ c ∈ text.head?, test c = false

theorem takeWhile_append_stop (h : ∀ c ∈ front, test c) (hr : Stops test rest) :
    (front ++ rest).takeWhile test = front := by
  induction front with
  | nil =>
    cases rest with
    | nil => rfl
    | cons c rest => simp [hr c rfl]
  | cons c front ih =>
    simp [h c List.mem_cons_self, ih fun d hd => h d (List.mem_cons_of_mem c hd)]

theorem dropWhile_append_stop (h : ∀ c ∈ front, test c) (hr : Stops test rest) :
    (front ++ rest).dropWhile test = rest := by
  induction front with
  | nil =>
    cases rest with
    | nil => rfl
    | cons c rest => simp [hr c rfl]
  | cons c front ih =>
    simp [h c List.mem_cons_self, ih fun d hd => h d (List.mem_cons_of_mem c hd)]

theorem run_name_append {name : String} (hn : isName name.toList)
    (hr : Stops (fun c => isNameChar c || c == ':') rest) :
    Scan.name.run (name.toList ++ rest) = some (name, rest) := by
  have hm := hn
  simp only [isName, isMark, Bool.and_eq_true, List.all_eq_true] at hm
  rw [run_name, takeWhile_append_stop hm.1.1.2 hr, dropWhile_append_stop hm.1.1.2 hr, if_pos hn,
    String.ofList_toList]

theorem splitAt?_append {c : Char} (h : c ∉ front) :
    splitAt? [c] (front ++ c :: rest) = some (front, rest) := by
  induction front with
  | nil => simp [splitAt?, after?]
  | cons d front ih =>
    simp only [List.mem_cons, not_or] at h
    simp [splitAt?, after?, h.1, ih h.2]

/-- A value without double quotes reads back from between them. -/
theorem run_quoted_append (h : '"' ∉ front) :
    quoted.run ('"' :: (front ++ '"' :: rest)) = some (front, rest) := by
  have hs : splitAt? ['"'] (front ++ '"' :: rest) = some (front, rest) := splitAt?_append h
  simpa [quoted] using hs

end Polyglot.Xml.Scan
