import Polyglot.Interchange.Writing
import Mathlib.Data.List.Basic

/-!
# What writing adds

Whatever stands in an element, a piece of writing adds the same attributes and nodes to it or fails
in the same way: `Adds` says which, and has a law for each way to write. Pieces in a row fail with
the first failure among theirs. So the failures of a document come from the texts that are written
into it, in their order.
-/

namespace Polyglot.Interchange

open Xml

variable {α β : Type}

/-! ### Failures -/

/-- An answer, unless there is a failure. -/
def outcome (failure? : Option Failure) (answer : α) : Except Failure α :=
  failure?.elim (.ok answer) .error

@[simp] theorem outcome_eq_error_iff {failure? : Option Failure} {answer : α} {failure : Failure} :
    outcome failure? answer = .error failure ↔ failure? = some failure := by
  cases failure? <;> simp [outcome]

@[simp] theorem outcome_eq_ok_iff {failure? : Option Failure} {answer other : α} :
    outcome failure? answer = .ok other ↔ failure? = none ∧ other = answer := by
  cases failure? <;> simp [outcome, eq_comm]

theorem outcome_return (failure? : Option Failure) (answer : α) (f : α → β) :
    (do let answer ← outcome failure? answer; return f answer) = outcome failure? (f answer) := by
  cases failure? <;> rfl

/-- A wrong value, unless the texts are legal. -/
def refusal? (legal : Bool) : Option Failure :=
  if legal then none else some (.value .unwritableCharacter)

@[simp] theorem refusal?_eq_none_iff {legal : Bool} : refusal? legal = none ↔ legal := by
  cases legal <;> simp [refusal?]

theorem refusal?_or (first second : Bool) :
    (refusal? first).or (refusal? second) = refusal? (first && second) := by
  cases first <;> rfl

theorem findSome?_refusal? (legal : α → Bool) (things : List α) :
    (things.findSome? fun thing => refusal? (legal thing)) = refusal? (things.all legal) := by
  induction things with
  | nil => rfl
  | cons thing rest ih =>
    rw [List.findSome?_cons, ih, List.all_cons]
    cases legal thing <;> rfl

theorem bind_refusal? (legal : α → Bool) (thing? : Option α) :
    (thing?.bind fun thing => refusal? (legal thing)) = refusal? (thing?.all legal) := by
  cases thing? <;> rfl

/-! ### What stands in an element -/

/-- The entries are put one after the other. -/
def putAll (entries table : List Attribute) : List Attribute :=
  entries.foldl (fun table entry => Keyed.put entry.1 entry.2 table) table

theorem putAll_append (entries others table : List Attribute) :
    putAll (entries ++ others) table = putAll others (putAll entries table) :=
  List.foldl_append

namespace Writing

/-- Writing adds attributes and nodes to those that stand in an element, or it fails. -/
def Adds (failure? : Option Failure) (attributes : List Attribute) (nodes : List Node)
    (write : Writing Unit) : Prop :=
  ∀ inside, write.run inside =
    outcome failure? ((), ⟨putAll attributes inside.attributes, inside.nodes ++ nodes⟩)

variable {first? second? : Option Failure} {attributes others : List Attribute}
  {nodes more : List Node} {write later : Writing Unit}

/-! ### Laws -/

theorem Adds.nothing : Adds none [] [] (return) := by
  intro inside
  rw [List.append_nil]
  rfl

theorem Adds.andThen (h : Adds first? attributes nodes write)
    (hl : Adds second? others more later) :
    Adds (first?.or second?) (attributes ++ others) (nodes ++ more) (do write; later) := by
  intro inside
  rw [StateT.run_bind, h]
  cases first? with
  | some failure => rfl
  | none =>
    rw [putAll_append, ← List.append_assoc]
    exact hl _

theorem Adds.forM {write : α → Writing Unit} {failure? : α → Option Failure}
    {attributes : α → List Attribute} {nodes : α → List Node}
    (h : ∀ thing, Adds (failure? thing) (attributes thing) (nodes thing) (write thing))
    (things : List α) :
    Adds (things.findSome? failure?) (things.flatMap attributes) (things.flatMap nodes)
      (things.forM write) := by
  induction things with
  | nil => exact .nothing
  | cons thing rest ih =>
    rw [List.findSome?_cons]
    have ht := (h thing).andThen ih
    cases hf : failure? thing <;> rw [hf] at ht <;> exact ht

theorem Adds.forOption {write : α → Writing Unit} {failure? : α → Option Failure}
    {attributes : α → List Attribute} {nodes : α → List Node}
    (h : ∀ thing, Adds (failure? thing) (attributes thing) (nodes thing) (write thing))
    (thing? : Option α) :
    Adds (thing?.bind failure?) (thing?.elim [] attributes) (thing?.elim [] nodes)
      (thing?.forM write) := by
  cases thing? with
  | none => exact .nothing
  | some thing => exact h thing

theorem adds_setAttribute (key value : String) :
    Adds (refusal? (isLegalText value)) [(key, value)] [] (setAttribute key value) := by
  intro inside
  rw [setAttribute, requireLegal, List.append_nil]
  cases isLegalText value <;> rfl

theorem adds_setAttributes (entries : List Attribute) :
    Adds (refusal? (entries.all fun entry => isLegalText entry.2)) entries []
      (setAttributes entries) := by
  have h := Adds.forM (fun entry : Attribute => adds_setAttribute entry.1 entry.2) entries
  have ha : entries.flatMap (fun entry => [(entry.1, entry.2)]) = entries :=
    List.flatMap_singleton' entries
  have hn : entries.flatMap (fun _ => ([] : List Node)) = [] := by simp
  rwa [findSome?_refusal?, ha, hn] at h

theorem adds_appendText (text : String) :
    Adds (refusal? (isLegalText text)) [] [.text text] (appendText text) := by
  intro inside
  rw [appendText, requireLegal]
  cases isLegalText text <;> rfl

theorem isLegalText_lineBreak (level : Nat) : isLegalText (lineBreak level) := by
  simp [isLegalText, lineBreak, isLegal]

theorem adds_indent (level : Nat) : Adds none [] [.text (lineBreak level)] (indent level) := by
  have h := adds_appendText (lineBreak level)
  rwa [isLegalText_lineBreak] at h

theorem toElement_eq (h : Adds first? attributes nodes write) (name : String)
    (declarations : List Attribute) : toElement name declarations write =
      outcome first? (.element name (putAll attributes declarations) nodes) := by
  rw [toElement, h]
  cases first? <;> rfl

theorem Adds.appendElement (h : Adds first? attributes nodes write) (name : String) :
    Adds first? [] [.element name (putAll attributes []) nodes] (appendElement name write) := by
  intro inside
  rw [Writing.appendElement, toElement_eq h]
  cases first? <;> rfl

theorem Adds.inUnit (h : Adds first? attributes nodes write) (tag name : String) :
    Adds (first?.map (unitFailure tag name)) attributes nodes (inUnit tag name write) := by
  intro inside
  show (write.run inside).mapError _ = _
  rw [h]
  cases first? <;> rfl

end Writing

end Polyglot.Interchange
