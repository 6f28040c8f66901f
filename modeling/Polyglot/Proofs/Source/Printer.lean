import Polyglot.Proofs.Results
import Polyglot.Source.Printer

/-!
# Printed expressions, one level at a time

`Written` lists the forms of a printed expression, given how the expressions inside it are printed,
and `printExpression_succ_eq_ok_iff` says that printing within one level more gives just these
forms. So whatever holds of every form holds of every printed expression, and more levels never
change what is printed.
-/

namespace Polyglot.Source.Printer

variable {print finer : Node → Except Failure String} {node : Node} {text : String}
  {limit : Int} {room : Nat}

/-- How an expression is written, given how the expressions inside it are printed. -/
inductive Written (print : Node → Except Failure String) : Node → String → Prop
  | identifier (name : String) : Written print (.identifier name) name
  | stringLiteral (value : String) : Written print (.stringLiteral value) (Text.quoteDouble value)
  | numericLiteral (raw : String) : Written print (.numericLiteral raw) raw
  | rawExpression (text : String) : Written print (.rawExpression text) text
  | templateLiteral {head : String} {spans : List Node} {slots : List (String × String)}
      (hs : printSlots print spans = .ok slots) :
      Written print (.templateLiteral head spans) (templateSource head slots)
  | taggedTemplate {tag : Node} {front head : String} {spans : List Node}
      {slots : List (String × String)} (ht : print tag = .ok front)
      (hs : printSlots print spans = .ok slots) :
      Written print (.taggedTemplate tag (.templateLiteral head spans))
        (parenthesizedIf (needsParentheses tag) front ++ templateSource head slots)
  | callExpression {callee : Node} {arguments : List Node} {front : String} {texts : List String}
      (hc : print callee = .ok front) (ha : arguments.mapM print = .ok texts) :
      Written print (.callExpression callee arguments)
        (parenthesizedIf (needsParentheses callee) front ++ "(" ++ commaSeparated texts ++ ")")
  | propertyAccess {expression : Node} {name front : String} (he : print expression = .ok front) :
      Written print (.propertyAccess expression name)
        (parenthesizedIf (needsParentheses expression) front ++ "." ++ name)
  | arrowFunction {parameters : List Parameter} {body : Node} {back : String}
      (hb : print body = .ok back) :
      Written print (.arrowFunction parameters body)
        (printParameters parameters ++ " => " ++ parenthesizedIf (isObjectLiteral body) back)
  | objectLiteral {properties : List Node} {texts : List String}
      (hp : properties.mapM (printProperty print) = .ok texts) :
      Written print (.objectLiteral properties) ("\x7b" ++ commaSeparated texts ++ "\x7d")
  | arrayLiteral {elements : List Node} {texts : List String}
      (he : elements.mapM print = .ok texts) :
      Written print (.arrayLiteral elements) ("[" ++ commaSeparated texts ++ "]")

theorem printTemplate_eq_ok_iff :
    printTemplate print node = .ok text ↔ ∃ head spans slots, node = .templateLiteral head spans ∧
      printSlots print spans = .ok slots ∧ text = templateSource head slots := by
  constructor
  · intro h
    cases node with
    | templateLiteral head spans =>
      obtain ⟨slots, hs, h⟩ := bind_eq_ok_iff.1 h
      exact ⟨head, spans, slots, rfl, hs, (Except.ok.inj h).symm⟩
    | _ => cases h
  · rintro ⟨head, spans, slots, rfl, hs, rfl⟩
    rw [printTemplate, hs]
    rfl

theorem printProperty_eq_ok_iff :
    printProperty print node = .ok text ↔ ∃ name value back,
      node = .propertyAssignment name value ∧ print value = .ok back ∧
        text = name ++ ": " ++ back := by
  constructor
  · intro h
    cases node with
    | propertyAssignment name value =>
      obtain ⟨back, hb, h⟩ := bind_eq_ok_iff.1 h
      exact ⟨name, value, back, rfl, hb, (Except.ok.inj h).symm⟩
    | _ => cases h
  · rintro ⟨name, value, back, rfl, hb, rfl⟩
    rw [printProperty, hb]
    rfl

theorem written_of_printExpression (h : printExpression limit (room + 1) node = .ok text) :
    Written (printExpression limit room) node text := by
  rw [printExpression.eq_def] at h
  cases node with
  | identifier | stringLiteral | numericLiteral | rawExpression =>
    cases h
    constructor
  | templateLiteral =>
    obtain ⟨head, spans, slots, hn, hs, rfl⟩ := printTemplate_eq_ok_iff.1 h
    cases hn
    exact .templateLiteral hs
  | taggedTemplate tag template =>
    obtain ⟨front, hf, h⟩ := bind_eq_ok_iff.1 h
    obtain ⟨front, ht, rfl⟩ := map_eq_ok_iff.1 hf
    obtain ⟨source, hp, h⟩ := bind_eq_ok_iff.1 h
    obtain ⟨head, spans, slots, rfl, hs, rfl⟩ := printTemplate_eq_ok_iff.1 hp
    cases h
    exact .taggedTemplate ht hs
  | callExpression callee arguments =>
    obtain ⟨front, hf, h⟩ := bind_eq_ok_iff.1 h
    obtain ⟨front, hc, rfl⟩ := map_eq_ok_iff.1 hf
    obtain ⟨texts, ha, h⟩ := bind_eq_ok_iff.1 h
    cases h
    exact .callExpression hc ha
  | propertyAccess expression name =>
    obtain ⟨front, hf, h⟩ := bind_eq_ok_iff.1 h
    obtain ⟨front, he, rfl⟩ := map_eq_ok_iff.1 hf
    cases h
    exact .propertyAccess he
  | arrowFunction parameters body =>
    obtain ⟨back, hb, h⟩ := bind_eq_ok_iff.1 h
    cases h
    exact .arrowFunction hb
  | objectLiteral properties =>
    obtain ⟨texts, hp, h⟩ := bind_eq_ok_iff.1 h
    cases h
    exact .objectLiteral hp
  | arrayLiteral elements =>
    obtain ⟨texts, he, h⟩ := bind_eq_ok_iff.1 h
    cases h
    exact .arrayLiteral he
  | _ => cases h

theorem Written.printed (h : Written (printExpression limit room) node text) :
    printExpression limit (room + 1) node = .ok text := by
  cases h with
  | identifier | stringLiteral | numericLiteral | rawExpression => rw [printExpression]
  | templateLiteral hs =>
    rw [printExpression]
    exact printTemplate_eq_ok_iff.2 ⟨_, _, _, rfl, hs, rfl⟩
  | @taggedTemplate _ _ head _ _ ht hs =>
    have hp := printTemplate_eq_ok_iff.2 ⟨head, _, _, rfl, hs, rfl⟩
    rw [printExpression]
    simp only [ht, hp, map_ok, bind_ok]
    rfl
  | callExpression hc ha =>
    rw [printExpression]
    simp only [hc, ha, map_ok, bind_ok]
    rfl
  | propertyAccess he =>
    rw [printExpression]
    simp only [he, map_ok, bind_ok]
    rfl
  | arrowFunction hb =>
    rw [printExpression, hb]
    rfl
  | objectLiteral hp =>
    rw [printExpression, hp]
    rfl
  | arrayLiteral he =>
    rw [printExpression, he]
    rfl

theorem printExpression_succ_eq_ok_iff :
    printExpression limit (room + 1) node = .ok text ↔
      Written (printExpression limit room) node text :=
  ⟨written_of_printExpression, Written.printed⟩

/-- A printer that prints more writes what was written. -/
theorem Written.mono (hf : ∀ n t, print n = .ok t → finer n = .ok t)
    (h : Written print node text) : Written finer node text := by
  have hslots {spans : List Node} {slots : List (String × String)}
      (hs : printSlots print spans = .ok slots) : printSlots finer spans = .ok slots := by
    refine mapM_ok_of_mapM_ok (fun span slot h => ?_) hs
    obtain ⟨source, he, h⟩ := bind_eq_ok_iff.1 h
    simp only [hf _ _ he, bind_ok]
    exact h
  have hmap {l : List Node} {texts : List String} (h : l.mapM print = .ok texts) :
      l.mapM finer = .ok texts := mapM_ok_of_mapM_ok hf h
  cases h with
  | identifier | stringLiteral | numericLiteral | rawExpression => constructor
  | templateLiteral hs => exact .templateLiteral (hslots hs)
  | taggedTemplate ht hs => exact .taggedTemplate (hf _ _ ht) (hslots hs)
  | callExpression hc ha => exact .callExpression (hf _ _ hc) (hmap ha)
  | propertyAccess he => exact .propertyAccess (hf _ _ he)
  | arrowFunction hb => exact .arrowFunction (hf _ _ hb)
  | objectLiteral hp =>
    refine .objectLiteral (mapM_ok_of_mapM_ok (fun property t h => ?_) hp)
    obtain ⟨name, value, back, rfl, hv, rfl⟩ := printProperty_eq_ok_iff.1 h
    exact printProperty_eq_ok_iff.2 ⟨name, value, back, rfl, hf _ _ hv, rfl⟩
  | arrayLiteral he => exact .arrayLiteral (hmap he)

/-- More levels print the same, whatever limit is reported. -/
theorem printExpression_mono {bound : Int} {more : Nat} (hr : room ≤ more)
    (h : printExpression limit room node = .ok text) :
    printExpression bound more node = .ok text := by
  induction room generalizing more node text with
  | zero => cases h
  | succ room ih =>
    obtain ⟨more, rfl⟩ := Nat.exists_eq_succ_of_ne_zero (Nat.ne_zero_of_lt hr)
    have hfiner := (written_of_printExpression h).mono fun _ _ => ih (Nat.le_of_succ_le_succ hr)
    exact hfiner.printed

/-- What prints as an expression prints so by itself. -/
theorem printNode_of_printExpression (h : printExpression limit room node = .ok text) :
    printNode limit room node = .ok text := by
  cases room with
  | zero => cases h
  | succ room =>
    cases written_of_printExpression h <;> exact h

end Polyglot.Source.Printer
