import Polyglot.Source.Template
import Mathlib.Data.List.ModifyLast
import Mathlib.Logic.Relation
import Mathlib.Tactic.Common

/-!
# Fragments and the templates that they make up

A template keeps of its fragments the expressions and the text between them, but not where that text
was cut. `Fragment.joined` drops empty texts and joins the ones that meet; dropping and joining in
any order ends there, `Template.ends_joined_iff`. Fragments make up the same template just when they
are equal once joined, `Template.ofFragments_eq_iff`.

A template grows at its end, `Template.ofFragments_concat`, so of the fragments in front only their
template counts. `Gathered` is what a reader of fragments keeps meanwhile: the pieces of each text,
put together in the end.

Main statement: `Template.interchangeable_up_to_joining`.
-/

namespace Polyglot.Source

open Relation

namespace Fragment

variable {fragments others : List Fragment}

/-- The expression of a slot. -/
def expression? : Fragment → Option Node
  | text _ => none
  | slot expression => some expression

/-- The expressions of some fragments, in order. -/
def expressions (fragments : List Fragment) : List Node :=
  fragments.filterMap expression?

/-- The fragment is a text without characters. -/
def isEmpty : Fragment → Bool
  | text words => words == ""
  | slot _ => false

/-- Some fragments without the empty texts among them. -/
def dropEmpty (fragments : List Fragment) : List Fragment :=
  fragments.filter (!·.isEmpty)

/-- A fragment in front of others, joined to the first of these if both are texts. -/
def joinTo : Fragment → List Fragment → List Fragment
  | text front, text back :: rest => text (front ++ back) :: rest
  | fragment, rest => fragment :: rest

/-- Some fragments, each run of texts among them joined to one text. -/
def joinTexts : List Fragment → List Fragment
  | [] => []
  | fragment :: rest => joinTo fragment (joinTexts rest)

/-- Some fragments without empty texts, the texts that then meet joined. -/
def joined (fragments : List Fragment) : List Fragment :=
  joinTexts (dropEmpty fragments)

@[simp] theorem expressions_text (words : String) (rest : List Fragment) :
    expressions (text words :: rest) = expressions rest := rfl

@[simp] theorem expressions_slot (expression : Node) (rest : List Fragment) :
    expressions (slot expression :: rest) = expression :: expressions rest := rfl

@[simp] theorem dropEmpty_text (words : String) (rest : List Fragment) :
    dropEmpty (text words :: rest) =
      if words = "" then dropEmpty rest else text words :: dropEmpty rest := by
  by_cases h : words = "" <;> simp [dropEmpty, isEmpty, h]

@[simp] theorem dropEmpty_slot (expression : Node) (rest : List Fragment) :
    dropEmpty (slot expression :: rest) = slot expression :: dropEmpty rest := rfl

theorem joined_text (words : String) (rest : List Fragment) :
    joined (text words :: rest) =
      if words = "" then joined rest else joinTo (text words) (joined rest) := by
  rw [joined, dropEmpty_text]
  split_ifs <;> rfl

theorem joined_slot (expression : Node) (rest : List Fragment) :
    joined (slot expression :: rest) = slot expression :: joined rest := rfl

/-! ### Steps -/

/-- Somewhere among some fragments an empty text is dropped or two texts that meet are joined. -/
inductive Merge : List Fragment → List Fragment → Prop
  | drop {rest : List Fragment} : Merge (text "" :: rest) rest
  | join {front back : String} {rest : List Fragment} :
      Merge (text front :: text back :: rest) (text (front ++ back) :: rest)
  | behind {fragments others : List Fragment} (fragment : Fragment) (h : Merge fragments others) :
      Merge (fragment :: fragments) (fragment :: others)

/-- Each step leaves one fragment less, so that steps come to an end. -/
theorem Merge.length_eq (h : Merge fragments others) : fragments.length = others.length + 1 := by
  induction h with
  | drop => rfl
  | join => rfl
  | behind _ _ ih => exact congrArg (· + 1) ih

theorem length_le_of_merges (h : ReflTransGen Merge fragments others) :
    others.length ≤ fragments.length := by
  induction h with
  | refl => exact Nat.le_refl _
  | tail _ hm ih =>
    rw [hm.length_eq] at ih
    exact Nat.le_of_succ_le ih

theorem merges_behind (fragment : Fragment) (h : ReflTransGen Merge fragments others) :
    ReflTransGen Merge (fragment :: fragments) (fragment :: others) :=
  h.lift (fragment :: ·) fun _ _ => .behind fragment

theorem merges_dropEmpty (fragments : List Fragment) :
    ReflTransGen Merge fragments (dropEmpty fragments) := by
  induction fragments with
  | nil => exact .refl
  | cons fragment rest ih =>
    cases fragment with
    | text words =>
      rw [dropEmpty_text]
      split_ifs with h
      · subst h
        exact .head .drop ih
      · exact merges_behind _ ih
    | slot expression => exact merges_behind _ ih

theorem merges_joinTo (fragment : Fragment) (rest : List Fragment) :
    ReflTransGen Merge (fragment :: rest) (joinTo fragment rest) := by
  fun_cases joinTo fragment rest with
  | case1 => exact .single .join
  | case2 => exact .refl

theorem merges_joinTexts (fragments : List Fragment) :
    ReflTransGen Merge fragments (joinTexts fragments) := by
  induction fragments with
  | nil => exact .refl
  | cons fragment rest ih => exact (merges_behind fragment ih).trans (merges_joinTo _ _)

theorem merges_joined (fragments : List Fragment) :
    ReflTransGen Merge fragments (joined fragments) :=
  (merges_dropEmpty fragments).trans (merges_joinTexts _)

end Fragment

namespace Template

open Fragment

variable {fragments others : List Fragment}

/-- A step leaves the template as it is, -/
theorem ofFragments_eq_of_merge (h : Merge fragments others) :
    ofFragments fragments = ofFragments others := by
  induction h with
  | drop => simp
  | join => simp [String.append_assoc]
  | behind fragment _ ih => cases fragment <;> simp [ih]

/-- and so do several. -/
theorem ofFragments_eq_of_merges (h : ReflTransGen Merge fragments others) :
    ofFragments fragments = ofFragments others := by
  induction h with
  | refl => rfl
  | tail _ hm ih => exact ih.trans (ofFragments_eq_of_merge hm)

@[simp] theorem ofFragments_joined (fragments : List Fragment) :
    ofFragments (joined fragments) = ofFragments fragments :=
  (ofFragments_eq_of_merges (merges_joined fragments)).symm

/-! ### Joined fragments -/

/-- The slots of a template begin with no text that could be joined. -/
theorem joinTo_dropEmpty_spans (words : String) (spans : List Span) :
    joinTo (.text words) (dropEmpty (spans.flatMap Span.fragments)) =
      .text words :: dropEmpty (spans.flatMap Span.fragments) := by
  cases spans with
  | nil => rfl
  | cons span spans => simp [Span.fragments, joinTo]

/-- The joined fragments are those of the template but for its empty texts. -/
theorem joined_eq_dropEmpty (fragments : List Fragment) :
    joined fragments = dropEmpty (ofFragments fragments).fragments := by
  induction fragments with
  | nil => rfl
  | cons fragment rest ih =>
    cases fragment with
    | slot expression => simp [joined_slot, ih, Template.fragments, Span.fragments]
    | text words =>
      rw [joined_text, ih, ofFragments_text]
      by_cases hw : words = ""
      · simp [hw]
      · simp only [if_neg hw, Template.fragments, dropEmpty_text]
        -- the text in front of the first slot is there only if it is not empty
        by_cases hh : (ofFragments rest).head = ""
        · simp [hh, hw, joinTo_dropEmpty_spans]
        · simp [hh, hw, joinTo]

theorem ofFragments_eq_iff :
    ofFragments fragments = ofFragments others ↔ joined fragments = joined others := by
  constructor
  · intro h
    rw [joined_eq_dropEmpty, joined_eq_dropEmpty, h]
  · intro h
    rw [← ofFragments_joined fragments, h, ofFragments_joined]

example (x y : Node) :
    ofFragments [.text "a", .text "b", .slot x, .text "", .slot y] =
      ofFragments [.text "", .text "ab", .slot x, .slot y, .text ""] := rfl

theorem not_merge_joined (fragments others : List Fragment) :
    ¬ Merge (joined fragments) others := by
  intro h
  -- one more step would leave fewer fragments, and they would still join to these
  have hj : joined others = joined fragments := by
    rw [← ofFragments_eq_iff, ← ofFragments_eq_of_merge h, ofFragments_joined]
  have hl := length_le_of_merges (merges_joined others)
  rw [hj, h.length_eq] at hl
  exact Nat.not_succ_le_self _ hl

/-- Steps in any order end with the joined fragments. -/
theorem ends_joined_iff :
    (ReflTransGen Merge fragments others ∧ ∀ next, ¬ Merge others next) ↔
      others = joined fragments := by
  constructor
  · rintro ⟨h, hn⟩
    rw [ofFragments_eq_iff.1 (ofFragments_eq_of_merges h)]
    obtain he | ⟨next, hm, -⟩ := (merges_joined others).cases_head
    · exact he
    · exact absurd hm (hn next)
  · rintro rfl
    exact ⟨merges_joined fragments, not_merge_joined fragments⟩

/-! ### A template that grows at its end -/

/-- A template with one more fragment at its end: a text goes behind the last slot, or to the head
if there is no slot. -/
def push (template : Template) : Fragment → Template
  | .text words =>
    if template.spans.isEmpty then ⟨template.head ++ words, []⟩
    else ⟨template.head, template.spans.modifyLast fun span =>
      ⟨span.expression, span.literal ++ words⟩⟩
  | .slot expression => ⟨template.head, template.spans ++ [⟨expression, ""⟩]⟩

theorem push_text_nil (head words : String) :
    push ⟨head, []⟩ (.text words) = ⟨head ++ words, []⟩ := rfl

theorem push_text_concat (head words : String) (spans : List Span) (last : Span) :
    push ⟨head, spans ++ [last]⟩ (.text words) =
      ⟨head, spans ++ [⟨last.expression, last.literal ++ words⟩]⟩ := by
  simp [push, List.modifyLast_concat]

theorem push_text_front (front words : String) (template : Template) :
    push ⟨front ++ template.head, template.spans⟩ (.text words) =
      ⟨front ++ (template.push (.text words)).head, (template.push (.text words)).spans⟩ := by
  obtain ⟨head, spans⟩ := template
  cases spans with
  | nil => simp [push_text_nil, String.append_assoc]
  | cons => rfl

theorem push_text_slot (expression : Node) (words : String) (template : Template) :
    push ⟨"", ⟨expression, template.head⟩ :: template.spans⟩ (.text words) =
      ⟨"", ⟨expression, (template.push (.text words)).head⟩ ::
        (template.push (.text words)).spans⟩ := by
  obtain ⟨head, spans⟩ := template
  obtain rfl | ⟨spans, last, rfl⟩ := spans.eq_nil_or_concat
  · exact push_text_concat "" words [] ⟨expression, head⟩
  · rw [List.concat_eq_append, push_text_concat]
    exact push_text_concat "" words (⟨expression, head⟩ :: spans) last

theorem ofFragments_concat (fragments : List Fragment) (fragment : Fragment) :
    ofFragments (fragments ++ [fragment]) = (ofFragments fragments).push fragment := by
  -- templates are made from the last fragment on, so the induction is on those in front of it
  induction fragments with
  | nil => cases fragment <;> simp [push]
  | cons first rest ih =>
    rw [List.cons_append]
    cases first with
    | text front =>
      rw [ofFragments_text, ofFragments_text, ih]
      cases fragment with
      | text words => exact (push_text_front ..).symm
      | slot => rfl
    | slot expression =>
      rw [ofFragments_slot, ofFragments_slot, ih]
      cases fragment with
      | text words => exact (push_text_slot ..).symm
      | slot => rfl

/-- Of the fragments in front only their template counts, -/
theorem ofFragments_append (fragments others : List Fragment) :
    ofFragments (fragments ++ others) = others.foldl push (ofFragments fragments) := by
  induction others generalizing fragments with
  | nil => simp
  | cons fragment others ih =>
    rw [List.append_cons, ih, ofFragments_concat, List.foldl_cons]

/-- and of the fragments behind as well. -/
theorem ofFragments_append_congr_right (fragments : List Fragment) {later : List Fragment}
    (h : ofFragments others = ofFragments later) :
    ofFragments (fragments ++ others) = ofFragments (fragments ++ later) := by
  induction fragments with
  | nil => exact h
  | cons fragment rest ih => cases fragment <;> simp [ih]

end Template

/-! ### Gathering pieces -/

/-- What is kept of fragments on the way from the first to the last: the pieces of the head, the
expressions and, for each of these, the pieces of the text after it. -/
structure Gathered where
  head : List String := []
  expressions : List Node := []
  literals : List (List String) := []

namespace Gathered

variable {gathered : Gathered} {template : Template}

/-- Take in one more fragment: a text is a piece of what was begun last, an expression begins a text
of its own. -/
def add (gathered : Gathered) : Fragment → Gathered
  | .text words =>
    if gathered.literals.isEmpty then { gathered with head := gathered.head ++ [words] }
    else { gathered with literals := gathered.literals.modifyLast (· ++ [words]) }
  | .slot expression =>
    { gathered with
      expressions := gathered.expressions ++ [expression]
      literals := gathered.literals ++ [[]] }

/-- The template of what was gathered, if there are as many expressions as texts after them. -/
def template? (gathered : Gathered) : Option Template :=
  if gathered.expressions.length = gathered.literals.length then
    some ⟨String.join gathered.head, List.zipWith (fun expression pieces =>
      ⟨expression, String.join pieces⟩) gathered.expressions gathered.literals⟩
  else none

theorem template?_add (h : gathered.template? = some template) (fragment : Fragment) :
    (gathered.add fragment).template? = some (template.push fragment) := by
  obtain ⟨head, expressions, literals⟩ := gathered
  obtain ⟨hl, rfl⟩ := Option.ite_some_none_eq_some.1 h
  cases fragment with
  | slot expression => simp [add, template?, hl, Template.push, List.zipWith_append]
  | text words =>
    obtain rfl | ⟨literals, pieces, rfl⟩ := literals.eq_nil_or_concat
    · obtain rfl := List.eq_nil_of_length_eq_zero hl
      simp [add, template?, Template.push]
    · rw [List.concat_eq_append] at hl ⊢
      obtain rfl | ⟨expressions, expression, rfl⟩ := expressions.eq_nil_or_concat
      · simp at hl
      · rw [List.concat_eq_append] at hl ⊢
        have hi : expressions.length = literals.length := by simpa using hl
        simp [add, template?, List.modifyLast_concat, List.zipWith_append hi,
          Template.push_text_concat, hi]

theorem template?_foldl (h : gathered.template? = some template) (fragments : List Fragment) :
    (fragments.foldl add gathered).template? = some (fragments.foldl Template.push template) := by
  induction fragments generalizing gathered template with
  | nil => exact h
  | cons fragment rest ih => exact ih (template?_add h fragment)

/-- What is gathered of some fragments, from the first to the last. -/
def gather (fragments : List Fragment) : Gathered :=
  fragments.foldl add {}

/-- What is gathered of fragments always makes up a template, and it is the template of these. -/
theorem template?_gather (fragments : List Fragment) :
    (gather fragments).template? = some (.ofFragments fragments) := by
  have h : template? {} = some (.ofFragments []) := rfl
  rw [gather, template?_foldl h, ← Template.ofFragments_append, List.nil_append]

end Gathered

/-! ### Back and forth -/

namespace Template

open Fragment

theorem map_expression_ofFragments (fragments : List Fragment) :
    (ofFragments fragments).spans.map Span.expression = expressions fragments := by
  induction fragments with
  | nil => rfl
  | cons fragment rest ih => cases fragment <;> simp [ih]

/-- A template comes back from its fragments; fragments make up the same template just when they are
equal once empty texts are dropped and texts that meet are joined; parts may be made into templates
and listed again before they are put together; and a template has the expressions of its fragments,
in order, and one text more than these. -/
theorem interchangeable_up_to_joining :
    (∀ template : Template, ofFragments template.fragments = template) ∧
      (∀ fragments others,
        ofFragments fragments = ofFragments others ↔ joined fragments = joined others) ∧
      (∀ fragments others, ofFragments (fragments ++ others) =
        ofFragments ((ofFragments fragments).fragments ++ (ofFragments others).fragments)) ∧
      ∀ fragments, (ofFragments fragments).spans.map Span.expression = expressions fragments ∧
        (ofFragments fragments).strings.length = (expressions fragments).length + 1 := by
  refine ⟨ofFragments_fragments, fun _ _ => ofFragments_eq_iff, fun fragments others => ?_,
    fun fragments => ⟨map_expression_ofFragments fragments, ?_⟩⟩
  · calc ofFragments (fragments ++ others)
        = ofFragments (fragments ++ (ofFragments others).fragments) :=
          ofFragments_append_congr_right _ (ofFragments_fragments _).symm
      _ = (ofFragments others).fragments.foldl push (ofFragments fragments) :=
          ofFragments_append _ _
      _ = (ofFragments others).fragments.foldl push
            (ofFragments (ofFragments fragments).fragments) := by rw [ofFragments_fragments]
      _ = ofFragments ((ofFragments fragments).fragments ++ (ofFragments others).fragments) :=
          (ofFragments_append _ _).symm
  · rw [length_strings, ← map_expression_ofFragments, List.length_map]

end Template

end Polyglot.Source
