import Polyglot.Proofs.Message.Validated
import Polyglot.Proofs.Searches
import Polyglot.Proofs.Text.Sorted
import Mathlib.Data.List.Count

/-!
# What validation finds

A translation deviates if its placeholders are not those of its source, the last message of its
name, in any order. `IsDifference` says what is then missing and what is extra, as sorted lists that
determine each other and nothing else. `validate_compares` says that the findings about a bundle are
one error for each translation that deviates and one warning for each that has no source, in the
order of the bundle, and that bundles are refused with the first error of the first bundle that has
any.
-/

namespace Polyglot

/-! ### Differences -/

/-- Some texts are missing and others extra in the actual ones, compared with those expected: with
the extra ones the expected texts are the actual ones with those that are missing, each as often,
and no text is both missing and extra. -/
structure IsDifference (expected actual missing extra : List String) : Prop where
  missing_sorted : missing.Pairwise (· ≤ ·)
  extra_sorted : extra.Pairwise (· ≤ ·)
  disjoint : missing.Disjoint extra
  balance : (expected ++ extra).Perm (actual ++ missing)

variable {expected actual missing extra texts xs ys : List String}

/-- A sorted list is determined by how often each text occurs in it. -/
theorem eq_sorted_of_count (h : xs.Pairwise (· ≤ ·)) (hc : ∀ x, xs.count x = ys.count x) :
    xs = Text.sorted ys :=
  ((List.perm_iff_count.2 hc).trans Text.sorted_perm.symm).eq_of_pairwise
    (fun _ _ _ _ => String.le_antisymm) h Text.pairwise_sorted

theorem count_without (x : String) : (without xs ys).count x = xs.count x - ys.count x := by
  rw [without, ← List.diff_eq_foldl, List.count_diff]

theorem disjoint_iff_count : xs.Disjoint ys ↔ ∀ x, xs.count x = 0 ∨ ys.count x = 0 := by
  simp only [List.Disjoint, List.count_eq_zero]
  exact forall_congr' fun x => by tauto

/-- **Missing and extra texts are the two subtractions**, each text as often as it occurs more often
on that side. -/
theorem isDifference_iff : IsDifference expected actual missing extra ↔
    missing = Text.sorted (without expected actual) ∧
      extra = Text.sorted (without actual expected) := by
  constructor
  · rintro ⟨hm, he, hd, hb⟩
    -- each text is counted on one side at most, so that the balance says how often
    rw [disjoint_iff_count] at hd
    simp only [List.perm_iff_count, List.count_append] at hb
    refine ⟨eq_sorted_of_count hm fun x => ?_, eq_sorted_of_count he fun x => ?_⟩
    all_goals
      have hx := hd x
      have hy := hb x
      rw [count_without]
      omega
  · rintro ⟨rfl, rfl⟩
    refine ⟨Text.pairwise_sorted, Text.pairwise_sorted, ?_, ?_⟩
    · simp only [disjoint_iff_count, Text.sorted_perm.count_eq, count_without]
      omega
    · simp only [List.perm_iff_count, List.count_append, Text.sorted_perm.count_eq, count_without]
      omega

/-! ### Findings -/

/-- The source of a translation: the last message of the program that has its name. -/
def IsSourceOf (sources : List ProgramMessage) (translation : Message) :
    ProgramMessage → Prop :=
  IsLast (·.name = translation.name) sources

/-- A translation has a source, and the placeholders of another. -/
def Deviates (sources : List ProgramMessage) (translation : Message) : Prop :=
  ∃ source, IsSourceOf sources translation source ∧
    ¬source.contents.payloads.Perm translation.contents.payloads

/-- No message of the program has the name of a translation. -/
def LacksSource (sources : List ProgramMessage) (translation : Message) : Prop :=
  ∀ source ∈ sources, source.name ≠ translation.name

/-- A finding says what is missing and what is extra in a translation. -/
def IsMismatch (sources : List ProgramMessage) (locale : String) (translation : Message)
    (d : Diagnostic) : Prop :=
  ∃ source missing extra, IsSourceOf sources translation source ∧
    IsDifference source.contents.payloads translation.contents.payloads missing extra ∧
      d = .placeholderMismatch locale translation.name missing extra

variable {sources : List ProgramMessage} {translation : Message} {source : ProgramMessage}
  {locale : String} {bundle : Bundle} {bundles : List Bundle} {d : Diagnostic} {f : Failure}

theorem sourceMessage?_eq_some_iff : sourceMessage? sources translation.name = some source ↔
    IsSourceOf sources translation source := by
  simp [sourceMessage?, find?_reverse_eq_some_iff, IsSourceOf]

theorem sourceMessage?_eq_none_iff : sourceMessage? sources translation.name = none ↔
    LacksSource sources translation := by
  simp [sourceMessage?, List.find?_eq_none, LacksSource]

theorem deviates_iff : Deviates sources translation ↔
    ∃ source ∈ sourceMessage? sources translation.name,
      ¬source.contents.payloads.Perm translation.contents.payloads := by
  simp only [Deviates, Option.mem_def, sourceMessage?_eq_some_iff]

instance : DecidablePred (Deviates sources) := fun _ =>
  decidable_of_iff _ deviates_iff.symm

instance : DecidablePred (LacksSource sources) := fun _ =>
  inferInstanceAs (Decidable (∀ source ∈ sources, _))

/-- A translation has a finding just if it deviates, and the finding is its mismatch. -/
theorem cases_of_translationError? (sources : List ProgramMessage) (locale : String)
    (translation : Message) :
    (¬Deviates sources translation ∧ translationError? sources locale translation = none) ∨
      ∃ d, Deviates sources translation ∧ IsMismatch sources locale translation d ∧
        translationError? sources locale translation = some d := by
  rw [deviates_iff, translationError?]
  cases hs : sourceMessage? sources translation.name with
  | none => exact .inl ⟨by simp, rfl⟩
  | some source =>
    by_cases hp : source.contents.payloads.Perm translation.contents.payloads
    · exact .inl ⟨by simpa using hp, placeholderMismatch?_eq_none_iff.2 hp⟩
    · refine .inr ⟨_, ⟨source, rfl, hp⟩, ⟨source, _, _, sourceMessage?_eq_some_iff.1 hs,
        isDifference_iff.2 ⟨rfl, rfl⟩, rfl⟩, ?_⟩
      rw [← List.isPerm_iff] at hp
      exact if_neg hp

theorem translationError?_eq_none_iff : translationError? sources locale translation = none ↔
    ¬Deviates sources translation := by
  rcases cases_of_translationError? sources locale translation with ⟨hd, he⟩ | ⟨d, hd, -, he⟩
  · simp [hd, he]
  · simp [hd, he]

/-- The findings of some translations are those of the ones that deviate. -/
theorem forall₂_errors (sources : List ProgramMessage) (locale : String)
    (translations : List Message) :
    List.Forall₂ (IsMismatch sources locale) (translations.filter (Deviates sources ·))
      (translations.filterMap (translationError? sources locale)) := by
  induction translations with
  | nil => exact .nil
  | cons translation translations ih =>
    rcases cases_of_translationError? sources locale translation with
      ⟨hd, he⟩ | ⟨d, hd, hm, he⟩
    · rw [List.filter_cons_of_neg (by simpa using hd), List.filterMap_cons_none he]
      exact ih
    · rw [List.filter_cons_of_pos (by simpa using hd), List.filterMap_cons_some he]
      exact .cons hm ih

theorem warnings_eq (translations : List Message) :
    translations.filterMap (translationWarning? sources locale) =
      (translations.filter (LacksSource sources ·)).map
        (Diagnostic.translationUnknownId locale ·.name) := by
  induction translations with
  | nil => rfl
  | cons translation translations ih =>
    rw [List.filterMap_cons, List.filter_cons, ih, translationWarning?]
    cases hs : sourceMessage? sources translation.name with
    | none => simp [sourceMessage?_eq_none_iff.1 hs]
    | some source =>
      have hl : ¬LacksSource sources translation := by simp [← sourceMessage?_eq_none_iff, hs]
      simp [hl]

/-! ### Refusals -/

theorem errors_eq_nil_iff : (validate sources bundle).errors = [] ↔
    ∀ translation ∈ bundle.messages, ¬Deviates sources translation := by
  simp only [validate, List.filterMap_eq_nil_iff, translationError?_eq_none_iff]

/-- A bundle is refused with its first error, about the first translation that deviates. -/
theorem shapeFailure?_eq_some_iff : shapeFailure? sources bundle = some f ↔
    ∃ translation d, IsFirst (Deviates sources) bundle.messages translation ∧
      (validate sources bundle).errors.head? = some d ∧
        f = .shape d bundle.locale translation.name := by
  have he (t : Message) : Deviates sources t ↔
      (translationError? sources bundle.locale t).isSome := by
    rw [Option.isSome_iff_ne_none, ne_eq, translationError?_eq_none_iff, Decidable.not_not]
  have hs (t : Message) : Deviates sources t ↔ ((translationError? sources bundle.locale t).map
      fun d => Failure.shape d bundle.locale t.name).isSome := by
    rw [Option.isSome_map, he]
  rw [shapeFailure?, findSome?_eq_some_iff_isFirst hs]
  refine exists_congr fun translation => ?_
  simp only [exists_and_left]
  refine and_congr_right fun hf => ?_
  rw [validate, List.head?_filterMap, hf.findSome?_eq he, Option.map_eq_some_iff]
  exact exists_congr fun d => and_congr_right' eq_comm

theorem shapeFailure?_eq_none_iff : shapeFailure? sources bundle = none ↔
    (validate sources bundle).errors = [] := by
  simp only [shapeFailure?, List.findSome?_eq_none_iff, Option.map_eq_none_iff,
    translationError?_eq_none_iff, errors_eq_nil_iff]

theorem ensureAllValid_eq : ensureAllValid sources bundles =
    match bundles.findSome? (shapeFailure? sources) with
    | some f => .error f
    | none => .ok () := by
  induction bundles with
  | nil => rfl
  | cons bundle bundles ih =>
    change (ensureValid sources bundle >>= fun _ => ensureAllValid sources bundles) = _
    rw [List.findSome?_cons, ensureValid]
    cases shapeFailure? sources bundle with
    | some f => rfl
    | none => exact ih

/-- **Both ways of validating agree, and differences are exact.** Bundles are refused just where
some bundle has errors, with the first error of the first such bundle, about its first translation
that deviates. The errors of a bundle are the mismatches of its translations that deviate, one each
in their order, and its warnings name those without a source. -/
theorem validate_compares (sources : List ProgramMessage) (bundles : List Bundle) :
    (ensureAllValid sources bundles = .ok () ↔
      ∀ bundle ∈ bundles, (validate sources bundle).errors = []) ∧
    (∀ f, ensureAllValid sources bundles = .error f ↔
      ∃ bundle translation d, IsFirst (fun b => (validate sources b).errors ≠ []) bundles bundle ∧
        IsFirst (Deviates sources) bundle.messages translation ∧
        (validate sources bundle).errors.head? = some d ∧
        f = .shape d bundle.locale translation.name) ∧
    (∀ bundle : Bundle,
      List.Forall₂ (IsMismatch sources bundle.locale)
        (bundle.messages.filter (Deviates sources ·)) (validate sources bundle).errors ∧
      (validate sources bundle).warnings = (bundle.messages.filter (LacksSource sources ·)).map
        (Diagnostic.translationUnknownId bundle.locale ·.name)) := by
  have hs (bundle : Bundle) : (validate sources bundle).errors ≠ [] ↔
      (shapeFailure? sources bundle).isSome := by
    rw [Option.isSome_iff_ne_none, ne_eq, ne_eq, shapeFailure?_eq_none_iff]
  refine ⟨?_, fun f => ?_, fun bundle => ⟨forall₂_errors .., warnings_eq ..⟩⟩
  · rw [ensureAllValid_eq]
    simp only [← shapeFailure?_eq_none_iff, ← List.findSome?_eq_none_iff]
    cases bundles.findSome? (shapeFailure? sources) <;> simp
  · have hf : ensureAllValid sources bundles = .error f ↔
        bundles.findSome? (shapeFailure? sources) = some f := by
      rw [ensureAllValid_eq]
      cases bundles.findSome? (shapeFailure? sources) <;> simp
    rw [hf, findSome?_eq_some_iff_isFirst hs]
    simp only [shapeFailure?_eq_some_iff, exists_and_left]

end Polyglot
