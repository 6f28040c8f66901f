import Polyglot.Project.Config
import Polyglot.Proofs.Files.Path

/-!
# The grammar of locale codes

A locale code is two or three letters and then groups, each a hyphen or an underscore and one to
eight letters or digits, all of ASCII. Accepted are these codes and besides them the same with one
line feed at the end: `accepts_iff`. So an accepted text is always one name in a path, but only
without a line feed at its end is it made of letters, digits, hyphens and underscores alone.
-/

namespace Polyglot.Locale

/-- A letter of ASCII. -/
def IsLetter (c : Char) : Prop :=
  'a' ≤ c ∧ c ≤ 'z' ∨ 'A' ≤ c ∧ c ≤ 'Z'

/-- A letter or a digit of ASCII. -/
def IsLetterOrDigit (c : Char) : Prop :=
  IsLetter c ∨ '0' ≤ c ∧ c ≤ '9'

/-- A character that codes are made of. -/
def IsCodeChar (c : Char) : Prop :=
  IsLetterOrDigit c ∨ c = '-' ∨ c = '_'

instance (c : Char) : Decidable (IsLetter c) :=
  inferInstanceAs (Decidable (_ ∨ _))

instance (c : Char) : Decidable (IsLetterOrDigit c) :=
  inferInstanceAs (Decidable (_ ∨ _))

instance (c : Char) : Decidable (IsCodeChar c) :=
  inferInstanceAs (Decidable (_ ∨ _))

/-- Any number of groups, each a hyphen or an underscore and one to eight letters or digits. -/
inductive AreGroups : List Char → Prop
  | nil : AreGroups []
  | cons {separator : Char} {subtag rest : List Char} (hs : separator = '-' ∨ separator = '_')
      (hl : 1 ≤ subtag.length ∧ subtag.length ≤ 8) (hc : ∀ c ∈ subtag, IsLetterOrDigit c)
      (hr : AreGroups rest) : AreGroups (separator :: (subtag ++ rest))

/-- The text is two or three letters and then groups. -/
def IsGrammatical (text : String) : Prop :=
  ∃ language groups, text.toList = language ++ groups ∧
    (language.length = 2 ∨ language.length = 3) ∧ (∀ c ∈ language, IsLetter c) ∧ AreGroups groups

/-! ### Characters -/

variable {c : Char} {part : List Char}

theorem isAlpha_iff : c.isAlpha ↔ IsLetter c := by
  have hupper : c.isUpper ↔ 'A' ≤ c ∧ c ≤ 'Z' := decide_eq_true_iff
  have hlower : c.isLower ↔ 'a' ≤ c ∧ c ≤ 'z' :=
    Bool.and_eq_true_iff.trans (and_congr decide_eq_true_iff decide_eq_true_iff)
  exact Bool.or_eq_true_iff.trans ((or_congr hupper hlower).trans or_comm)

theorem isAlphanum_iff : c.isAlphanum ↔ IsLetterOrDigit c := by
  have hdigit : c.isDigit ↔ '0' ≤ c ∧ c ≤ '9' :=
    Bool.and_eq_true_iff.trans (and_congr decide_eq_true_iff decide_eq_true_iff)
  exact Bool.or_eq_true_iff.trans (or_congr isAlpha_iff hdigit)

theorem isSeparator_iff : isSeparator c ↔ c = '-' ∨ c = '_' := by
  simp [isSeparator]

theorem isLanguage_iff :
    isLanguage part ↔ (part.length = 2 ∨ part.length = 3) ∧ ∀ c ∈ part, IsLetter c := by
  simp [isLanguage, ← isAlpha_iff]

theorem isSubtag_iff :
    isSubtag part ↔ (1 ≤ part.length ∧ part.length ≤ 8) ∧ ∀ c ∈ part, IsLetterOrDigit c := by
  simp [isSubtag, ← isAlphanum_iff]

theorem not_isSeparator (h : IsLetterOrDigit c) : isSeparator c = false := by
  refine Bool.eq_false_iff.2 fun hs => ?_
  rcases isSeparator_iff.1 hs with rfl | rfl
  · exact absurd h (by decide)
  · exact absurd h (by decide)

/-! ### Groups -/

theorem AreGroups.isCodeChar {groups : List Char} (h : AreGroups groups) :
    ∀ c ∈ groups, IsCodeChar c := by
  induction h with
  | nil => exact nofun
  | cons hs _ hc _ ih =>
    rw [List.forall_mem_cons, List.forall_mem_append]
    exact ⟨.inr hs, fun c h => .inl (hc c h), ih⟩

theorem IsGrammatical.isCodeChar {text : String} (h : IsGrammatical text) :
    ∀ c ∈ text.toList, IsCodeChar c := by
  obtain ⟨language, groups, ht, -, hl, hg⟩ := h
  rw [ht, List.forall_mem_append]
  exact ⟨fun c h => .inl (.inl (hl c h)), hg.isCodeChar⟩

/-- Groups behind a part without separators are split into it and their subtags. -/
theorem AreGroups.splitOnP {groups : List Char} (h : AreGroups groups) {first : List Char}
    (hf : ∀ c ∈ first, isSeparator c = false) :
    ∃ subtags, (first ++ groups).splitOnP isSeparator = first :: subtags ∧
      ∀ subtag ∈ subtags, isSubtag subtag := by
  induction h generalizing first with
  | nil => exact ⟨[], by rw [List.append_nil, List.splitOnP_eq_singleton hf], nofun⟩
  | @cons separator subtag rest hs hl hc _ ih =>
    obtain ⟨subtags, hsplit, hall⟩ := ih fun c h => not_isSeparator (hc c h)
    refine ⟨subtag :: subtags, ?_, List.forall_mem_cons.2 ⟨isSubtag_iff.2 ⟨hl, hc⟩, hall⟩⟩
    rw [List.splitOnP_append_cons _ _ (isSeparator_iff.2 hs), List.splitOnP_eq_singleton hf, hsplit]
    rfl

/-- What is split into a part and subtags is that part and groups. -/
theorem exists_areGroups {text first : List Char} {subtags : List (List Char)}
    (h : text.splitOnP isSeparator = first :: subtags) (hs : ∀ subtag ∈ subtags, isSubtag subtag) :
    ∃ groups, text = first ++ groups ∧ AreGroups groups := by
  induction text generalizing first subtags with
  | nil =>
    obtain ⟨rfl, -⟩ := List.cons.inj h
    exact ⟨[], rfl, .nil⟩
  | cons c text ih =>
    obtain ⟨next, others, hnext⟩ :=
      List.exists_cons_of_ne_nil (List.splitOnP_ne_nil isSeparator text)
    rw [List.splitOnP_cons_eq_if_modifyHead, hnext] at h
    split at h
    · next hc =>
      obtain ⟨rfl, rfl⟩ := List.cons.inj h
      rw [List.forall_mem_cons] at hs
      obtain ⟨groups, rfl, hg⟩ := ih hnext hs.2
      obtain ⟨hl, hchars⟩ := isSubtag_iff.1 hs.1
      exact ⟨c :: (next ++ groups), rfl, .cons (isSeparator_iff.1 hc) hl hchars hg⟩
    · obtain ⟨rfl, rfl⟩ := List.cons.inj h
      obtain ⟨groups, rfl, hg⟩ := ih hnext hs
      exact ⟨groups, rfl, hg⟩

theorem areParts_splitOnP_iff (text : List Char) :
    areParts (text.splitOnP isSeparator) ↔ IsGrammatical (String.ofList text) := by
  rw [IsGrammatical, String.toList_ofList]
  constructor
  · intro h
    obtain ⟨language, subtags, hsplit⟩ :=
      List.exists_cons_of_ne_nil (List.splitOnP_ne_nil isSeparator text)
    rw [hsplit, areParts, Bool.and_eq_true, List.all_eq_true, isLanguage_iff] at h
    obtain ⟨groups, ht, hg⟩ := exists_areGroups hsplit h.2
    exact ⟨language, groups, ht, h.1.1, h.1.2, hg⟩
  · rintro ⟨language, groups, rfl, hl, hc, hg⟩
    obtain ⟨subtags, hsplit, hall⟩ := hg.splitOnP fun c h => not_isSeparator (.inl (hc c h))
    rw [hsplit, areParts, Bool.and_eq_true, List.all_eq_true, isLanguage_iff]
    exact ⟨⟨hl, hc⟩, hall⟩

/-! ### Accepted texts -/

/-- A text with or without a line feed at its end is accepted for what stands before that. -/
theorem isCode_iff {text : String} :
    isCode text ↔ ∃ code, IsGrammatical code ∧ (text = code ∨ text = code ++ "\n") := by
  rw [isCode, areParts_splitOnP_iff]
  constructor
  · intro h
    refine ⟨_, h, ?_⟩
    unfold dropFinalNewline
    split
    · next hlast =>
      obtain ⟨front, hf⟩ := List.getLast?_eq_some_iff.1 hlast
      refine .inr (String.toList_injective ?_)
      simp [hf]
    · exact .inl (String.ofList_toList).symm
  · rintro ⟨code, hg, rfl | rfl⟩
    · have hlast : text.toList.getLast? ≠ some '\n' := fun hl =>
        absurd (hg.isCodeChar '\n' (List.mem_of_getLast? hl)) (by decide)
      rwa [dropFinalNewline, if_neg hlast, String.ofList_toList]
    · simpa [dropFinalNewline] using hg

/-- The text is one name in a path and, save for a line feed at its end, made of letters, digits,
hyphens and underscores. -/
structure IsSafeName (text : String) : Prop where
  isCodeChar : ∀ c ∈ dropFinalNewline text.toList, IsCodeChar c
  parse : Files.Path.parse text = ⟨.here, [text]⟩
  ne_parent : text ≠ ".."

theorem IsGrammatical.exists_cons {text : String} (h : IsGrammatical text) :
    ∃ c rest, text.toList = c :: rest ∧ IsLetter c := by
  obtain ⟨language, groups, ht, hl, hc, -⟩ := h
  cases language with
  | nil => simp at hl
  | cons c language => exact ⟨c, language ++ groups, ht, hc c List.mem_cons_self⟩

theorem isSafeName_of_isCode {text : String} (h : isCode text) : IsSafeName text := by
  have hdropped : ∀ c ∈ dropFinalNewline text.toList, IsCodeChar c := by
    rw [isCode, areParts_splitOnP_iff] at h
    simpa using h.isCodeChar
  obtain ⟨c, rest, ht, hc⟩ : ∃ c rest, text.toList = c :: rest ∧ IsLetter c := by
    obtain ⟨code, hg, rfl | rfl⟩ := isCode_iff.1 h
    · exact hg.exists_cons
    · obtain ⟨c, rest, ht, hc⟩ := hg.exists_cons
      exact ⟨c, rest ++ ['\n'], by simp [ht], hc⟩
  have hdot : c ≠ '.' := by
    rintro rfl
    exact absurd hc (by decide)
  have hslash : '/' ∉ text.toList := by
    intro hm
    have hmem : '/' ∈ dropFinalNewline text.toList := by
      unfold dropFinalNewline
      split
      · next hlast =>
        obtain ⟨front, hf⟩ := List.getLast?_eq_some_iff.1 hlast
        rw [hf] at hm ⊢
        simpa using hm
      · exact hm
    exact absurd (hdropped '/' hmem) (by decide)
  refine ⟨hdropped, Files.Path.parse_of_isName hslash ?_, ?_⟩
  · simp [Files.Path.isName, ht, hdot]
  · rintro rfl
    exact hdot (List.cons.inj ht).1.symm

/-- **What is accepted as a locale code.** A text is accepted just where it is a code by the grammar
or one with a line feed behind it. Checking a text answers just the accepted texts, unchanged. What
is accepted, and so every locale of a configuration, is one name in a path and made of letters,
digits, hyphens and underscores, save for that line feed. -/
theorem accepts_iff (text : String) :
    (isCode text ↔ ∃ code, IsGrammatical code ∧ (text = code ∨ text = code ++ "\n")) ∧
    (∀ code, check text = .ok code ↔ isCode text ∧ code = text) ∧
    (isCode text → IsSafeName text) ∧
    ∀ config : Config, text ∈ config.allLocales → IsSafeName text :=
  ⟨isCode_iff, fun _ => check_eq_ok_iff, isSafeName_of_isCode,
    fun config h => isSafeName_of_isCode (config.isCode_of_mem text h)⟩

/-- Accepted is also a text that is no code by the grammar, since it ends in a line feed. -/
theorem not_forall_isCode_iff : ¬∀ text, isCode text ↔ IsGrammatical text := by
  intro h
  have hg : IsGrammatical "en\n" := (h "en\n").1 (by decide +kernel)
  exact absurd (hg.isCodeChar '\n' (by decide +kernel)) (by decide)

end Polyglot.Locale
