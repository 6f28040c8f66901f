import Polyglot.Locale.CodesModule
import Polyglot.Proofs.Locale.Grammar
import Polyglot.Proofs.Text.Sorted

/-!
# What the module of locale codes says

The module is read back by two readers that know how such modules are written: `exportedText?` takes
the text and `exportedList?` the entries that are exported under a name. For locale codes they take
the source locale, and as ascending lists the target locales and all locales. So the text says which
locales there are, and nothing else: `codesModule_tells_locales`.
-/

namespace Polyglot.Locale

/-! ### Readers -/

/-- What stands behind the first place of a mark in a text. -/
def behind? (mark : List Char) : List Char → Option (List Char)
  | [] => none
  | c :: rest =>
    if mark <+: c :: rest then some ((c :: rest).drop mark.length) else behind? mark rest

/-- The texts between backticks up to a closing bracket. What stands behind an open backtick is
given from its end. -/
def literals : Option (List Char) → List Char → List String
  | _, [] => []
  | none, c :: rest =>
    if c = ']' then [] else literals (if c = '\x60' then some [] else none) rest
  | some code, c :: rest =>
    if c = '\x60' then String.ofList code.reverse :: literals none rest
    else literals (some (c :: code)) rest

/-- What a module writes in front of the value that it exports under a name. -/
def exporting (name : String) : List Char :=
  ("export const " ++ name ++ " = ").toList

/-- The text that a module exports under a name. -/
def exportedText? (name text : String) : Option String :=
  (behind? (exporting name ++ ['\x60']) text.toList).map fun value =>
    String.ofList (value.takeWhile (· != '\x60'))

/-- The entries of the list that a module exports under a name. -/
def exportedList? (name text : String) : Option (List String) :=
  (behind? (exporting name ++ ['[']) text.toList).map (literals none)

/-! ### Searching -/

section Search

variable {stem front rest : List Char} {last : Char}

theorem prefix_append_iff (rest : List Char) (hs : last ∉ stem) (hf : last ∉ front) :
    stem ++ [last] <+: front ++ last :: rest ↔ front = stem := by
  constructor
  · rintro ⟨later, h⟩
    rw [List.append_assoc, List.append_eq_append_iff] at h
    -- whichever is longer would hold the mark's last character
    rcases h with ⟨more, rfl, h⟩ | ⟨more, rfl, h⟩
    · cases more with
      | nil => exact List.append_nil stem
      | cons c more =>
        obtain ⟨rfl, -⟩ := List.cons.inj h
        exact absurd (by simp) hf
    · cases more with
      | nil => exact (List.append_nil front).symm
      | cons c more =>
        obtain ⟨rfl, -⟩ := List.cons.inj h
        exact absurd (by simp) hs
  · rintro rfl
    exact ⟨rest, by simp⟩

/-- A mark is looked for at the first place of its last character, and else behind that. -/
theorem behind?_append (hs : last ∉ stem) (hf : last ∉ front) :
    behind? (stem ++ [last]) (front ++ last :: rest) =
      if stem <:+ front then some rest else behind? (stem ++ [last]) rest := by
  induction front with
  | nil =>
    have hp := prefix_append_iff rest hs hf
    simp only [List.nil_append] at hp ⊢
    simp only [behind?, hp, List.suffix_nil, eq_comm (a := stem)]
    split_ifs with h
    · simp [← h]
    · rfl
  | cons c front ih =>
    have hp := prefix_append_iff rest hs hf
    rw [List.cons_append] at hp ⊢
    rw [behind?, ih fun h => hf (List.mem_cons_of_mem c h)]
    simp only [hp, List.suffix_cons_iff, eq_comm (a := stem)]
    by_cases h : c :: front = stem
    · rw [if_pos h, if_pos (.inl h), ← h]
      simp
    · simp only [h, if_false, false_or]

end Search

/-! ### Lists of codes -/

section Lists

variable {code front rest : List Char} {codes : List String}

theorem literals_append (h : ∀ c ∈ front, c ≠ '\x60' ∧ c ≠ ']') :
    literals none (front ++ rest) = literals none rest := by
  induction front with
  | nil => rfl
  | cons c front ih =>
    rw [List.forall_mem_cons] at h
    rw [List.cons_append, literals, if_neg h.1.2, if_neg h.1.1, ih h.2]

theorem literals_code (rest held : List Char) (h : '\x60' ∉ code) :
    literals (some held) (code ++ '\x60' :: rest) =
      String.ofList (held.reverse ++ code) :: literals none rest := by
  induction code generalizing held with
  | nil => simp [literals]
  | cons c code ih =>
    rw [List.mem_cons, not_or] at h
    rw [List.cons_append, literals, if_neg (Ne.symm h.1), ih _ h.2]
    simp

/-- The lines of some codes, up to the end of their list. -/
def lines (codes : List String) : List Char :=
  '\n' :: (codes.flatMap fun code => [' ', ' '] ++ (literal code).toList ++ [',', '\n']) ++
    "] as const;\n".toList

theorem literals_lines_of_not_mem (h : ∀ code ∈ codes, '\x60' ∉ code.toList) :
    literals none (lines codes ++ rest) = codes := by
  have hlines : literals none ((codes.flatMap fun code =>
      [' ', ' '] ++ (literal code).toList ++ [',', '\n']) ++ ("] as const;\n".toList ++ rest)) =
      codes := by
    induction codes with
    | nil => simp [literals]
    | cons code codes ih =>
      rw [List.forall_mem_cons] at h
      have hread := literals_code ([',', '\n'] ++ ((codes.flatMap fun code =>
        [' ', ' '] ++ (literal code).toList ++ [',', '\n']) ++ ("] as const;\n".toList ++ rest)))
        [] h.1
      rw [literals_append (by simp), ih h.2] at hread
      rw [List.flatMap_cons, List.append_assoc, List.append_assoc, List.append_assoc,
        literals_append (by simp)]
      simpa [literal, literals] using hread
  rw [lines, List.cons_append, List.cons_append, literals, List.append_assoc]
  exact hlines

theorem toList_declareList (name comment : String) (codes : List String) :
    (declareList name comment codes).toList =
      ("/**\n * " ++ comment ++ "\n */\n").toList ++ exporting name ++ '[' :: lines codes := by
  simp [declareList, exporting, lines, String.toList_join, List.flatMap_map]

end Lists

/-! ### Codes -/

variable {code source other : String} {codes targets others : List String}

theorem not_mem_of_isCode (h : isCode code) {c : Char} (hc : ¬IsCodeChar c) (hn : c ≠ '\n') :
    c ∉ code.toList := by
  obtain ⟨front, hg, rfl | rfl⟩ := isCode_iff.1 h
  · exact fun hm => hc (hg.isCodeChar c hm)
  · rw [String.toList_append, List.mem_append, not_or]
    exact ⟨fun hm => hc (hg.isCodeChar c hm), by simpa using hn⟩

theorem backtick_not_mem_of_isCode (h : isCode code) : '\x60' ∉ code.toList :=
  not_mem_of_isCode h (by decide) (by decide)

theorem bracket_not_mem_of_isCode (h : isCode code) : '[' ∉ code.toList :=
  not_mem_of_isCode h (by decide) (by decide)

theorem literals_lines (h : ∀ code ∈ codes, isCode code) {back : List Char} :
    literals none (lines codes ++ back) = codes :=
  literals_lines_of_not_mem fun code hm => backtick_not_mem_of_isCode (h code hm)

theorem bracket_not_mem_lines (h : ∀ code ∈ codes, isCode code) : '[' ∉ lines codes := by
  simpa [lines, literal] using fun code hm => bracket_not_mem_of_isCode (h code hm)

/-- A list is looked for at the first list of a module, and else behind its opening bracket. -/
theorem behind?_declareList {name next comment : String} {front back : List Char}
    (hf : '[' ∉ front) (hc : '[' ∉ comment.toList) (hn : '[' ∉ exporting name)
    (hx : '[' ∉ exporting next) :
    behind? (exporting name ++ ['['])
        (front ++ ((declareList next comment codes).toList ++ back)) =
      if exporting name <:+ front ++ ("/**\n * " ++ comment ++ "\n */\n").toList ++ exporting next
      then some (lines codes ++ back)
      else behind? (exporting name ++ ['[']) (lines codes ++ back) := by
  rw [← behind?_append hn, toList_declareList]
  · simp only [List.append_assoc, List.cons_append]
  · simp only [String.toList_append, List.mem_append, not_or]
    exact ⟨⟨hf, ⟨by decide, hc⟩, by decide⟩, hx⟩

/-! ### The module -/

/-- A literal is compared with its characters, since to compute these takes long. -/
theorem forall_mem_toList {good : Char → Prop} [DecidablePred good] {text : String}
    {chars : List Char} (h : text = String.ofList chars) (hc : chars.all fun c => good c) :
    ∀ c ∈ text.toList, good c := by
  rw [h, String.toList_ofList]
  simpa using hc

/-- How the module goes on from text to list to list. -/
theorem codesModule_eq (source : String) (targets : List String) :
    ∃ front about all : String,
      (∀ c ∈ front.toList, c ≠ '\x60' ∧ c ≠ '[') ∧ exporting "sourceLocale" <:+ front.toList ∧
      (∀ c ∈ about.toList, c ≠ '[') ∧ (∀ c ∈ all.toList, c ≠ '[') ∧
      codesModule source targets = front ++ literal source ++ ";\n\n" ++
        declareList "targetLocales" about (Text.sortedSet targets) ++ "\n" ++
        declareList "allLocales" all (Text.sortedSet (source :: targets)) := by
  refine ⟨_, _, _, ?_, ?_, ?_, forall_mem_toList rfl (by decide +kernel), rfl⟩
  · simp only [String.toList_append, List.forall_mem_append]
    exact ⟨⟨⟨forall_mem_toList rfl (by decide +kernel), forall_mem_toList rfl (by decide +kernel)⟩,
      forall_mem_toList rfl (by decide +kernel)⟩, forall_mem_toList rfl (by decide +kernel)⟩
  · rw [String.toList_append]
    exact ⟨_, congrArg _ (by decide +kernel)⟩
  · rw [String.toList_append, List.forall_mem_append]
    exact ⟨forall_mem_toList rfl (by decide +kernel), forall_mem_toList rfl (by decide +kernel)⟩

theorem exportedText?_codesModule (targets : List String) (h : '\x60' ∉ source.toList) :
    exportedText? "sourceLocale" (codesModule source targets) = some source := by
  obtain ⟨front, about, all, hfront, hsource, -, -, heq⟩ := codesModule_eq source targets
  have htext : (codesModule source targets).toList = front.toList ++ '\x60' ::
      (source.toList ++ '\x60' :: (";\n\n" ++
        declareList "targetLocales" about (Text.sortedSet targets) ++ "\n" ++
        declareList "allLocales" all (Text.sortedSet (source :: targets))).toList) := by
    simp [heq, literal]
  have hmark : '\x60' ∉ front.toList := fun hc => (hfront _ hc).1 rfl
  have hvalue : ∀ c ∈ source.toList, (c != '\x60') = true :=
    fun c hc => bne_iff_ne.2 fun he => h (he ▸ hc)
  rw [exportedText?, htext, behind?_append (by decide +kernel) hmark, if_pos hsource,
    Option.map_some, List.takeWhile_append_of_pos hvalue, List.takeWhile_cons_of_neg (by simp),
    List.append_nil, String.ofList_toList]

theorem exportedList?_codesModule (h : ∀ code ∈ source :: targets, isCode code) :
    exportedList? "targetLocales" (codesModule source targets) =
        some (Text.sortedSet targets) ∧
      exportedList? "allLocales" (codesModule source targets) =
        some (Text.sortedSet (source :: targets)) := by
  obtain ⟨front, about, all, hfront, -, habout, hall, heq⟩ := codesModule_eq source targets
  have htargets : ∀ code ∈ Text.sortedSet targets, isCode code :=
    fun code hm => h code (List.mem_cons_of_mem source (Text.mem_sortedSet.1 hm))
  have hlocales : ∀ code ∈ Text.sortedSet (source :: targets), isCode code :=
    fun code hm => h code (Text.mem_sortedSet.1 hm)
  have hbracket := bracket_not_mem_of_isCode (h source List.mem_cons_self)
  -- there is no opening bracket up to the first list, nor between the two
  have hbefore : '[' ∉ (front ++ literal source ++ ";\n\n").toList := by
    simpa [literal] using ⟨fun hc => (hfront _ hc).2 rfl, hbracket⟩
  have hbetween : '[' ∉ lines (Text.sortedSet targets) ++ ['\n'] := by
    simpa using bracket_not_mem_lines htargets
  have htext : (codesModule source targets).toList =
      (front ++ literal source ++ ";\n\n").toList ++
        ((declareList "targetLocales" about (Text.sortedSet targets)).toList ++ ('\n' ::
          ((declareList "allLocales" all (Text.sortedSet (source :: targets))).toList ++ []))) := by
    simp [heq]
  have hskip (front : List Char) :
      ¬exporting "allLocales" <:+ front ++ exporting "targetLocales" := fun hs =>
    absurd (List.suffix_of_suffix_length_le hs (List.suffix_append front _) (by decide +kernel))
      (by decide +kernel)
  constructor
  · rw [exportedList?, htext, behind?_declareList hbefore (fun hc => habout _ hc rfl)
      (by decide +kernel) (by decide +kernel), if_pos (List.suffix_append _ _), Option.map_some,
      literals_lines htargets]
  · rw [exportedList?, htext, behind?_declareList hbefore (fun hc => habout _ hc rfl)
      (by decide +kernel) (by decide +kernel), if_neg (hskip _), List.append_cons (lines _),
      behind?_declareList hbetween (fun hc => hall _ hc rfl) (by decide +kernel)
      (by decide +kernel), if_pos (List.suffix_append _ _), Option.map_some,
      literals_lines hlocales]

/-- Some entries are those that are asked for, each once, in the order of their code points. -/
def IsListing (wanted : String → Prop) (entries : List String) : Prop :=
  entries.Pairwise (· < ·) ∧ ∀ code, code ∈ entries ↔ wanted code

theorem isListing_sortedSet (codes : List String) :
    IsListing (· ∈ codes) (Text.sortedSet codes) :=
  ⟨Text.pairwise_sortedSet, fun _ => Text.mem_sortedSet⟩

/-- Neither the order of target locales nor their repetitions matter. -/
theorem codesModule_congr (source : String) (h : ∀ code, code ∈ targets ↔ code ∈ others) :
    codesModule source targets = codesModule source others := by
  have hall : ∀ code, code ∈ source :: targets ↔ code ∈ source :: others := by simp [h]
  have htargets := Text.sortedSet_eq_iff.2 h
  have hlocales := Text.sortedSet_eq_iff.2 hall
  unfold codesModule
  rw [htargets, hlocales]

/-- **The module says which locales there are.** Its text depends on the source locale and on which
target locales there are, not on their order or on repetitions. For locale codes it exports the
source locale, a strictly ascending list of the target locales and one of all locales; so two texts
are the same only for the same source locale and the same target locales. -/
theorem codesModule_tells_locales :
    (∀ (source : String) (targets others : List String),
      (∀ code, code ∈ targets ↔ code ∈ others) →
        codesModule source targets = codesModule source others) ∧
    (∀ (source : String) (targets : List String), (∀ code ∈ source :: targets, isCode code) →
      exportedText? "sourceLocale" (codesModule source targets) = some source ∧
      (∃ entries, exportedList? "targetLocales" (codesModule source targets) = some entries ∧
        IsListing (· ∈ targets) entries) ∧
      ∃ entries, exportedList? "allLocales" (codesModule source targets) = some entries ∧
        IsListing (fun code => code = source ∨ code ∈ targets) entries) ∧
    ∀ (source other : String) (targets others : List String),
      (∀ code ∈ source :: targets, isCode code) → (∀ code ∈ other :: others, isCode code) →
        codesModule source targets = codesModule other others →
          source = other ∧ ∀ code, code ∈ targets ↔ code ∈ others := by
  refine ⟨fun source targets others h => ?_, fun source targets h => ?_,
    fun source other targets others hs ho h => ?_⟩
  · exact codesModule_congr source h
  · obtain ⟨htargets, hall⟩ := exportedList?_codesModule h
    have hsource := exportedText?_codesModule targets
      (backtick_not_mem_of_isCode (h source List.mem_cons_self))
    refine ⟨hsource, ⟨_, htargets, isListing_sortedSet targets⟩, _, hall, ?_⟩
    simpa using isListing_sortedSet (source :: targets)
  · have hsource := exportedText?_codesModule targets
      (backtick_not_mem_of_isCode (hs source List.mem_cons_self))
    have hother := exportedText?_codesModule others
      (backtick_not_mem_of_isCode (ho other List.mem_cons_self))
    have htargets := (exportedList?_codesModule hs).1
    have hothers := (exportedList?_codesModule ho).1
    rw [h] at hsource htargets
    exact ⟨Option.some.inj (hsource.symm.trans hother),
      Text.sortedSet_eq_iff.1 (Option.some.inj (htargets.symm.trans hothers))⟩

/-- Two orders of two target locales, one of them named twice. -/
theorem codesModule_tells_locales_reordered :
    codesModule "en" ["es-419", "de", "es-419"] = codesModule "en" ["de", "es-419"] ∧
      (∃ entries, exportedList? "allLocales" (codesModule "en" ["es-419", "de", "es-419"]) =
        some entries ∧ IsListing (fun code => code = "en" ∨ code ∈ ["es-419", "de", "es-419"])
          entries) ∧
      codesModule "en" ["de"] ≠ codesModule "en" ["DE"] := by
  obtain ⟨hsame, hread, heq⟩ := codesModule_tells_locales
  refine ⟨hsame _ _ _ (by simp [or_comm]), (hread _ _ (by decide +kernel)).2.2,
    fun h => ?_⟩
  have hcodes := (heq _ _ _ _ (by decide +kernel) (by decide +kernel) h).2 "de"
  exact absurd hcodes (by decide)

end Polyglot.Locale
