import Polyglot.Proofs.Source.TemplateText

/-!
# Bodies side by side

A body that reads by itself reads the same in front of another one, unless something at its end
needs what follows: a dollar sign in front of a brace opens a slot, and an escaped carriage return
takes a line feed along. What an escape or a slot stands for depends neither on what follows it nor
on where it stands.
-/

namespace Polyglot.Source

/-- The expressions in the slots of a template, in order. -/
def Template.expressions (template : Template) : List Node :=
  template.spans.map Span.expression

namespace TemplateText

variable {offset skip : Nat} {c : Char} {text rest : List Char} {pieces : List Token}

/-! ### Escapes -/

theorem hexRun_append {c : Char} (hc : text[(hexRun text).length]? = some c) (rest : List Char) :
    hexRun (text ++ rest) = hexRun text := by
  have hl : (hexRun text).length < text.length := (List.getElem?_eq_some_iff.1 hc).1
  unfold hexRun at hl ⊢
  rw [List.takeWhile_append, if_neg (by omega)]

theorem unicodeEscape?_append {number : Nat × Nat} (h : unicodeEscape? text = some number)
    (rest : List Char) : unicodeEscape? (text ++ rest) = some number := by
  fun_cases unicodeEscape? text with
  | case1 inner digits hc =>
    have hb : inner[(hexRun inner).length]? = some '}' := by simp_all [digits]
    have hl := (List.getElem?_eq_some_iff.1 hb).1
    rw [← h, List.cons_append, unicodeEscape?, unicodeEscape?, hexRun_append hb,
      List.getElem?_append_left hl]
  | case2 inner digits hc => simp [unicodeEscape?, digits, hc] at h
  | case3 a b c d later hn =>
    rw [← h]
    simp [unicodeEscape?]
  | case4 => simp [unicodeEscape?] at h

theorem length_le_of_unicodeEscape? {n length : Nat}
    (h : unicodeEscape? text = some (n, length)) : length ≤ text.length := by
  fun_cases unicodeEscape? text with
  | case1 inner digits hc =>
    have hb : inner[(hexRun inner).length]? = some '}' := by simp_all [digits]
    have hl := (List.getElem?_eq_some_iff.1 hb).1
    rw [unicodeEscape?, if_pos hc] at h
    obtain ⟨m, -, hm⟩ := Option.map_eq_some_iff.1 h
    cases hm
    simp
    omega
  | case2 inner digits hc => simp [unicodeEscape?, digits, hc] at h
  | case3 a b c d later hn =>
    rw [unicodeEscape?.eq_2 _ _ _ _ _ hn] at h
    obtain ⟨m, -, hm⟩ := Option.map_eq_some_iff.1 h
    cases hm
    simp
  | case4 => simp [unicodeEscape?] at h

/-- An escape takes no more characters than there are. -/
theorem length_le_of_readEscape {codes : List Nat} {length : Nat}
    (h : readEscape offset text = .ok (codes, length)) : length ≤ text.length := by
  fun_cases readEscape offset text with
  | case8 text n m hu hn =>
    have hl := length_le_of_unicodeEscape? hu
    simp only [readEscape, hu, if_neg hn] at h
    cases h
    simp [hl]
  | _ => simp_all [readEscape] <;> omega

/-- Any other escape is one of a single character. -/
theorem readEscape_cons (hr : c ≠ '\r') (hx : c ≠ 'x') (hu : c ≠ 'u') (later : Nat)
    (rest : List Char) : readEscape offset (c :: text) = readEscape later (c :: rest) := by
  rw [readEscape.eq_6 _ _ _ (fun _ h => absurd h hr) hx hu,
    readEscape.eq_6 _ _ _ (fun _ h => absurd h hr) hx hu]

/-- An escaped carriage return takes a line feed along. -/
theorem readEscape_return (h : text.head? ≠ some '\n') :
    readEscape offset ('\r' :: text) = .ok ([], 1) := by
  have hn (later : List Char) (hl : text = '\n' :: later) : False := h (by simp [hl])
  rw [readEscape.eq_6 _ _ _ (fun later _ hl => hn later hl) (by decide) (by decide)]
  simp [simpleEscape?]

/-- What an escape stands for depends neither on what follows nor on where it stands, unless it is
a carriage return at the end and a line feed follows. -/
theorem readEscape_append {codes : List Nat} {length : Nat}
    (h : readEscape offset text = .ok (codes, length))
    (hr : text = ['\r'] → rest.head? ≠ some '\n') (later : Nat) :
    readEscape later (text ++ rest) = .ok (codes, length) := by
  cases text with
  | nil => cases h
  | cons c text =>
    rw [List.cons_append]
    by_cases hc : c = '\r'
    · subst hc
      by_cases hn : text.head? = some '\n'
      · obtain ⟨text, rfl⟩ := List.head?_eq_some_iff.1 hn
        exact h
      · rw [readEscape_return hn] at h
        rw [readEscape_return, h]
        cases text with
        | nil => exact hr rfl
        | cons d text => exact hn
    by_cases hx : c = 'x'
    · subst hx
      -- an error would name the offset, so only the digits are looked at
      rcases text with _ | ⟨a, _ | ⟨b, text⟩⟩
      · cases h
      · cases h
      · rw [List.cons_append, List.cons_append, readEscape]
        rw [readEscape] at h
        split at h
        · exact h
        · cases h
    by_cases hu : c = 'u'
    · subst hu
      rw [readEscape] at h
      split at h
      · cases h
      · rename_i n m hn
        split_ifs at h with hl
        rw [readEscape, unicodeEscape?_append hn]
        simpa [hl] using h
    rw [← h]
    exact readEscape_cons hc hx hu offset text

/-! ### Pieces -/

/-- A text that takes nothing of the text behind it along: it does not end in a dollar sign where
a brace follows, nor in an escaped carriage return where a line feed follows. -/
structure IsSeparate (text rest : List Char) : Prop where
  slot : text.getLast? = some '$' → rest.head? ≠ some '{'
  line : ['\\', '\r'] <:+ text → rest.head? ≠ some '\n'

instance (text rest : List Char) : Decidable (IsSeparate text rest) :=
  decidable_of_iff ((text.getLast? = some '$' → rest.head? ≠ some '{') ∧
      (['\\', '\r'] <:+ text → rest.head? ≠ some '\n'))
    ⟨fun h => ⟨h.1, h.2⟩, fun h => ⟨h.slot, h.line⟩⟩

theorem IsSeparate.tail (h : IsSeparate (c :: text) rest) : IsSeparate text rest := by
  constructor
  · exact fun hl => h.slot (by simp [List.getLast?_cons, hl])
  · exact fun hl => h.line (hl.trans (List.suffix_cons c text))

/-- Only the beginning of what follows counts. -/
theorem IsSeparate.of_head? {other : List Char} (h : IsSeparate text rest)
    (he : other.head? = rest.head?) : IsSeparate text other :=
  ⟨fun hl => he ▸ h.slot hl, fun hl => he ▸ h.line hl⟩

theorem isSeparate_nil (text : List Char) : IsSeparate text [] :=
  ⟨fun _ => by simp, fun _ => by simp⟩

theorem add_length_cons (offset : Nat) (c : Char) (text : List Char) :
    offset + 1 + text.length = offset + (c :: text).length := by
  rw [List.length_cons]
  omega

/-- **A body reads the same in front of another one**, wherever it stands. -/
theorem tokens_append (h : tokens skip offset text = .ok pieces) (hk : skip ≤ text.length)
    (ht : IsSeparate text rest) (later : Nat) :
    tokens skip later (text ++ rest) =
      (pieces ++ ·) <$> tokens 0 (later + text.length) rest := by
  fun_induction tokens skip offset text generalizing pieces later with
  | case1 =>
    cases h
    obtain rfl := Nat.le_zero.1 hk
    simp
  | case2 offset c text skip ih =>
    rw [List.cons_append, tokens, ih h (Nat.le_of_succ_le_succ hk) ht.tail,
      add_length_cons]
  | case3 offset c text hc ih =>
    obtain rfl := beq_iff_eq.1 hc
    obtain ⟨⟨codes, length⟩, he, h⟩ := bind_eq_ok_iff.1 h
    obtain ⟨after, ha, h⟩ := bind_eq_ok_iff.1 h
    cases h
    have hr (hl : text = ['\r']) : rest.head? ≠ some '\n' :=
      ht.line (hl ▸ List.suffix_rfl)
    rw [List.cons_append, tokens_backslash (readEscape_append he hr later),
      ih length ha (length_le_of_readEscape he) ht.tail, add_length_cons later '\\',
      Functor.map_map]
    simp only [List.append_assoc]
  | case4 offset c text hc hs ih =>
    obtain ⟨hd, hb⟩ := Bool.and_eq_true_iff.1 hs
    obtain rfl := beq_iff_eq.1 hd
    obtain ⟨inside, rfl⟩ := List.head?_eq_some_iff.1 (beq_iff_eq.1 hb)
    obtain ⟨slot, hslot, h⟩ := bind_eq_ok_iff.1 h
    split at h
    · rename_i expression he
      obtain ⟨after, ha, h⟩ := bind_eq_ok_iff.1 h
      cases h
      -- the scanner stops at the same brace, since it stopped inside the text
      obtain ⟨inner, hi, rfl, hp⟩ := closing_eq_ok_iff.1 hslot
      have hc : closing (.slot 0 later) [] (later + 2) (inside ++ rest) = .ok (inner ++ ['}']) :=
        closing_eq_ok_iff.2 ⟨inner, hi, rfl, hp.trans (List.prefix_append inside rest)⟩
      have hl : (inner ++ ['}']).length + 1 ≤ ('{' :: inside).length :=
        Nat.succ_le_succ hp.length_le
      rw [List.cons_append, List.cons_append, tokens_slot hc he, ← List.cons_append,
        ih _ ha hl ht.tail, add_length_cons later '$', Functor.map_map]
      rfl
    · cases h
  | case5 offset c text hc hs ih =>
    obtain ⟨after, ha, h⟩ := bind_eq_ok_iff.1 h
    cases h
    have hb (hd : c = '$') : (text ++ rest).head? ≠ some '{' := by
      cases text with
      | nil => exact ht.slot (by simp [hd])
      | cons d text => simpa [hd] using hs
    rw [List.cons_append, tokens_plain (by simpa using hc) hb, ih ha (Nat.zero_le _) ht.tail,
      add_length_cons later c, Functor.map_map]
    rfl

/-- **Bodies that keep apart read one after the other**: what they read as together is what they
read as by themselves. -/
theorem tokens_flatten {bodies : List (List Char)} {parts : List (List Token)}
    (h : bodies.mapM (tokens 0 0) = .ok parts)
    (hc : (bodies.filter (· ≠ [])).IsChain IsSeparate) (offset : Nat) :
    tokens 0 offset bodies.flatten = .ok parts.flatten := by
  induction bodies generalizing parts offset with
  | nil =>
    cases h
    rfl
  | cons body bodies ih =>
    rw [List.mapM_cons] at h
    obtain ⟨part, hp, h⟩ := bind_eq_ok_iff.1 h
    obtain ⟨later, hl, h⟩ := bind_eq_ok_iff.1 h
    cases h
    by_cases hb : body = []
    · subst hb
      cases hp
      exact ih hl (by simpa using hc) offset
    · rw [List.filter_cons_of_pos (by simpa using hb)] at hc
      have hs : IsSeparate body bodies.flatten := by
        rw [← List.flatten_filter_ne_nil]
        cases hf : bodies.filter (· ≠ []) with
        | nil => exact isSeparate_nil body
        | cons next others =>
          rw [hf] at hc
          have hm : next ∈ bodies.filter (· ≠ []) := hf ▸ List.mem_cons_self
          have hn : next ≠ [] := by simpa using (List.mem_filter.1 hm).2
          refine (List.isChain_cons_cons.1 hc).1.of_head? ?_
          rw [List.flatten_cons, List.head?_append_of_ne_nil _ hn]
      rw [List.flatten_cons, tokens_append hp (Nat.zero_le _) hs,
        ih hl (List.isChain_of_isChain_cons hc)]
      rfl

/-! ### The slots of pieces -/

/-- The expressions among some pieces of a body. -/
def slots (pieces : List Token) : List Node :=
  pieces.filterMap fun
    | .point _ => none
    | .slot expression => some expression

@[simp] theorem slots_append (pieces later : List Token) :
    slots (pieces ++ later) = slots pieces ++ slots later :=
  List.filterMap_append

@[simp] theorem slots_points (text : List Char) : slots (text.map (.point ·.toNat)) = [] := by
  simp [slots, List.filterMap_map]

theorem expressions_ofTokens (pieces : List Token) :
    (ofTokens pieces).expressions = slots pieces := by
  have ha : (assemble pieces).2.map Prod.fst = slots pieces := by
    induction pieces with
    | nil => rfl
    | cons piece pieces ih =>
      cases piece with
      | point code => exact ih
      | slot expression => exact congrArg (expression :: ·) ih
  rw [← ha]
  simp [ofTokens, Template.expressions, Function.comp_def]

end TemplateText

end Polyglot.Source
