import Polyglot.Proofs.Source.Slot

/-!
# Where slots and quoted strings end

`Closed` is the language of what may stand in a slot or between two quotes, written down with
concatenation; it is the balanced text, `closed_iff_balanced`. `slotEnd` and `stringEnd` are the
scanner started in a slot and at a quote, as functions from an index of a body to an index; each
goes on behind what the other one finds, `behind_slot_of_isQuote` and `behind_quoted_of_slot`. Both
find the only end there is, whatever follows it, and fail where there is none:
`scanner_finds_only_ends`.
-/

namespace Polyglot.Source.TemplateText

variable {depth opened offset start pos stop : Nat} {mark c : Char} {inside : Option Char}
  {top next : Opening} {around : List Opening} {body other text read rest inner part : List Char}

/-! ### The language -/

/-- What may stand in a slot, or in a string between two marks: in a slot any text in which braces
come in pairs outside of strings, in a string pairs of a backslash and a character, slots if the
marks are backticks, and other characters. -/
inductive Closed : Option Char → List Char → Prop
  | nil {inside : Option Char} : Closed inside []
  | single {c : Char} (h : c ∉ ['\'', '"', '\x60', '{', '}']) : Closed none [c]
  | braces {inner : List Char} (hi : Closed none inner) : Closed none ('{' :: (inner ++ ['}']))
  | string {mark : Char} {inner : List Char} (hm : mark ∈ ['\'', '"', '\x60'])
      (hi : Closed (some mark) inner) : Closed none (mark :: (inner ++ [mark]))
  | append {text rest : List Char} (h : Closed none text) (hr : Closed none rest) :
      Closed none (text ++ rest)
  | escape {mark c : Char} {rest : List Char} (hr : Closed (some mark) rest) :
      Closed (some mark) ('\\' :: c :: rest)
  | slot {inner rest : List Char} (hi : Closed none inner) (hr : Closed (some '\x60') rest) :
      Closed (some '\x60') ('$' :: '{' :: (inner ++ '}' :: rest))
  | character {mark c : Char} {rest : List Char} (he : c ≠ '\\') (hm : c ≠ mark)
      (hs : mark = '\x60' → c = '$' → rest.head? ≠ some '{') (hr : Closed (some mark) rest) :
      Closed (some mark) (c :: rest)

theorem isQuote_iff_mem : isQuote c ↔ c ∈ ['\'', '"', '\x60'] := by
  simp [isQuote, backtick, or_assoc]

theorem closed_iff_balanced : Closed inside text ↔ Balanced inside text := by
  constructor
  · intro h
    induction h with
    | nil => exact .nil
    | @single c h =>
      simp only [List.mem_cons, List.not_mem_nil, or_false, not_or] at h
      exact .plain (by simpa [isQuote, backtick, and_assoc] using ⟨h.1, h.2.1, h.2.2.1⟩) h.2.2.2.1
        h.2.2.2.2 .nil
    | braces _ ih => exact ih.enclosed
    | string hm _ ih => exact .quoted (isQuote_iff_mem.2 hm) ih .nil
    | append _ _ ih ihr => exact ih.append ihr
    | escape _ ih => exact .escape ih
    | slot _ _ ih ihr => exact .slot ih ihr
    | character he hm hs _ ih => exact .character he hm hs ih
  · intro h
    induction h with
    | nil => exact .nil
    | @plain c rest hq ho hc _ ih =>
      have hm : c ∉ ['\'', '"', '\x60'] := fun hm => by simp [isQuote_iff_mem.2 hm] at hq
      exact .append (.single (by simp_all)) ih
    | @braces inner rest _ _ ihi ihr => simpa using Closed.append (.braces ihi) ihr
    | quoted hm _ _ ihi ihr => simpa using Closed.append (.string (isQuote_iff_mem.1 hm) ihi) ihr
    | escape _ ih => exact .escape ih
    | slot _ _ ihi ihr => exact .slot ihi ihr
    | character he hm hs _ ih => exact .character he hm hs ih

/-! ### One bracket after the other -/

/-- Characters that are passed over at the start are passed over before what follows. -/
theorem map_bind_read (front : List Char) {x y : Except TemplateFault (List Char)}
    {go : Nat → List Char → Except TemplateFault (List Char)}
    (h : x = y >>= fun read =>
      (read ++ ·) <$> go (offset + front.length + read.length) (rest.drop read.length)) :
    (front ++ ·) <$> x = ((front ++ ·) <$> y) >>= fun read =>
      (read ++ ·) <$> go (offset + read.length) ((front ++ rest).drop read.length) := by
  subst h
  cases y with
  | error fault => rfl
  | ok read => simp [Functor.map_map, ← Nat.add_assoc, List.drop_length_add_append]

/-- Scanning within some brackets is scanning up to the end of the outermost of them, and then on
behind it. -/
theorem closing_append (next : Opening) (outer : List Opening) :
    closing top (around ++ next :: outer) offset text =
      closing top around offset text >>= fun read =>
        (read ++ ·) <$> closing next outer (offset + read.length) (text.drop read.length) := by
  fun_induction closing top around offset text with
  | case1 =>
    rw [closing.eq_def]
    rfl
  | case2 around offset c rest depth opened hq ih =>
    rw [closing_quote hq]
    exact map_bind_read [c] ih
  | case3 around offset c rest depth opened hq ho ih =>
    obtain rfl := beq_iff_eq.1 ho
    rw [closing_brace]
    exact map_bind_read ['{'] ih
  | case4 around offset c rest opened hq ho hc depth ih =>
    obtain rfl := beq_iff_eq.1 hc
    rw [closing_unbrace]
    exact map_bind_read ['}'] ih
  | case5 offset c rest opened hq ho hc =>
    obtain rfl := beq_iff_eq.1 hc
    rw [List.nil_append, closing_nested_end]
    rfl
  | case6 offset c rest opened hq ho hc inner around ih =>
    obtain rfl := beq_iff_eq.1 hc
    rw [List.cons_append, closing_nested_end]
    exact map_bind_read ['}'] ih
  | case7 around offset c rest depth opened hq ho hc ih =>
    rw [closing_plain (by simpa using hq) (by simpa using ho) (by simpa using hc)]
    exact map_bind_read [c] ih
  | case8 around offset c mark opened he =>
    obtain rfl := beq_iff_eq.1 he
    rw [closing.eq_def]
    rfl
  | case9 around offset c mark opened he d rest ih =>
    obtain rfl := beq_iff_eq.1 he
    rw [closing_escape]
    exact map_bind_read ['\\', d] ih
  | case10 offset c rest mark opened he hm =>
    obtain rfl := beq_iff_eq.1 hm
    rw [List.nil_append, closing_mark (by simpa using he)]
    rfl
  | case11 offset c rest mark opened he hm inner around ih =>
    obtain rfl := beq_iff_eq.1 hm
    rw [List.cons_append, closing_mark (by simpa using he)]
    exact map_bind_read [c] ih
  | case12 around offset c mark opened he hm hs rest ih =>
    simp only [Bool.and_eq_true, beq_iff_eq] at hs
    obtain ⟨rfl, rfl⟩ := hs
    rw [closing_slot]
    exact map_bind_read ['$', '{'] ih
  | case13 around offset c mark opened he hm hs rest hb ih =>
    rw [closing_quoted (by simpa using he) (by simpa using hm) fun _ _ hr => ?_]
    · exact map_bind_read [c] ih
    · obtain ⟨tail, rfl⟩ := List.head?_eq_some_iff.1 hr
      exact hb tail rfl
  | case14 around offset c rest mark opened he hm hs ih =>
    rw [closing_quoted (by simpa using he) (by simpa using hm) fun h₁ h₂ => ?_]
    · exact map_bind_read [c] ih
    · simp [h₁, h₂] at hs

/-! ### The scanners of a body -/

/-- The index behind the character that closes a bracket, scanned from an index within it on. -/
def behind (top : Opening) (body : List Char) (start : Nat) : Except TemplateFault Nat :=
  (start + ·.length) <$> closing top [] start (body.drop start)

/-- The index of the brace that ends the slot whose text starts at an index; a fault is to carry a
given offset. -/
def slotEnd (opened : Nat) (body : List Char) (start : Nat) : Except TemplateFault Nat :=
  (· - 1) <$> behind (.slot 0 opened) body start

/-- The index behind the quoted string that starts with a mark at an index. -/
def stringEnd (mark : Char) (body : List Char) (pos : Nat) : Except TemplateFault Nat :=
  behind (.quoted mark pos) body (pos + 1)

/-- The scanner goes on with a bracket behind the one inside it. -/
theorem behind_bind_behind :
    behind top body start >>= behind next body =
      (start + ·.length) <$> closing top [next] start (body.drop start) := by
  have h : closing top ([] ++ [next]) start (body.drop start) = _ := closing_append next []
  rw [List.nil_append] at h
  rw [behind, h]
  cases closing top [] start (body.drop start) with
  | error fault => rfl
  | ok read => simp [behind, Nat.add_assoc]

/-- At a quote the scanner of a slot goes on behind the string. -/
theorem behind_slot_of_isQuote (hc : body[start]? = some c) (hq : isQuote c) :
    behind (.slot depth opened) body start =
      stringEnd c body start >>= behind (.slot depth opened) body := by
  obtain ⟨hl, rfl⟩ := List.getElem?_eq_some_iff.1 hc
  rw [stringEnd, behind_bind_behind, behind, List.drop_eq_getElem_cons hl, closing_quote hq]
  simp [Functor.map_map, Nat.add_assoc, Nat.add_comm 1]

/-- At a slot in a template the scanner of the template goes on behind the slot. -/
theorem behind_quoted_of_slot (hd : body[start]? = some '$') (hb : body[start + 1]? = some '{') :
    behind (.quoted backtick opened) body start =
      behind (.slot 0 start) body (start + 2) >>= behind (.quoted backtick opened) body := by
  obtain ⟨hl, hd⟩ := List.getElem?_eq_some_iff.1 hd
  obtain ⟨hl', hb⟩ := List.getElem?_eq_some_iff.1 hb
  rw [behind_bind_behind, behind, List.drop_eq_getElem_cons hl, List.drop_eq_getElem_cons hl', hd,
    hb, closing_slot]
  simp [Functor.map_map, Nat.add_assoc, Nat.add_comm 2]

/-! ### What they find -/

theorem closing_string_eq_ok_iff (hm : isQuote mark) :
    closing (.quoted mark opened) [] offset text = .ok read ↔
      ∃ inner, Balanced (some mark) inner ∧ read = inner ++ [mark] ∧ read <+: text := by
  constructor
  · intro h
    cases closes_of_closing h with
    | quoted hi hr =>
      cases hr
      exact ⟨_, hi, rfl, prefix_of_closing h⟩
  · rintro ⟨inner, hi, rfl, rest, rfl⟩
    have hb : (mark :: rest).head? ≠ some '{' := by simpa using ne_brace_of_isQuote hm
    have hend : closing (.quoted mark opened) [] (offset + inner.length) (mark :: rest) =
        .ok [mark] := by
      rw [closing.eq_def]
      simp [ne_backslash_of_isQuote hm]
    rw [List.append_assoc, List.singleton_append, (passes_of_balanced hi).string hm hb, hend]
    rfl

/-- A slot whose text starts at an index ends at another one: a brace stands there, and the text in
between is closed. -/
def IsSlotEnd (body : List Char) (start stop : Nat) : Prop :=
  start ≤ stop ∧ body[stop]? = some '}' ∧ Closed none ((body.take stop).drop start)

/-- A quoted string takes up the body from an index to another one. -/
def IsStringEnd (mark : Char) (body : List Char) (pos stop : Nat) : Prop :=
  stop ≤ body.length ∧ ∃ inner, Closed (some mark) inner ∧
    (body.take stop).drop pos = mark :: (inner ++ [mark])

theorem isSlotEnd_iff : IsSlotEnd body start stop ↔ ∃ inner, Closed none inner ∧
    inner ++ ['}'] <+: body.drop start ∧ stop = start + inner.length := by
  constructor
  · rintro ⟨hs, hb, hi⟩
    obtain ⟨hl, hb⟩ := List.getElem?_eq_some_iff.1 hb
    refine ⟨_, hi, ?_, by simp; omega⟩
    have ht : (body.take stop).drop start ++ ['}'] = (body.take (stop + 1)).drop start := by
      rw [List.take_succ_eq_append_getElem hl, List.drop_append_of_le_length (by simp; omega), hb]
    rw [ht, List.drop_take]
    exact List.take_prefix _ _
  · rintro ⟨inner, hi, ⟨rest, hr⟩, rfl⟩
    rw [List.append_assoc] at hr
    refine ⟨Nat.le_add_right _ _, ?_, ?_⟩
    · rw [← List.getElem?_drop, ← hr]
      simp
    · rw [List.drop_take, ← hr, Nat.add_sub_cancel_left, List.take_left]
      exact hi

theorem isStringEnd_iff (hc : body[pos]? = some mark) :
    IsStringEnd mark body pos stop ↔ ∃ inner, Closed (some mark) inner ∧
      inner ++ [mark] <+: body.drop (pos + 1) ∧ stop = pos + 1 + inner.length + 1 := by
  obtain ⟨hl, rfl⟩ := List.getElem?_eq_some_iff.1 hc
  have hd := List.drop_eq_getElem_cons hl
  constructor
  · rintro ⟨hs, inner, hi, ht⟩
    have hlength := congrArg List.length ht
    have hprefix : (body.take stop).drop pos <+: body.drop pos :=
      List.drop_take ▸ List.take_prefix _ _
    rw [ht, hd, List.cons_prefix_cons] at hprefix
    refine ⟨inner, hi, hprefix.2, ?_⟩
    simp at hlength
    omega
  · rintro ⟨inner, hi, ⟨rest, hr⟩, rfl⟩
    have hlength := congrArg List.length hr
    refine ⟨by simp at hlength; omega, inner, hi, ?_⟩
    have hn : pos + 1 + inner.length + 1 - pos = (inner ++ [body[pos]]).length + 1 := by simp; omega
    rw [List.drop_take, hd, ← hr, hn, List.take_succ_cons, List.take_left]

theorem slotEnd_eq_ok_iff : slotEnd opened body start = .ok stop ↔ IsSlotEnd body start stop := by
  simp only [slotEnd, behind, Functor.map_map, map_eq_ok_iff, closing_eq_ok_iff, isSlotEnd_iff,
    closed_iff_balanced]
  constructor
  · rintro ⟨_, ⟨inner, hi, rfl, hp⟩, rfl⟩
    exact ⟨inner, hi, hp, by simp⟩
  · rintro ⟨inner, hi, hp, rfl⟩
    exact ⟨_, ⟨inner, hi, rfl, hp⟩, by simp⟩

theorem stringEnd_eq_ok_iff (hc : body[pos]? = some mark) (hm : isQuote mark) :
    stringEnd mark body pos = .ok stop ↔ IsStringEnd mark body pos stop := by
  simp only [stringEnd, behind, map_eq_ok_iff, closing_string_eq_ok_iff hm, isStringEnd_iff hc,
    closed_iff_balanced]
  constructor
  · rintro ⟨_, ⟨inner, hi, rfl, hp⟩, rfl⟩
    exact ⟨inner, hi, hp, by simp [Nat.add_assoc]⟩
  · rintro ⟨inner, hi, hp, rfl⟩
    exact ⟨_, ⟨inner, hi, rfl, hp⟩, by simp [Nat.add_assoc]⟩

theorem getElem?_eq_of_take_eq {length i : Nat} (ht : other.take length = body.take length)
    (hi : i < length) : other[i]? = body[i]? := by
  rw [← List.getElem?_take_of_lt hi, ht, List.getElem?_take_of_lt hi]

theorem IsSlotEnd.congr (h : IsSlotEnd body start stop)
    (ht : other.take (stop + 1) = body.take (stop + 1)) : IsSlotEnd other start stop := by
  obtain ⟨hs, hb, hi⟩ := h
  have htake : other.take stop = body.take stop := by
    simpa [List.take_take] using congrArg (List.take stop) ht
  refine ⟨hs, ?_, ?_⟩
  · rw [getElem?_eq_of_take_eq ht (Nat.lt_succ_self stop), hb]
  · rwa [htake]

theorem IsStringEnd.congr (h : IsStringEnd mark body pos stop)
    (ht : other.take stop = body.take stop) : IsStringEnd mark other pos stop := by
  obtain ⟨hs, hi⟩ := h
  have hlength := congrArg List.length ht
  refine ⟨by simp at hlength; omega, ?_⟩
  rwa [ht]

/-- A scan answers with the only index that is an end, and fails just where there is none. -/
structure FindsOnly (scan : Except TemplateFault Nat) (isEnd : Nat → Prop) : Prop where
  eq_ok_iff (stop : Nat) : scan = .ok stop ↔ isEnd stop
  unique {stop later : Nat} (h : isEnd stop) (hl : isEnd later) : stop = later
  error_iff : (∃ fault, scan = .error fault) ↔ ¬∃ stop, isEnd stop

theorem FindsOnly.of_eq_ok_iff {scan : Except TemplateFault Nat} {isEnd : Nat → Prop}
    (h : ∀ stop, scan = .ok stop ↔ isEnd stop) : FindsOnly scan isEnd where
  eq_ok_iff := h
  unique hs hl := Except.ok.inj (((h _).2 hs).symm.trans ((h _).2 hl))
  error_iff := by
    cases scan <;> simp [← h]

/-- **The scanners find the only end there is.** The scanner of a slot answers with the index of a
brace just where the text up to it is closed, the scanner of a quoted string with the index behind
one; there is at most one such index, whatever follows it does not matter, and where there is none
the scanner fails. -/
theorem scanner_finds_only_ends (body : List Char) :
    (∀ opened start : Nat, FindsOnly (slotEnd opened body start) (IsSlotEnd body start)) ∧
    (∀ (pos : Nat) (mark : Char), body[pos]? = some mark → isQuote mark →
      FindsOnly (stringEnd mark body pos) (IsStringEnd mark body pos)) ∧
    (∀ (opened start stop : Nat) (other : List Char), slotEnd opened body start = .ok stop →
      other.take (stop + 1) = body.take (stop + 1) → slotEnd opened other start = .ok stop) ∧
    ∀ (pos stop : Nat) (mark : Char) (other : List Char), body[pos]? = some mark → isQuote mark →
      stringEnd mark body pos = .ok stop → other.take stop = body.take stop →
        stringEnd mark other pos = .ok stop := by
  refine ⟨fun _ _ => .of_eq_ok_iff fun _ => slotEnd_eq_ok_iff,
    fun _ _ hc hm => .of_eq_ok_iff fun _ => stringEnd_eq_ok_iff hc hm,
    fun opened start stop other h ht => ?_, fun pos stop mark other hc hm h ht => ?_⟩
  · exact slotEnd_eq_ok_iff.2 ((slotEnd_eq_ok_iff.1 h).congr ht)
  · have hend := (stringEnd_eq_ok_iff hc hm).1 h
    obtain ⟨inner, -, -, hstop⟩ := (isStringEnd_iff hc).1 hend
    have hpos : other[pos]? = some mark := by
      rw [getElem?_eq_of_take_eq ht (by omega), hc]
    exact (stringEnd_eq_ok_iff hpos hm).2 (hend.congr ht)

/-- A brace in a string, a template with a slot in braces, the end of the slot and a lone quote. -/
def nestedBody : List Char :=
  ['\'', '}', '\'', '{', '\x60', '$', '{', '1', '}', '\x60', '}', '}', '\'']

theorem nestedBody_ends :
    slotEnd 0 nestedBody 0 = .ok 11 ∧ IsSlotEnd nestedBody 0 11 ∧
      slotEnd 0 (nestedBody.take 12) 0 = .ok 11 ∧
      stringEnd '\x60' nestedBody 4 = .ok 10 ∧ IsStringEnd '\x60' nestedBody 4 10 ∧
      stringEnd '\x60' (nestedBody.take 10) 4 = .ok 10 ∧
      ¬∃ stop, IsStringEnd '\'' nestedBody 12 stop := by
  obtain ⟨hslot, hstring, hslot', hstring'⟩ := scanner_finds_only_ends nestedBody
  have hs : slotEnd 0 nestedBody 0 = .ok 11 := rfl
  have hq : stringEnd '\x60' nestedBody 4 = .ok 10 := rfl
  exact ⟨hs, ((hslot 0 0).eq_ok_iff 11).1 hs, hslot' 0 0 11 _ hs rfl,
    hq, ((hstring 4 '\x60' rfl rfl).eq_ok_iff 10).1 hq, hstring' 4 10 '\x60' _ rfl rfl hq rfl,
    (hstring 12 '\'' rfl rfl).error_iff.1 ⟨_, rfl⟩⟩

end Polyglot.Source.TemplateText
