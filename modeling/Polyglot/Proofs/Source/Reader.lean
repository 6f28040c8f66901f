import Polyglot.Proofs.Source.PrintedSlot
import Polyglot.Proofs.Text.Hex

/-!
# A reader of printed expressions

Each part of the reader takes something from the front of a text and answers what is left: a word, a
quoted string, escaped text, a list up to its closing character. An expression is read as a primary
one with suffixes behind it, so that a chain of calls, members and tags is read from the left. Like
the printer, the reader takes the number of levels that are left; parentheses count as one.

The reader does not refuse all that the printer never writes. What matters is that it reads what the
printer writes as the tree that it was printed from; here this is shown of the parts without
expressions and of lists.
-/

namespace Polyglot.Source.Reader

open TemplateText Printer

/-- What takes something from the front of a text, if it stands there. -/
abbrev Taker (α : Type) := List Char → Option (α × List Char)

/-- What is left behind some characters, if they stand at the front of a text. -/
def skip (front text : List Char) : Option (List Char) :=
  if front <+: text then some (text.drop front.length) else none

/-- Take a name. -/
def readName : Taker String := fun text =>
  let word := text.takeWhile isNameChar
  if isName word then some (String.ofList word, text.dropWhile isNameChar) else none

/-- Take an identifier or a number. -/
def readWord : Taker Node := fun text =>
  let word := text.takeWhile isNameChar
  let rest := text.dropWhile isNameChar
  if isName word then some (.identifier (String.ofList word), rest)
  else if word ≠ [] ∧ word.all Char.isDigit then some (.numericLiteral (String.ofList word), rest)
  else none

/-- The character of a short escape between double quotes. -/
def unescape? : Char → Option Char
  | '"' => some '"'
  | '\\' => some '\\'
  | 'n' => some '\n'
  | 'r' => some '\r'
  | 't' => some '\t'
  | 'b' => some '\x08'
  | 'f' => some '\x0c'
  | _ => none

/-- Take the characters of a quoted string, behind its opening quote. -/
def readQuoted : Taker (List Char)
  | [] => none
  | '"' :: rest => some ([], rest)
  | '\\' :: 'u' :: a :: b :: c :: d :: rest => do
    let code ← Text.hexNumber? [a, b, c, d]
    let (text, rest) ← readQuoted rest
    return (Char.ofNat code :: text, rest)
  | '\\' :: c :: rest => do
    let c ← unescape? c
    let (text, rest) ← readQuoted rest
    return (c :: text, rest)
  | c :: rest => do
    let (text, rest) ← readQuoted rest
    return (c :: text, rest)

/-- The text of a template up to a slot or a backtick, and what is left. -/
def readText : List Char → List Char × List Char
  | [] => ([], [])
  | '\\' :: c :: rest =>
    let (text, rest) := readText rest
    ((if c = 'r' then '\r' else c) :: text, rest)
  | c :: rest =>
    if c = backtick ∨ c = '$' ∧ rest.head? = some '{' then ([], c :: rest)
    else
      let (text, rest) := readText rest
      (c :: text, rest)

/-- Take things with a comma between them, at most a given number, and the character that closes
them. -/
def readItems {α : Type} (item : Taker α) (close : Char) : Nat → Taker (List α)
  | 0, _ => none
  | count + 1, text => do
    let (first, rest) ← item text
    match skip [',', ' '] rest with
    | some rest =>
      let (others, rest) ← readItems item close count rest
      return (first :: others, rest)
    | none => return ([first], ← skip [close] rest)

/-- Take a list, which may be empty, and the character that closes it. -/
def readList {α : Type} (item : Taker α) (close : Char) : Taker (List α) := fun text =>
  match skip [close] text with
  | some rest => some ([], rest)
  | none => readItems item close text.length text

/-- Take the slots of a template, less than a given number, and the closing backtick. -/
def readSlots (read : Taker Node) : Nat → Taker (List Node)
  | 0, _ => none
  | count + 1, text =>
    match skip ['$', '{'] text with
    | some text => do
      let (expression, rest) ← read text
      let (words, rest) := readText (← skip ['}'] rest)
      let (spans, rest) ← readSlots read count rest
      return (.templateSpan expression (String.ofList words) :: spans, rest)
    | none => return ([], ← skip [backtick] text)

/-- Take a template, behind its opening backtick. -/
def readTemplate (read : Taker Node) : Taker Node := fun text => do
  let (head, rest) := readText text
  let (spans, rest) ← readSlots read rest.length rest
  return (.templateLiteral (String.ofList head) spans, rest)

/-- Take a property. -/
def readProperty (read : Taker Node) : Taker Node := fun text => do
  let (name, rest) ← readName text
  let (value, rest) ← read (← skip [':', ' '] rest)
  return (.propertyAssignment name value, rest)

/-- Take a parameter without a type. -/
def readParameter : Taker Parameter := fun text => do
  let (name, rest) ← readName text
  return (⟨name, none⟩, rest)

/-- Take what stands behind an opening parenthesis: the rest of an arrow function if parameters
follow, and else an expression in parentheses. -/
def readEnclosed (read : Taker Node) : Taker Node := fun text =>
  match readList readParameter ')' text with
  | some (parameters, rest) => do
    let (body, rest) ← read (← skip [' ', '=', '>', ' '] rest)
    return (.arrowFunction parameters body, rest)
  | none => do
    let (node, rest) ← read text
    return (node, ← skip [')'] rest)

/-- Take an expression without suffixes. -/
def readPrimary (read : Taker Node) : Taker Node
  | '"' :: text => do
    let (value, rest) ← readQuoted text
    return (.stringLiteral (String.ofList value), rest)
  | '\x60' :: text => readTemplate read text
  | '{' :: text => do
    let (properties, rest) ← readList (readProperty read) '}' text
    return (.objectLiteral properties, rest)
  | '[' :: text => do
    let (elements, rest) ← readList read ']' text
    return (.arrayLiteral elements, rest)
  | '(' :: text => readEnclosed read text
  | text => readWord text

/-- Take one suffix of an operand. -/
def readSuffix (read : Taker Node) (operand : Node) : Taker Node
  | '(' :: text => do
    let (arguments, rest) ← readList read ')' text
    return (.callExpression operand arguments, rest)
  | '.' :: text => do
    let (name, rest) ← readName text
    return (.propertyAccess operand name, rest)
  | '\x60' :: text => do
    let (template, rest) ← readTemplate read text
    return (.taggedTemplate operand template, rest)
  | _ => none

/-- Take the suffixes of an operand, at most a given number. -/
def readSuffixes (read : Taker Node) : Nat → Node → Taker Node
  | 0, operand, text => some (operand, text)
  | count + 1, operand, text =>
    match readSuffix read operand text with
    | some (operand, rest) => readSuffixes read count operand rest
    | none => some (operand, text)

/-- Take an operand with at most a given number of suffixes. -/
def readOperand (read : Taker Node) (count : Nat) : Taker Node := fun text => do
  let (primary, rest) ← readPrimary read text
  readSuffixes read count primary rest

/-- Take an expression, within a number of levels. -/
def readExpression : Nat → Taker Node
  | 0, _ => none
  | room + 1, text => readOperand (readExpression room) text.length text

variable {α : Type} {front text rest : List Char} {c : Char}

@[simp] theorem skip_append (front rest : List Char) : skip front (front ++ rest) = some rest := by
  simp [skip]

theorem skip_of_head?_ne (h : text.head? ≠ some c) : skip (c :: front) text = none := by
  rw [skip, if_neg]
  rintro ⟨later, rfl⟩
  exact h rfl

/-! ### Words -/

/-- A word ends in front of the text. -/
def EndsWord (rest : List Char) : Prop :=
  ∀ c ∈ rest.head?, isNameChar c = false

theorem takeWhile_append (h : ∀ c ∈ text, isNameChar c) (he : EndsWord rest) :
    (text ++ rest).takeWhile isNameChar = text := by
  rw [List.takeWhile_append_of_pos h]
  cases rest with
  | nil => simp
  | cons c rest => rw [List.takeWhile_cons_of_neg (by simp [he c rfl]), List.append_nil]

theorem dropWhile_append (h : ∀ c ∈ text, isNameChar c) (he : EndsWord rest) :
    (text ++ rest).dropWhile isNameChar = rest := by
  rw [List.dropWhile_append_of_pos h]
  cases rest with
  | nil => rfl
  | cons c rest => rw [List.dropWhile_cons_of_neg (by simp [he c rfl])]

theorem readName_append {name : String} (h : isName name.toList) (he : EndsWord rest) :
    readName (name.toList ++ rest) = some (name, rest) := by
  have hc := isNameChar_of_isName h
  rw [readName, takeWhile_append hc he, dropWhile_append hc he, if_pos h, String.ofList_toList]

theorem readName_of_endsWord (h : EndsWord text) : readName text = none := by
  rw [readName, ← List.nil_append text, takeWhile_append (by simp) h, if_neg (by simp [isName])]

theorem readWord_of_endsWord (h : EndsWord text) : readWord text = none := by
  rw [readWord, ← List.nil_append text, takeWhile_append (by simp) h]
  simp [isName]

theorem readWord_name {name : String} (h : isName name.toList) (he : EndsWord rest) :
    readWord (name.toList ++ rest) = some (.identifier name, rest) := by
  have hc := isNameChar_of_isName h
  rw [readWord, takeWhile_append hc he, dropWhile_append hc he, if_pos h, String.ofList_toList]

theorem not_isName_of_isDigit (h : c.isDigit) : isName (c :: text) = false := by
  have hd : c.toNat ≤ 57 :=
    UInt32.le_iff_toNat_le.1 (of_decide_eq_true (Bool.and_eq_true_iff.1 h).2)
  have ha : c.isAlpha = false := by
    rw [Bool.eq_false_iff]
    intro ha
    rcases Bool.or_eq_true_iff.1 ha with hu | hl
    · have hl : 65 ≤ c.toNat := UInt32.le_iff_toNat_le.1 (of_decide_eq_true hu).1
      omega
    · have hl : 97 ≤ c.toNat :=
        UInt32.le_iff_toNat_le.1 (of_decide_eq_true (Bool.and_eq_true_iff.1 hl).1)
      omega
  have hs : c ≠ '_' ∧ c ≠ '$' := by
    constructor <;> (rintro rfl; simp at h)
  simp [isName, ha, hs]

section Number

variable {raw : String} (hd : ∀ c ∈ raw.toList, c.isDigit)

include hd

theorem not_isName_number : isName raw.toList = false := by
  cases hl : raw.toList with
  | nil => rfl
  | cons c later => exact not_isName_of_isDigit (hd c (hl ▸ List.mem_cons_self))

theorem isNameChar_number : ∀ c ∈ raw.toList, isNameChar c :=
  fun c hc => isNameChar_of_isDigit (hd c hc)

theorem readName_number (he : EndsWord rest) : readName (raw.toList ++ rest) = none := by
  rw [readName, takeWhile_append (isNameChar_number hd) he, not_isName_number hd]
  rfl

theorem readWord_number (hn : raw ≠ "") (he : EndsWord rest) :
    readWord (raw.toList ++ rest) = some (.numericLiteral raw, rest) := by
  have hc := isNameChar_number hd
  rw [readWord, takeWhile_append hc he, dropWhile_append hc he, not_isName_number hd,
    if_neg Bool.false_ne_true, if_pos, String.ofList_toList]
  exact ⟨by simpa using hn, List.all_eq_true.2 hd⟩

end Number

/-! ### Quoted strings -/

/-- A character is read from what is written for it. -/
theorem readQuoted_quoteDoubleChar (c : Char) (rest : List Char) :
    readQuoted (Text.quoteDoubleChar c ++ rest) =
      (fun answer => (c :: answer.1, answer.2)) <$> readQuoted rest := by
  fun_cases Text.quoteDoubleChar c with
  | case8 =>
    rename_i hs
    have hn : Text.hexNumber? (Text.hexPadded 4 c.toNat) = some c.toNat :=
      Text.hexNumber?_hexPadded (by omega)
    simp only [Text.hexPadded, List.nil_append, List.cons_append] at hn ⊢
    rw [readQuoted, hn]
    cases readQuoted rest <;> simp [Char.ofNat_toNat]
  | case9 c hq hb =>
    rw [List.singleton_append,
      readQuoted.eq_5 _ _ hq (fun _ _ _ _ _ h => absurd h hb) fun _ _ h => absurd h hb]
    cases readQuoted rest <;> rfl
  | _ =>
    rw [List.cons_append, List.singleton_append, readQuoted.eq_4 _ _ (by simp)]
    cases readQuoted rest <;> rfl

/-- A quoted string is read as its characters. -/
theorem readQuoted_append (text rest : List Char) :
    readQuoted (text.flatMap Text.quoteDoubleChar ++ '"' :: rest) = some (text, rest) := by
  induction text with
  | nil => rfl
  | cons c text ih =>
    rw [List.flatMap_cons, List.append_assoc, readQuoted_quoteDoubleChar, ih]
    rfl

/-! ### Escaped text -/

/-- The text of a template ends in front of a text: a backtick follows or a slot. -/
def EndsText (rest : List Char) : Prop :=
  rest.head? = some backtick ∨ ['$', '{'] <+: rest

theorem head?_ne_of_endsText (h : EndsText rest) : rest.head? ≠ some '{' := by
  rcases h with h | ⟨later, rfl⟩
  · simp [h, backtick]
  · simp

theorem readText_of_endsText (h : EndsText rest) : readText rest = ([], rest) := by
  cases rest with
  | nil => rfl
  | cons c rest =>
    have hc : c = backtick ∨ c = '$' ∧ rest.head? = some '{' := by
      rcases h with h | ⟨later, h⟩
      · exact .inl (Option.some.inj h)
      · obtain ⟨rfl, rfl⟩ := List.cons.inj h
        exact .inr ⟨rfl, rfl⟩
    rw [readText, if_pos hc]
    rintro c later rfl
    simp [backtick] at hc

/-- Escaped text is read as the text. -/
theorem readText_append (text : List Char) (h : EndsText rest) :
    readText (escapeChars text ++ rest) = (text, rest) := by
  fun_induction escapeChars text with
  | case1 => exact readText_of_endsText h
  | case2 later ih =>
    have hr : readText ('{' :: (escapeChars later ++ rest)) = ('{' :: later, rest) := by
      rw [readText, if_neg (by simp [backtick]), ih]
      simp
    rw [List.cons_append, List.cons_append, List.cons_append, readText, hr]
    rfl
  | case3 c later hn ih =>
    rw [List.append_assoc]
    unfold escapeChar
    simp only [Bool.or_eq_true, beq_iff_eq]
    split_ifs with hq hc
    · rw [List.cons_append, List.singleton_append, readText, ih, if_neg]
      rcases hq with rfl | rfl <;> decide
    · rw [List.cons_append, List.singleton_append, readText, ih, if_pos rfl, hc]
    · rw [List.singleton_append, readText, if_neg, ih]
      · rintro (hb | ⟨hd, ho⟩)
        · exact hq (.inr hb)
        · refine head?_append_ne (head?_escapeChars_ne fun ho => ?_) (head?_ne_of_endsText h) ho
          obtain ⟨tail, rfl⟩ := List.head?_eq_some_iff.1 ho
          exact hn tail hd rfl
      · exact fun _ _ hb => absurd hb fun hb => hq (.inl hb)

/-! ### Lists -/

/-- An expression that is printed in front of the text does not go on with it. -/
def Stops (rest : List Char) : Prop :=
  ∀ c ∈ rest.head?, isNameChar c = false ∧ c ≠ '(' ∧ c ≠ '.' ∧ c ≠ backtick

theorem Stops.endsWord (h : Stops rest) : EndsWord rest :=
  fun c hc => (h c hc).1

/-- A text is read as a thing, in front of whatever it does not go on with. -/
def ReadsAs (item : Taker α) (thing : α) (text : String) : Prop :=
  ∀ rest, Stops rest → item (text.toList ++ rest) = some (thing, rest)

/-- The characters that close lists. -/
def closers : List Char := [')', ']', '}']

variable {item : Taker α} {things : List α} {texts : List String} {close : Char}

theorem stops_closer (h : close ∈ closers) (rest : List Char) : Stops (close :: rest) := by
  revert close
  simp [closers, Stops, isNameChar, backtick]

theorem stops_comma (rest : List Char) : Stops (',' :: rest) := by
  simp [Stops, isNameChar, backtick]

theorem ne_comma_of_mem_closers (h : close ∈ closers) : close ≠ ',' := by
  rintro rfl
  simp [closers] at h

theorem readItems_append (h : List.Forall₂ (ReadsAs item) things texts) (hn : texts ≠ [])
    (hc : close ∈ closers) {count : Nat} (hl : texts.length ≤ count) (rest : List Char) :
    readItems item close count ((commaSeparated texts).toList ++ close :: rest) =
      some (things, rest) := by
  induction h generalizing count with
  | nil => exact absurd rfl hn
  | @cons thing text things texts hr h ih =>
    obtain ⟨count, rfl⟩ := Nat.exists_eq_add_one_of_ne_zero (Nat.ne_zero_of_lt hl)
    by_cases ht : texts = []
    · subst ht
      cases h
      have hs := hr (close :: rest) (stops_closer hc rest)
      have hm : skip [',', ' '] (close :: rest) = none :=
        skip_of_head?_ne (by simpa using ne_comma_of_mem_closers hc)
      have hk : skip [close] (close :: rest) = some rest := skip_append [close] rest
      rw [show commaSeparated [text] = text from String.intercalate_singleton, readItems, hs]
      simp [hm, hk]
    · have hx : (commaSeparated (text :: texts)).toList ++ close :: rest =
          text.toList ++ ([',', ' '] ++ ((commaSeparated texts).toList ++ close :: rest)) := by
        simp [commaSeparated, String.intercalate_cons_of_ne_nil ht]
      have hs : Stops ([',', ' '] ++ ((commaSeparated texts).toList ++ close :: rest)) :=
        stops_comma _
      rw [hx, readItems, hr _ hs]
      simp only [Option.bind_eq_bind, Option.bind_some, skip_append,
        ih ht (Nat.le_of_succ_le_succ hl)]
      rfl

theorem length_le_commaSeparated (texts : List String) :
    texts.length ≤ (commaSeparated texts).toList.length + 1 := by
  induction texts with
  | nil => simp
  | cons text texts ih =>
    by_cases ht : texts = []
    · simp [ht]
    · have hl : ", ".toList.length = 2 := rfl
      simp only [commaSeparated, String.intercalate_cons_of_ne_nil ht, String.toList_append,
        List.length_append, List.length_cons] at ih ⊢
      omega

/-- A list is read as its things, where no thing begins with the character that closes it. -/
theorem readList_append (h : List.Forall₂ (ReadsAs item) things texts) (hc : close ∈ closers)
    (ho : ∀ rest, item (close :: rest) = none) (rest : List Char) :
    readList item close ((commaSeparated texts).toList ++ close :: rest) = some (things, rest) := by
  by_cases hn : texts = []
  · subst hn
    cases h
    have hk : skip [close] (close :: rest) = some rest := skip_append [close] rest
    simp [readList, commaSeparated, hk]
  · have hl : texts.length ≤ ((commaSeparated texts).toList ++ close :: rest).length := by
      have hl := length_le_commaSeparated texts
      rw [List.length_append, List.length_cons]
      omega
    have hr := readItems_append h hn hc hl rest
    have hh : ((commaSeparated texts).toList ++ close :: rest).head? ≠ some close := by
      intro hh
      obtain ⟨later, he⟩ := List.head?_eq_some_iff.1 hh
      rw [he, List.length_cons, readItems, ho] at hr
      cases hr
    rw [readList, skip_of_head?_ne hh]
    exact hr

/-- A text that begins with no thing is no list, unless it begins with what closes one. -/
theorem readList_eq_none (h : item text = none) (hc : text.head? ≠ some close) :
    readList item close text = none := by
  rw [readList, skip_of_head?_ne hc]
  cases text with
  | nil => rfl
  | cons c rest => rw [List.length_cons, readItems, h]; rfl

end Polyglot.Source.Reader

namespace Polyglot.Source

/-- The expression that a text is, read within a number of levels. -/
def Node.read? (room : Nat) (text : String) : Option Node :=
  match Reader.readExpression room text.toList with
  | some (node, []) => some node
  | _ => none

end Polyglot.Source
