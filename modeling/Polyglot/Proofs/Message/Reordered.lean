import Polyglot.Localize.Transform
import Polyglot.Proofs.Message.Joined
import Polyglot.Proofs.Source.Adjacent

/-!
# Translations that put placeholders in another order

A translation keeps the payloads of its source and is free in their order and in the texts between
them. Where each payload reads by itself and keeps to itself, the body of any such translation
reads, and its slots are those of its payloads, one payload after the other: no text opens a slot,
whatever dollar signs, braces and backslashes stand next to a payload. So the slots are those of the
source, and arguments can be put into the one template just when they can be put into the other.
-/

namespace Polyglot

open Source Source.TemplateText

namespace Contents

variable {contents : Contents} {text : String}

/-- A payload that reads by itself, and the same next to any other piece of a message. -/
structure IsSelfContained (payload : String) : Prop where
  ne_empty : payload ≠ ""
  parses : (Template.parse payload).isOk
  head_ne : payload.toList.head? ≠ some '{'
  last_ne : payload.toList.getLast? ≠ some '$'
  return_not_mem : '\r' ∉ payload.toList

theorem toList_body_cons (piece : Content) (contents : Contents) :
    (body (piece :: contents)).toList = (body [piece]).toList ++ contents.body.toList := by
  simp [body, String.toList_join]

theorem toList_body_text (text : String) :
    (body [.text text]).toList = escapeChars text.toList := by
  simp [body, escape]

theorem toList_body_placeholder (payload : String) :
    (body [.placeholder payload]).toList = payload.toList := by
  simp [body]

/-- No brace stands behind a run of text. -/
theorem head?_body_ne (ht : ∀ text, contents.head? ≠ some (.text text))
    (hp : ∀ payload ∈ contents.payloads, IsSelfContained payload) :
    contents.body.toList.head? ≠ some '{' := by
  cases contents with
  | nil => simp [body, String.join]
  | cons piece contents =>
    cases piece with
    | text words => exact absurd rfl (ht words)
    | placeholder payload =>
      have h := hp payload (by simp)
      have hne : payload.toList ≠ [] := fun hn => h.ne_empty (String.toList_eq_nil_iff.1 hn)
      rw [toList_body_cons, toList_body_placeholder, List.head?_append_of_ne_nil _ hne]
      exact h.head_ne

/-- **The body of joined contents reads**, and its slots are those of the payloads, each read by
itself. -/
theorem exists_tokens_body (hj : contents.IsJoined)
    (hp : ∀ payload ∈ contents.payloads, IsSelfContained payload) :
    ∃ pieces parts, (∀ offset, tokens 0 offset contents.body.toList = .ok pieces) ∧
      contents.payloads.mapM Template.parse = .ok parts ∧
      slots pieces = parts.flatMap Template.expressions := by
  induction contents with
  | nil => exact ⟨[], [], fun _ => rfl, rfl, rfl⟩
  | cons piece contents ih =>
    cases piece with
    | text words =>
      obtain ⟨-, hn, hj⟩ := hj
      obtain ⟨pieces, parts, hb, hm, hs⟩ := ih hj hp
      refine ⟨words.toList.map (.point ·.toNat) ++ pieces, parts, fun offset => ?_, hm, ?_⟩
      · rw [toList_body_cons, toList_body_text, tokens_escapeChars (head?_body_ne hn hp), hb]
        rfl
      · rw [slots_append, slots_points, hs, List.nil_append]
    | placeholder payload =>
      have hp := List.forall_mem_cons.1 hp
      obtain ⟨template, ht⟩ := exists_of_isOk hp.1.parses
      obtain ⟨own, ho, rfl⟩ := map_eq_ok_iff.1 ht
      obtain ⟨pieces, parts, hb, hm, hs⟩ := ih hj hp.2
      refine ⟨own ++ pieces, ofTokens own :: parts, fun offset => ?_, ?_, ?_⟩
      · have hd : IsSeparate payload.toList (body contents).toList :=
          ⟨fun h => absurd h hp.1.last_ne, fun h => absurd (h.subset (by simp)) hp.1.return_not_mem⟩
        rw [toList_body_cons, toList_body_placeholder, tokens_append ho (Nat.zero_le _) hd, hb]
        rfl
      · rw [payloads_placeholder, List.mapM_cons, ht, hm]
        rfl
      · rw [slots_append, hs, List.flatMap_cons, expressions_ofTokens]

theorem exists_parse_body (hj : contents.IsJoined)
    (hp : ∀ payload ∈ contents.payloads, IsSelfContained payload) :
    ∃ template parts, Template.parse contents.body = .ok template ∧
      contents.payloads.mapM Template.parse = .ok parts ∧
      template.expressions = parts.flatMap Template.expressions := by
  obtain ⟨pieces, parts, hb, hm, hs⟩ := exists_tokens_body hj hp
  refine ⟨ofTokens pieces, parts, ?_, hm, by rw [expressions_ofTokens, hs]⟩
  rw [Template.parse, hb, map_ok]

end Contents

/-! ### Arguments for slots -/

/-- Whether an argument can be put into a slot depends on its expression only. -/
theorem isOk_substituteSlot (values : List (String × Node)) (span : Span) :
    (Localize.substituteSlot values span).isOk =
      (Localize.substituteSlot values ⟨span.expression, ""⟩).isOk := by
  obtain ⟨expression, literal⟩ := span
  cases expression with
  | identifier name =>
    simp only [Localize.substituteSlot]
    cases values.lookup name <;> rfl
  | _ => rfl

theorem isOk_substitute (parameters : List String) (arguments : List Node) (template : Template) :
    (Localize.substitute parameters arguments template).isOk =
      template.expressions.all fun expression =>
        (Localize.substituteSlot (parameters.zip arguments).reverse ⟨expression, ""⟩).isOk := by
  have hs : Localize.substitute parameters arguments template =
      (fun spans => { template with spans }) <$>
        template.spans.mapM (Localize.substituteSlot (parameters.zip arguments).reverse) := rfl
  rw [hs, isOk_map, isOk_mapM, Template.expressions, List.all_map]
  congr 1
  funext span
  exact isOk_substituteSlot _ span

/-- **A reordered translation takes the same arguments.** Contents are given without empty runs of
text and without runs that meet, and their payloads read by themselves and keep to themselves. Then
contents with the same payloads in any order, between any texts, have a body that reads; its slots
are those of its payloads, one after the other, and so those of the first contents in another order;
and whatever arguments are given, both templates take them or both refuse them. -/
theorem exists_parse_of_perm {source translation : Contents} (hs : source.IsJoined)
    (ht : translation.IsJoined) (hp : source.payloads.Perm translation.payloads)
    (hc : ∀ payload ∈ source.payloads, Contents.IsSelfContained payload) :
    ∃ own read parts, Template.parse source.body = .ok own ∧
      Template.parse translation.body = .ok read ∧
      translation.payloads.mapM Template.parse = .ok parts ∧
      read.expressions = parts.flatMap Template.expressions ∧
      own.expressions.Perm read.expressions ∧
      ∀ parameters arguments, (Localize.substitute parameters arguments read).isOk =
        (Localize.substitute parameters arguments own).isOk := by
  obtain ⟨own, sources, ho, hm, he⟩ := Contents.exists_parse_body hs hc
  obtain ⟨read, parts, hr, hn, hd⟩ := Contents.exists_parse_body ht fun payload h =>
    hc payload (hp.mem_iff.2 h)
  have hq : own.expressions.Perm read.expressions := by
    rw [he, hd]
    exact (perm_of_mapM hp hm hn).flatMap_right _
  refine ⟨own, read, parts, ho, hr, hn, hd, hq, fun parameters arguments => ?_⟩
  rw [isOk_substitute, isOk_substitute]
  exact hq.symm.all_eq

/-- A message with a dollar sign in front of a slot and a brace behind it. -/
def bracedSource : Contents :=
  [.text "Total: $", .placeholder "$\x7bsum\x7d", .text "\x7b\\",
    .placeholder "<b>$\x7bwho('\x7d')\x7d</b>\\\\"]

/-- A translation of it that looks like slots where there are none. -/
def bracedTranslation : Contents :=
  [.placeholder "<b>$\x7bwho('\x7d')\x7d</b>\\\\", .text "$\x7bwho\x7d \x60\\$",
    .placeholder "$\x7bsum\x7d", .text "\x7b"]

theorem exists_parse_of_perm_braced :
    bracedSource.IsJoined ∧ bracedTranslation.IsJoined ∧
    bracedSource.payloads.Perm bracedTranslation.payloads ∧
    (∀ payload ∈ bracedSource.payloads, Contents.IsSelfContained payload) ∧
    ∃ own read parts, Template.parse bracedSource.body = .ok own ∧
      Template.parse bracedTranslation.body = .ok read ∧
      bracedTranslation.payloads.mapM Template.parse = .ok parts ∧
      read.expressions = parts.flatMap Template.expressions ∧
      own.expressions.Perm read.expressions ∧
      ∀ parameters arguments, (Localize.substitute parameters arguments read).isOk =
        (Localize.substitute parameters arguments own).isOk := by
  have hs : bracedSource.IsJoined := by simp [bracedSource, Contents.IsJoined]
  have ht : bracedTranslation.IsJoined := by simp [bracedTranslation, Contents.IsJoined]
  have hp : bracedSource.payloads.Perm bracedTranslation.payloads := .swap _ _ _
  have hc : ∀ payload ∈ bracedSource.payloads, Contents.IsSelfContained payload := by
    change ∀ payload ∈ ["$\x7bsum\x7d", "<b>$\x7bwho('\x7d')\x7d</b>\\\\"], _
    simp only [List.forall_mem_cons, List.not_mem_nil, false_implies, implies_true, and_true]
    constructor
    · exact ⟨by decide, by decide +kernel, by decide +kernel, by decide +kernel, by decide +kernel⟩
    · exact ⟨by decide, by decide +kernel, by decide +kernel, by decide +kernel, by decide +kernel⟩
  exact ⟨hs, ht, hp, hc, exists_parse_of_perm hs ht hp hc⟩

end Polyglot
