import Polyglot.Message.Basic
import Polyglot.Proofs.Source.Codes

/-!
# Bodies piece by piece

The body of a message is put together from escaped texts and from payloads, and it is read as a
whole. Where no two pieces run into each other, it reads as the pieces do by themselves: a text as
that text, a payload as the template that it is. Main statement: `parse_body_of_separate`.
-/

namespace Polyglot

open Source Source.TemplateText

namespace Content

/-- A piece of a message as it stands in the body. -/
def source : Content → List Char
  | text words => escapeChars words.toList
  | placeholder payload => payload.toList

/-- The fragments that a piece of a message reads as by itself. -/
def fragments : Content → Except TemplateFault (List Fragment)
  | text words => .ok [.text words]
  | placeholder payload => Template.fragments <$> Template.parse payload

/-- The fragments that a piece of a message reads as by itself, texts as code points. -/
def codeFragments : Content → Except TemplateFault (List CodeFragment)
  | text words => .ok [.text (words.toList.map Char.toNat)]
  | placeholder payload => CodeTemplate.fragments <$> CodeTemplate.read payload

variable {piece : Content} {parts : List CodeFragment}

theorem tokens_source (h : piece.codeFragments = .ok parts) :
    tokens 0 0 piece.source = .ok (parts.flatMap CodeFragment.tokens) := by
  cases piece with
  | text words =>
    cases h
    have hr : ([] : List Char).head? ≠ some '{' := by simp
    rw [source, ← List.append_nil (escapeChars _), tokens_escapeChars hr]
    simp [tokens, CodeFragment.tokens]
  | placeholder payload =>
    obtain ⟨template, hr, rfl⟩ := map_eq_ok_iff.1 h
    obtain ⟨pieces, hp, rfl⟩ := map_eq_ok_iff.1 hr
    rw [source, hp, CodeTemplate.tokens_fragments_assemble]

theorem fragments_of_codeFragments (h : piece.codeFragments = .ok parts) :
    piece.fragments = .ok (parts.map CodeFragment.characters) := by
  cases piece with
  | text words =>
    cases h
    simp [fragments, CodeFragment.characters, textOf]
  | placeholder payload =>
    obtain ⟨template, hr, rfl⟩ := map_eq_ok_iff.1 h
    rw [fragments, CodeTemplate.parse_eq, hr, map_ok, map_ok,
      CodeTemplate.fragments_characters]

end Content

namespace Contents

variable {contents : Contents}

theorem toList_body (contents : Contents) :
    contents.body.toList = (contents.map Content.source).flatten := by
  rw [body, String.toList_join, List.flatMap_map, ← List.flatMap_def]
  refine List.flatMap_congr fun piece _ => ?_
  cases piece with
  | text words => exact String.toList_ofList
  | placeholder payload => rfl

theorem exists_codeFragments
    (hp : ∀ payload ∈ contents.payloads, (Template.parse payload).isOk) :
    ∃ parts, contents.mapM Content.codeFragments = .ok parts := by
  refine exists_of_isOk ?_
  rw [isOk_mapM, List.all_eq_true]
  intro piece hm
  cases piece with
  | text words => rfl
  | placeholder payload =>
    have h := hp payload (List.mem_filterMap.2 ⟨_, hm, rfl⟩)
    rw [CodeTemplate.parse_eq, isOk_map] at h
    rw [Content.codeFragments, isOk_map, h]

variable {parts : List (List CodeFragment)}

theorem tokens_sources (h : contents.mapM Content.codeFragments = .ok parts) :
    (contents.map Content.source).mapM (tokens 0 0) =
      .ok (parts.map (·.flatMap CodeFragment.tokens)) := by
  rw [mapM_eq_ok_iff_forall₂] at h ⊢
  rw [List.forall₂_map_left_iff, List.forall₂_map_right_iff]
  exact h.imp fun _ _ => Content.tokens_source

theorem fragments_of_codeFragments (h : contents.mapM Content.codeFragments = .ok parts) :
    contents.mapM Content.fragments = .ok (parts.map (·.map CodeFragment.characters)) := by
  rw [mapM_eq_ok_iff_forall₂] at h ⊢
  rw [List.forall₂_map_right_iff]
  exact h.imp fun _ _ => Content.fragments_of_codeFragments

end Contents

open Contents

/-- **A body reads as its pieces do**, one after the other, where each payload reads by itself and
no piece runs into the next one that is not empty: it reads as the template of their fragments,
texts as code points, and its characters are those of that template. They are also those of the
fragments by themselves, unless a text ends in half of a surrogate pair. -/
theorem parse_body_of_separate {contents : Contents}
    (hp : ∀ payload ∈ contents.payloads, (Template.parse payload).isOk)
    (hc : ((contents.map Content.source).filter (· ≠ [])).IsChain IsSeparate) :
    ∃ parts, contents.mapM Content.codeFragments = .ok parts ∧
      CodeTemplate.read contents.body = .ok (CodeTemplate.ofFragments parts.flatten) ∧
      Template.parse contents.body =
        .ok (CodeTemplate.ofFragments parts.flatten).characters ∧
      ((∀ part ∈ parts.flatten, part.isHalved = false) →
        ∃ fragments, contents.mapM Content.fragments = .ok fragments ∧
          Template.parse contents.body = .ok (Template.ofFragments fragments.flatten)) := by
  obtain ⟨parts, hm⟩ := exists_codeFragments hp
  have hr : CodeTemplate.read contents.body = .ok (CodeTemplate.ofFragments parts.flatten) := by
    have hf : (parts.map (·.flatMap CodeFragment.tokens)).flatten =
        parts.flatten.flatMap CodeFragment.tokens := by
      rw [List.flatMap_def, List.map_flatten, List.flatten_flatten, List.map_map]
      rfl
    rw [CodeTemplate.read, toList_body, tokens_flatten (tokens_sources hm) hc, map_ok, hf,
      CodeTemplate.assemble_tokens]
  have ht : Template.parse contents.body =
      .ok (CodeTemplate.ofFragments parts.flatten).characters := by
    rw [CodeTemplate.parse_eq, hr, map_ok]
  refine ⟨parts, hm, hr, ht, fun hh => ⟨_, fragments_of_codeFragments hm, ?_⟩⟩
  rw [ht, CodeTemplate.characters_ofFragments hh, List.map_flatten]

/-- Pieces may end in what another one would go on with, a slot may hold the character that closes
it, and two payloads may be the two halves of a surrogate pair. -/
theorem parse_body_of_separate_halves :
    let contents : Contents := [.text "a$", .text "", .placeholder "\\uD83D",
      .placeholder "\\uDE00", .placeholder "$\x7bf('\x7d')\x7dx$", .text "\x60\x7b\r",
      .placeholder "p\\\r", .text "b"]
    (∀ payload ∈ contents.payloads, (Template.parse payload).isOk) ∧
      ((contents.map Content.source).filter (· ≠ [])).IsChain IsSeparate ∧
      ∃ parts, contents.mapM Content.codeFragments = .ok parts ∧
        CodeTemplate.read contents.body = .ok (CodeTemplate.ofFragments parts.flatten) ∧
        Template.parse contents.body =
          .ok (CodeTemplate.ofFragments parts.flatten).characters := by
  intro contents
  have hp : ∀ payload ∈ contents.payloads, (Template.parse payload).isOk := by decide +kernel
  have hc : ((contents.map Content.source).filter (· ≠ [])).IsChain IsSeparate := by
    decide +kernel
  obtain ⟨parts, hm, hr, ht, -⟩ := parse_body_of_separate hp hc
  exact ⟨hp, hc, parts, hm, hr, ht⟩

end Polyglot
