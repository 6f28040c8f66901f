import Polyglot.Interchange.Document
import Polyglot.Proofs.Message.First
import Polyglot.Proofs.Results
import Polyglot.Proofs.Xml.RoundTrip

/-!
# Documents read into bundles

What it takes for a document to be read into a bundle: the grammar and the rules about names hold,
and its tree has a locale and messages. A written document always has a tree, its own one, joined.
-/

namespace Polyglot

namespace Interchange

open Xml

variable {readRoot : Node → Except Diagnostic (String × List Message)} {text : String}
  {path : Option String} {bundle : Bundle} {root : Node}

/-! ### The three ways of reading -/

theorem perform_readDocument_of_malformed (h : parse text = none) :
    (readDocument readRoot text path).perform = (.error (.parse
      ⟨.diagnostic (.xmlMalformed "it breaks the rules of XML" path), path⟩), []) := by
  rw [readDocument, readText, h]
  rfl

theorem perform_readDocument_of_stray {name : String} (h : parse text = some root)
    (hs : Namespaces.strayName? [] root = some name) :
    (readDocument readRoot text path).perform = (.error (.value (.invalidTagName name)), []) := by
  rw [readDocument, readText, h]
  dsimp only
  rw [hs]
  rfl

/-- Where every element has a local name, reading is up to the format. -/
theorem perform_readDocument_of_root (h : parse text = some root)
    (hs : Namespaces.strayName? [] root = none) :
    (readDocument readRoot text path).perform =
      match readRoot root with
      | .ok (locale, messages) =>
        (Bundle.ofFirst locale messages, duplicateEvents (some locale) messages)
      | .error d => (.error (.parse ((ParseFailure.ofDiagnostic d).locateIn path)), []) := by
  rw [readDocument, readText, h]
  dsimp only
  rw [hs]
  cases readRoot root <;> rfl

/-! ### Reading into a bundle -/

theorem perform_readDocument : (readDocument readRoot text path).perform.1 =
    (readText readRoot text path).bind fun (locale, messages) =>
      Bundle.ofFirst locale messages := by
  cases h : readText readRoot text path <;> simp only [readDocument, h] <;> rfl

theorem readText_eq_ok_iff {answer : String × List Message} :
    readText readRoot text path = .ok answer ↔
      ∃ root, parse text = some root ∧ Namespaces.strayName? [] root = none ∧
        readRoot root = .ok answer := by
  unfold readText
  cases parse text with
  | none => simp
  | some root =>
    cases hs : Namespaces.strayName? [] root with
    | some name => simp [hs]
    | none =>
      cases hr : readRoot root <;> simp [hs, hr, Except.mapError]

/-- Reading succeeds with a bundle just where the tree has its locale and messages of which it keeps
the first of each name. -/
theorem readDocument_eq_ok_iff : (readDocument readRoot text path).perform.1 = .ok bundle ↔
    ∃ root messages, parse text = some root ∧ Namespaces.strayName? [] root = none ∧
      readRoot root = .ok (bundle.locale, messages) ∧
        bundle.messages = firstOfEach Message.name messages := by
  rw [perform_readDocument]
  constructor
  · intro h
    obtain ⟨⟨locale, messages⟩, hr, hb⟩ := bind_eq_ok_iff.1 h
    obtain ⟨root, hp, hs, hr⟩ := readText_eq_ok_iff.1 hr
    obtain ⟨rfl, hm⟩ := Bundle.ofFirst_eq_ok_iff.1 hb
    exact ⟨root, messages, hp, hs, hr, hm⟩
  · rintro ⟨root, messages, hp, hs, hr, hm⟩
    exact bind_eq_ok_iff.2 ⟨_, readText_eq_ok_iff.2 ⟨root, hp, hs, hr⟩,
      Bundle.ofFirst_eq_ok_iff.2 ⟨rfl, hm⟩⟩

/-- A written document is read by what is read of its tree, joined. -/
theorem readDocument_writeDocument {levels : Nat} {name : String} {attributes : List Attribute}
    {children : List Node} (h : Node.Writable levels [] (.element name attributes children))
    (hl : levels ≤ Review.maxDepth) :
    (readDocument readRoot (Node.element name attributes children).writeDocument path).perform.1 =
        .ok bundle ↔
      ∃ messages, readRoot (Node.element name attributes children).joined =
          .ok (bundle.locale, messages) ∧ bundle.messages = firstOfEach Message.name messages := by
  rw [readDocument_eq_ok_iff, Node.parse_writeDocument h hl]
  constructor
  · rintro ⟨root, messages, hr, -, h⟩
    exact ⟨messages, Option.some.inj hr ▸ h⟩
  · rintro ⟨messages, hm⟩
    exact ⟨_, messages, rfl, h.strayName?, hm⟩

end Interchange

end Polyglot
