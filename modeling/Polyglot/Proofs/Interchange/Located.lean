import Polyglot.Proofs.Interchange.Rewrite
import Polyglot.Proofs.Interchange.Xlb

/-!
# Findings and the file they are in

A document is read in the same way whether the file that held it is known or not: into the same
bundle, or with the same finding, with the path in front of its place once. The one failure that is
no finding and names no file is that of an element without a local name, in a document that breaks
a rule of namespaces and is accepted nevertheless. Main statement: `locatesOnly`.
-/

namespace Polyglot

/-- The finding in a file: its place, if it has one, behind the path. -/
def Diagnostic.within (path : String) (d : Diagnostic) : Diagnostic :=
  { d with
    location := some (match d.location with
      | none => path
      | some place => path ++ ": " ++ place) }

namespace Interchange

open Xml Node

variable {readRoot : Node → Except Diagnostic (String × List Message)} {text path : String}

/-- Every element of a document that is accepted has a local name. -/
def HasLocalNames (text : String) : Prop :=
  ∀ root, Xml.parse text = some root → Namespaces.strayName? [] root = none

/-- What reading comes to without a path and with one. -/
inductive Located (text path : String) : Except Failure Bundle → Except Failure Bundle → Prop
  | bundle (hn : HasLocalNames text) (bundle : Bundle) : Located text path (.ok bundle) (.ok bundle)
  | finding (hn : HasLocalNames text) (d : Diagnostic) (hd : d.location ≠ some "") :
    Located text path (.error (.parse ⟨.diagnostic d, none⟩))
      (.error (.parse ⟨.diagnostic (d.within path), some path⟩))
  | stray (name : String)
      (hn : ∃ root, Xml.parse text = some root ∧ Namespaces.strayName? [] root = some name) :
    Located text path (.error (.value (.invalidTagName name)))
      (.error (.value (.invalidTagName name)))

/-- The path makes no difference to how a format reads the text but for the place of a finding. -/
def LocatesOnly (parse : String → Option String → Run Bundle) (text path : String) : Prop :=
  Located text path (parse text none).perform.1 (parse text (some path)).perform.1 ∧
    (parse text none).perform.2 = (parse text (some path)).perform.2

/-! ### Findings of the formats -/

/-- The finding has no place or one that is not empty. -/
def IsPlaced (d : Diagnostic) : Prop :=
  d.location ≠ some ""

theorem isPlaced_of_eq_none {d : Diagnostic} (h : d.location = none) : IsPlaced d := by
  simp [IsPlaced, h]

theorem isPlaced_of_unit {d : Diagnostic} (tag name : String)
    (h : d.location = some (Diagnostic.unitLocation tag name)) : IsPlaced d := by
  simp [IsPlaced, h, Diagnostic.unitLocation]

theorem locateIn_some {d : Diagnostic} (h : IsPlaced d) (path : String) :
    (ParseFailure.ofDiagnostic d).locateIn (some path) =
      ⟨.diagnostic (d.within path), some path⟩ := by
  have hl : ParseFailure.locatedAt path d.location = match d.location with
      | none => path
      | some place => path ++ ": " ++ place := by
    cases hp : d.location with
    | none => rfl
    | some place =>
      have hne : place ≠ "" := fun he => h (he ▸ hp)
      simp [ParseFailure.locatedAt, Diagnostic.present, Option.filter, hne]
  rw [Diagnostic.within, ← hl]
  rfl

theorem isPlaced_requireAttribute (key : String) (node : Node) :
    FailsWith IsPlaced (requireAttribute key node) := by
  rw [requireAttribute]
  split_ifs
  · exact .error (isPlaced_of_eq_none rfl)
  · exact .ok _

theorem isPlaced_requireOne (name : String) (node : Node) :
    FailsWith IsPlaced (requireOne name node) := by
  rw [requireOne]
  split
  · exact .error (isPlaced_of_eq_none rfl)
  · exact .ok _
  · exact .error (isPlaced_of_eq_none rfl)

theorem isPlaced_readContents (tag name : String) (nodes : List Node) :
    FailsWith IsPlaced (readContents tag name nodes) := by
  fun_induction readContents tag name nodes with
  | case1 => exact .ok _
  | case2 _ _ ih => exact ih.bind fun _ => .ok _
  | case3 _ _ _ _ payload _ ih => exact ih.bind fun _ => .ok _
  | case4 => exact .error (isPlaced_of_unit tag name rfl)
  | case5 => exact .error (isPlaced_of_unit tag name rfl)

/-- A format's function on trees: it answers no empty locale, and its findings are placed. -/
structure ReadsRoots (readRoot : Node → Except Diagnostic (String × List Message)) : Prop where
  locale_ne : ∀ root locale messages, readRoot root = .ok (locale, messages) → locale ≠ ""
  placed : ∀ root, FailsWith IsPlaced (readRoot root)

/-- Both formats look for one element with the locale, and then for messages. -/
theorem ReadsRoots.of_requireOne (tag key : String)
    {readAll : Node → Node → Except Diagnostic (List Message)}
    (h : ∀ root file, FailsWith IsPlaced (readAll root file)) :
    ReadsRoots fun root => do
      let file ← requireOne tag root
      let locale ← requireAttribute key file
      return (locale, ← readAll root file) where
  locale_ne root locale messages h := by
    obtain ⟨file, -, h⟩ := bind_eq_ok_iff.1 h
    obtain ⟨value, -, h⟩ := bind_eq_ok_iff.1 h
    obtain ⟨out, -, h⟩ := bind_eq_ok_iff.1 h
    exact (Prod.mk.inj (Except.ok.inj h)).1 ▸ value.2
  placed root := (isPlaced_requireOne tag root).bind fun file =>
    (isPlaced_requireAttribute key file).bind fun _ => (h root file).bind fun _ => .ok _

theorem Xlb.readsRoots : ReadsRoots Xlb.readRoot := by
  refine .of_requireOne "localizationbundle" "locale" fun root _ => .mapM fun unit _ => ?_
  exact (isPlaced_requireAttribute _ unit).bind fun name =>
    (isPlaced_readContents _ _ _).bind fun _ => .ok _

theorem Xliff.readsRoots : ReadsRoots Xliff.readRoot := by
  have hr : Xliff.readRoot = fun root => do
      let file ← requireOne "file" root
      let locale ← requireAttribute "target-language" file
      return (locale, ← List.filterMap id <$> (file.elementsNamed "trans-unit").mapM readUnit) :=
    funext fun root => by simp only [Xliff.readRoot, map_eq_pure_bind, bind_assoc, pure_bind]
  rw [hr]
  refine .of_requireOne "file" "target-language" fun _ file =>
    FailsWith.map (.mapM fun unit _ => ?_)
  refine (isPlaced_requireAttribute _ unit).bind fun value => ?_
  obtain ⟨name, -⟩ := value
  dsimp only
  split
  · exact .ok _
  · exact (isPlaced_readContents _ _ _).bind fun _ => .ok _
  · exact .error (isPlaced_of_unit "trans-unit" name rfl)

/-! ### Documents -/

theorem exists_ofFirst_eq_ok {locale : String} (h : locale ≠ "") (messages : List Message) :
    ∃ bundle, Bundle.ofFirst locale messages = .ok bundle :=
  (Bundle.exists_of_messages h messages).imp fun _ => Bundle.ofFirst_eq_ok_iff.2

theorem ReadsRoots.locatesOnly_readDocument (h : ReadsRoots readRoot) (text path : String) :
    LocatesOnly (readDocument readRoot) text path := by
  rw [LocatesOnly]
  cases hp : Xml.parse text with
  | none =>
    have hn : HasLocalNames text := fun root hr => nomatch hp.symm.trans hr
    rw [perform_readDocument_of_malformed hp, perform_readDocument_of_malformed hp]
    exact ⟨.finding hn (.xmlMalformed _ none) nofun, rfl⟩
  | some root =>
    cases hs : Namespaces.strayName? [] root with
    | some name =>
      rw [perform_readDocument_of_stray hp hs, perform_readDocument_of_stray hp hs]
      exact ⟨.stray name ⟨root, hp, hs⟩, rfl⟩
    | none =>
      have hn : HasLocalNames text := fun other ho => Option.some.inj (hp.symm.trans ho) ▸ hs
      rw [perform_readDocument_of_root hp hs, perform_readDocument_of_root hp hs]
      cases hr : readRoot root with
      | error d =>
        have hd : IsPlaced d := h.placed root d hr
        refine ⟨?_, rfl⟩
        dsimp only
        rw [locateIn_some hd]
        exact .finding hn d hd
      | ok answer =>
        obtain ⟨locale, messages⟩ := answer
        obtain ⟨bundle, hb⟩ := exists_ofFirst_eq_ok (h.locale_ne root locale messages hr) messages
        refine ⟨?_, rfl⟩
        dsimp only
        rw [hb]
        exact .bundle hn bundle

/-- **A path only says where a finding is**, in both formats. -/
theorem locatesOnly (text path : String) :
    LocatesOnly Xlb.parse text path ∧ LocatesOnly Xliff.parse text path :=
  ⟨Xlb.readsRoots.locatesOnly_readDocument text path,
    Xliff.readsRoots.locatesOnly_readDocument text path⟩

/-- A document with a prefix that stands for no namespace. It is accepted because the instruction
behind it is worth a warning, and only the last finding counts. -/
def strayText : String :=
  "<localizationbundle locale='es'><x:msg name='m'>t</x:msg><?xmlfoo?></localizationbundle>"

theorem strayName?_strayText :
    (Xml.parse strayText).bind (Namespaces.strayName? []) = some "x:msg" := by
  have hl : strayText.toList = _ := String.toList_ofList
  rw [Xml.parse, hl]
  decide +kernel

/-- Not every document is read into a bundle or refused with a finding. -/
theorem not_forall_bundle_or_finding :
    ¬ ∀ text path, path ≠ "" →
      (∃ bundle, (Xlb.parse text none).perform.1 = .ok bundle ∧
        (Xlb.parse text (some path)).perform.1 = .ok bundle) ∨
      ∃ failure located, (Xlb.parse text none).perform.1 = .error (.parse failure) ∧
        (Xlb.parse text (some path)).perform.1 = .error (.parse located) := by
  intro h
  obtain ⟨root, hp, hs⟩ := Option.bind_eq_some_iff.1 strayName?_strayText
  have hf : (Xlb.parse strayText none).perform.1 = .error (.value (.invalidTagName "x:msg")) :=
    congrArg Prod.fst (perform_readDocument_of_stray hp hs)
  obtain ⟨bundle, hb, -⟩ | ⟨failure, located, hd, -⟩ := h strayText "es.xlb" (by decide)
  · cases hf.symm.trans hb
  · cases hf.symm.trans hd

end Interchange

end Polyglot
