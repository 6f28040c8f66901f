import Polyglot.Proofs.Localize.Calls
import Polyglot.Proofs.Localize.Settled
import Polyglot.Proofs.Scope.Renames

/-!
# Code that has nothing to do with localization

A file may use names of the localization library for things of its own: a parameter, a constant, an
export of another module. Let no import of the file name a module of the library, no reference in it
mean an export of the library where it stands, and no markup have a string, a template or markup in
a slot. Then the copy is the file itself, or the file is too high for the limit:
`localizeFile_of_unrelated`.

A declaration is looked at by its name, which is no reference of the file. It counts by what it
stands for, and that is a reference in the same scope.
-/

namespace Polyglot.Localize

open Source Scope

section Files

variable {program : Program} {file : SourceFile}

/-- No rule applies to a file without references to the library, imports of it and literals in slots
of markup. -/
theorem allSettled_of_unrelated
    (hi : ∀ d, Node.Within (.importDeclaration d) file.toNode →
      ¬program.isLocalizeModule d.specifier)
    (hr : ∀ inner reference e, Stands inner reference (.ofFile program file) file.toNode →
      inner.resolve? reference = some e → ¬IsLibraryExport program e)
    (hf : file.toNode.Everywhere (IsFlat true)) :
    AllSettled (.ofFile program file) file.toNode := by
  intro inner node hs
  have hprogram : inner.program = program := program_of_stands hs
  refine isSettled_of_not_isLibraryExport (fun reference hn e he => ?_) (fun x hx e he => ?_)
    (fun d hd => ?_) (hf node hs.within)
  · rw [hprogram]
    exact hr inner reference e (hn.trans hs) he
  · -- the name itself stands nowhere, so the hypothesis is used at what it stands for
    obtain ⟨frame, hframe, target, ht, he⟩ := exists_rename_of_resolve? hx he
    rw [hprogram]
    exact hr inner target e (renamesStand_ofFile hs frame hframe x target ht) he
  · subst hd
    rw [importsLocalizeModule, hprogram]
    exact hi d hs.within

/-- **Unrelated code is untouched.** No import of a well-typed file names a module of the library,
no reference in it means an export that plays a part or is the status event, and no markup template
has a string, a template or markup in a slot. Then the copy is the file itself for every locale and
with any translations; only where the file is too high for the limit there is none, and this is the
only failure. Nothing but a limit that was lowered is reported. -/
theorem localizeFile_of_unrelated (hw : file.IsWellTyped)
    (hi : ∀ d, Node.Within (.importDeclaration d) file.toNode →
      ¬program.isLocalizeModule d.specifier)
    (hr : ∀ inner reference e, Stands inner reference (.ofFile program file) file.toNode →
      inner.resolve? reference = some e → ¬IsLibraryExport program e)
    (hf : file.toNode.Everywhere (IsFlat true))
    (locale : String) (translations : Option (List Message)) (requested : Int) :
    (localizeFile program locale translations requested file).perform =
        (.ok file, Depth.clampEvents Depth.standardReserve requested) ∨
      ¬file.toNode.NoHigher (Depth.clamp Depth.standardReserve requested).toNat ∧
        (localizeFile program locale translations requested file).perform =
          (.error (.depth (Depth.clamp Depth.standardReserve requested)),
            Depth.clampEvents Depth.standardReserve requested) :=
  perform_of_allSettled hw (allSettled_of_unrelated hi hr hf)

end Files

/-! ### A page with names of its own -/

/-- A file with a parameter, a constant and an import that have names of the library. -/
def pageFile : SourceFile where
  fileName := "page.ts"
  statements := [
    .importDeclaration { specifier := "strings", named := [⟨"msg", none⟩] },
    .classDeclaration "Page" none [.methodDeclaration "title" [⟨"localized", none⟩] [
      .variableDeclaration "say" (some (.identifier "msg")) "const" false,
      .returnStatement (some (.callExpression (.identifier "say") [
        .taggedTemplate (.identifier richTag) (.templateLiteral "<b>" [.templateSpan
          (.callExpression (.identifier "localized") [.stringLiteral "Hi"]) "</b>"])]))]] true]

/-- A program with the file, the library and the module that the file imports. -/
def pageProgram : Program where
  files := [pageFile]
  modules := [
    ⟨"library", [
      { name := "msg", marks := [Role.message.mark], module := "library" },
      { name := "localized", marks := [Role.localized.mark], module := "library" }]⟩,
    ⟨"strings", [{ name := "msg", module := "strings" }]⟩]

theorem eq_strings_of_within {d : ImportDeclaration}
    (h : Node.Within (.importDeclaration d) pageFile.toNode) : d.specifier = "strings" := by
  obtain ⟨inner, h⟩ := exists_stands_of_within (.ofFile pageProgram pageFile) h
  generalize Scope.ofFile pageProgram pageFile = scope at h
  simp only [SourceFile.toNode, pageFile, stands_iff, reduceCtorEq, and_false, Node.children,
    standsIn_cons, standsIn_nil, or_self, Option.toList_some, Option.toList_none, List.nil_append,
    Node.importDeclaration.injEq, or_false, false_or] at h
  rw [h.2]

/-- The only markup of the page has a call in its slot. -/
theorem isFlat_page : pageFile.toNode.Everywhere (IsFlat true) := by
  intro part hp template ht span hspan
  obtain ⟨inner, h⟩ := exists_stands_of_within (.ofFile pageProgram pageFile) hp
  obtain ⟨head, spans, rfl, rfl⟩ := richTemplate?_eq_some ht
  generalize Scope.ofFile pageProgram pageFile = scope at h
  simp only [SourceFile.toNode, pageFile, stands_iff, reduceCtorEq, and_false, Node.children,
    standsIn_cons, standsIn_nil, or_self, Option.toList_some, Option.toList_none, List.nil_append,
    Node.taggedTemplate.injEq, Node.templateLiteral.injEq, or_false, false_or] at h
  obtain ⟨-, -, rfl, rfl⟩ := h
  rw [List.mem_singleton.1 hspan]
  rfl

/-- What the page refers to is the export of the module that it imports. -/
theorem not_isLibraryExport_page {inner : Scope} {reference : Node} {e : Export}
    (h : Stands inner reference (.ofFile pageProgram pageFile) pageFile.toNode)
    (hr : inner.resolve? reference = some e) : ¬IsLibraryExport pageProgram e := by
  obtain ⟨d, name, hd, he⟩ := exists_import_of_resolve? h hr
  rw [eq_strings_of_within (.inside hd .here)] at he
  have hmodule : pageProgram.module? "strings" =
      some ⟨"strings", [{ name := "msg", module := "strings" }]⟩ := rfl
  have hget := (Program.follow_of_declares hmodule (by decide)).symm.trans he
  rw [List.mem_singleton.1 (List.mem_of_find?_eq_some hget)]
  rintro (hplays | ⟨hname, -⟩)
  · exact absurd hplays (by decide)
  · exact absurd hname (by decide)

theorem localizeFile_of_unrelated_page :
    pageFile.IsWellTyped ∧
    (∀ d, Node.Within (.importDeclaration d) pageFile.toNode →
      ¬pageProgram.isLocalizeModule d.specifier) ∧
    (∀ inner reference e, Stands inner reference (.ofFile pageProgram pageFile) pageFile.toNode →
      inner.resolve? reference = some e → ¬IsLibraryExport pageProgram e) ∧
    pageFile.toNode.Everywhere (IsFlat true) ∧ pageFile.toNode.NoHigher 100 ∧
    (localizeFile pageProgram "de" (some []) 100 pageFile).perform = (.ok pageFile, []) := by
  have hw : pageFile.IsWellTyped := by decide
  have hi (d : ImportDeclaration) (h : Node.Within (.importDeclaration d) pageFile.toNode) :
      ¬pageProgram.isLocalizeModule d.specifier := by
    rw [eq_strings_of_within h]
    decide
  have hl : pageFile.toNode.NoHigher 100 := by decide
  have hperform := localizeFile_of_unrelated hw hi (fun _ _ _ => not_isLibraryExport_page)
    isFlat_page "de" (some []) 100
  exact ⟨hw, hi, fun _ _ _ => not_isLibraryExport_page, isFlat_page, hl,
    hperform.resolve_right fun h => h.1 hl⟩

end Polyglot.Localize
