import Polyglot.Project.Output
import Polyglot.Proofs.Files.Session
import Polyglot.Proofs.Locale.Grammar
import Mathlib.Data.List.Nodup

/-!
# Where copies are written

Writing a program answers the paths of all copies, one for each locale and file
(`yields_writeOutput`). Files whose names are relative paths have their copies below the directory
of the locale, and two copies have one path only if they are for the same locale and the names of
their files spell the same path. A file whose name is an anchored path has the copies for all
locales at that path. So no copy takes the place of another just where all names are relative and
spell different paths: `nodup_outputPaths`.

The names of the files of a program are different texts. That does not make them different paths.
-/

namespace Polyglot

open Files (Path Session)

/-! ### What is written -/

namespace Localize

variable {program : Scope.Program} {locale : String} {translations : Option (List Message)}
  {requested : Int} {file out : Source.SourceFile}

theorem fileName_of_localizeFile
    (h : (localizeFile program locale translations requested file).Returns out) :
    out.fileName = file.fileName := by
  obtain ⟨limit, _, h⟩ := Run.Returns.of_bind h
  unfold copyFile at h
  split at h
  · exact absurd h Run.Returns.not_throw
  · obtain ⟨copies, _, h⟩ := Run.Returns.of_bind h
    cases Run.Returns.of_pure h
    rfl

theorem map_fileName_of_localizeProgram {copies : List Source.SourceFile}
    (h : (localizeProgram program locale translations requested).Returns copies) :
    copies.map (·.fileName) = program.files.map (·.fileName) :=
  h.map_of_mapM fun _ _ => fileName_of_localizeFile

end Localize

namespace Config

variable {config : Config} {locale other : String} {name next : String}

/-- The paths of the copies of all files for a locale. -/
def copyPaths (config : Config) (program : Scope.Program) (locale : String) : List Path :=
  program.files.map fun file => config.outputPath locale file.fileName

/-- The paths of the copies of all files, locale by locale. -/
def outputPaths (config : Config) (program : Scope.Program) : List Path :=
  config.allLocales.flatMap (config.copyPaths program)

theorem yields_writeLocale (program : Scope.Program) (locale : String)
    (translations : Option (List Message)) :
    (config.writeLocale program locale translations).Yields
      (· = config.copyPaths program locale) := by
  refine Session.Yields.ofRun.bind fun copies hc => ?_
  have hwritten (copy : Source.SourceFile) :
      (config.writeCopy locale copy).Yields (config.outputPath locale copy.fileName = ·) :=
    .andThen fun _ => .andThen fun _ => .pure rfl
  refine (Session.Yields.isPostcondition.mapM fun copy _ => hwritten copy).bind fun paths hp => ?_
  refine .andThen fun _ => .pure ?_
  rw [← List.forall₂_map_left_iff, List.forall₂_eq_eq_eq] at hp
  calc paths = (copies.map (·.fileName)).map (config.outputPath locale) := by
        rw [← hp, List.map_map]
        rfl
    _ = (program.files.map (·.fileName)).map (config.outputPath locale) := by
        rw [Localize.map_fileName_of_localizeProgram hc]
    _ = config.copyPaths program locale := List.map_map

theorem map_fst_of_translationsByLocale {translations : List (String × List Message)}
    {versions : List (String × Option (List Message))}
    (h : (config.translationsByLocale translations).Returns versions) :
    versions.map Prod.fst = config.allLocales := by
  obtain ⟨targets, ht, h⟩ := Run.Returns.of_bind h
  cases Run.Returns.of_pure h
  rw [allLocales, List.map_cons]
  refine congrArg _ ((ht.map_of_mapM (k := id) fun locale version hv => ?_).trans (List.map_id _))
  obtain ⟨first, _, hv⟩ := Run.Returns.of_bind hv
  cases Run.Returns.of_pure hv
  rfl

theorem yields_writeOutput (program : Scope.Program) (translations : List (String × List Message))
    (sources : Option (List ProgramMessage)) :
    (config.writeOutput program translations sources).Yields fun written =>
      written = config.allLocales.map fun locale => (locale, config.copyPaths program locale) := by
  have hcopies : (do
      config.writeLocaleCodes
      let versions ← config.translationsByLocale translations
      Tasks.perform (versions.map fun version =>
        (version.1, config.writeLocale program version.1 version.2)) : Session _).Yields
        fun written =>
      written = config.allLocales.map fun locale => (locale, config.copyPaths program locale) := by
    refine .andThen fun _ => Session.Yields.ofRun.bind fun versions hv => ?_
    have htasks : ∀ task ∈ versions.map fun version =>
        (version.1, config.writeLocale program version.1 version.2),
        task.2.Yields (· = config.copyPaths program task.1) := by
      intro task ht
      obtain ⟨version, _, rfl⟩ := List.mem_map.1 ht
      exact yields_writeLocale program version.1 version.2
    refine (Session.Yields.perform htasks).mono fun written hw => ?_
    rw [hw, ← map_fst_of_translationsByLocale hv, List.map_map, List.map_map]
    rfl
  unfold writeOutput
  cases sources with
  | none => exact hcopies
  | some sources => exact .andThen fun _ => hcopies

/-! ### Paths of copies -/

/-- The path that the name of a file spells. -/
def namePath (file : Source.SourceFile) : Path :=
  .parse file.fileName

theorem localeDirectory_of_mem (hl : locale ∈ config.allLocales) :
    config.localeDirectory locale = config.outputDirectory.child locale := by
  have hparse := (Locale.isSafeName_of_isCode (config.isCode_of_mem locale hl)).parse
  rw [localeDirectory, hparse, Path.join_of_here rfl, Path.child]

theorem outputPath_of_here (hl : locale ∈ config.allLocales)
    (hn : (Path.parse name).anchor = .here) :
    config.outputPath locale name =
      ⟨config.outputDirectory.anchor,
        config.outputDirectory.names ++ locale :: (Path.parse name).names⟩ := by
  rw [outputPath, localeDirectory_of_mem hl, Path.join_of_here hn, Path.child, List.append_assoc]
  rfl

theorem outputPath_of_isAnchored (hn : (Path.parse name).isAnchored) :
    config.outputPath locale name = .parse name :=
  Path.join_of_anchored hn

/-- Copies of files with relative names that are written to one path are for one locale, and the
names spell one path. -/
theorem eq_of_text_outputPath_eq (hl : locale ∈ config.allLocales) (ho : other ∈ config.allLocales)
    (hn : (Path.parse name).anchor = .here) (hx : (Path.parse next).anchor = .here)
    (h : (config.outputPath locale name).text = (config.outputPath other next).text) :
    locale = other ∧ Path.parse name = Path.parse next := by
  have hslash {locale name : String} (hl : locale ∈ config.allLocales) :
      ∀ part ∈ locale :: (Path.parse name).names, '/' ∉ part.toList := by
    have hmem : locale ∈ (Path.parse locale).names := by
      rw [(Locale.isSafeName_of_isCode (config.isCode_of_mem locale hl)).parse]
      exact List.mem_cons_self
    exact List.forall_mem_cons.2
      ⟨Path.slash_not_mem_of_mem_parse hmem, fun _ => Path.slash_not_mem_of_mem_parse⟩
  rw [outputPath_of_here hl hn, outputPath_of_here ho hx] at h
  obtain ⟨rfl, hnames⟩ := List.cons.inj (Path.names_eq_of_text_eq (List.cons_ne_nil _ _)
    (List.cons_ne_nil _ _) (hslash hl) (hslash ho) h)
  refine ⟨rfl, ?_⟩
  calc Path.parse name = ⟨(Path.parse name).anchor, (Path.parse name).names⟩ := rfl
    _ = Path.parse next := by rw [hn, hnames, ← hx]

theorem map_text_outputPaths (config : Config) (program : Scope.Program) :
    (config.outputPaths program).map Path.text =
      config.allLocales.flatMap fun locale =>
        program.files.map fun file => (config.outputPath locale file.fileName).text := by
  simp only [outputPaths, copyPaths, List.map_flatMap, List.map_map, Function.comp_def]

/-- The copies for one locale of files with relative names are at different paths just where the
names spell different paths. -/
theorem nodup_copies_iff {files : List Source.SourceFile} (hl : locale ∈ config.allLocales)
    (hr : ∀ file ∈ files, (namePath file).anchor = .here) :
    (files.map fun file => (config.outputPath locale file.fileName).text).Nodup ↔
      (files.map namePath).Nodup := by
  have hmap : (files.map fun file => (config.outputPath locale file.fileName).text) =
      (files.map namePath).map fun path => ((config.localeDirectory locale).join path).text := by
    rw [List.map_map]
    rfl
  rw [hmap]
  refine ⟨List.Nodup.of_map _, List.Nodup.map_on ?_⟩
  intro path hp next hq h
  obtain ⟨file, hf, rfl⟩ := List.mem_map.1 hp
  obtain ⟨other, ho, rfl⟩ := List.mem_map.1 hq
  exact (eq_of_text_outputPath_eq hl hl (hr file hf) (hr other ho) h).2

/-- **Which copies take the place of others.** Writing a program answers the paths of its copies. If
the names of its files are all relative paths, then all copies for all locales are at paths that are
spelled differently just where the names spell different paths. Where there is a second locale, this
takes names that are all relative. -/
theorem nodup_outputPaths (config : Config) (program : Scope.Program) :
    (∀ translations sources, (config.writeOutput program translations sources).Yields
      fun written => written.flatMap Prod.snd = config.outputPaths program) ∧
    ((∀ file ∈ program.files, (namePath file).anchor = .here) →
      (((config.outputPaths program).map Path.text).Nodup ↔
        (program.files.map namePath).Nodup)) ∧
    (config.targetLocales ≠ [] → ((config.outputPaths program).map Path.text).Nodup →
      ∀ file ∈ program.files, (namePath file).anchor = .here) := by
  rw [map_text_outputPaths, List.nodup_flatMap]
  refine ⟨fun translations sources => ?_, ?_, ?_⟩
  · refine (yields_writeOutput program translations sources).mono fun written hw => ?_
    rw [hw, List.flatMap_map]
    rfl
  · intro hr
    constructor
    · rintro ⟨hcopies, -⟩
      exact (nodup_copies_iff List.mem_cons_self hr).1
        (hcopies config.sourceLocale List.mem_cons_self)
    · intro hn
      refine ⟨fun locale hl => (nodup_copies_iff hl hr).2 hn, ?_⟩
      refine (List.Pairwise.and_mem.1 config.nodup_locales).imp ?_
      rintro locale other ⟨hl, ho, hne⟩ text ht hs
      obtain ⟨file, hf, rfl⟩ := List.mem_map.1 ht
      obtain ⟨next, hx, heq⟩ := List.mem_map.1 hs
      exact hne (eq_of_text_outputPath_eq ho hl (hr next hx) (hr file hf) heq).1.symm
  · rintro ht ⟨-, hdisjoint⟩ file hf
    by_contra hn
    have hanchored : (Path.parse file.fileName).isAnchored := by
      simpa [Path.isAnchored, namePath] using hn
    obtain ⟨target, targets, htargets⟩ := List.exists_cons_of_ne_nil ht
    rw [allLocales, htargets, List.pairwise_cons] at hdisjoint
    -- the copies for the first two locales are at the same path
    refine hdisjoint.1 target List.mem_cons_self
      (List.mem_map_of_mem hf) (List.mem_map.2 ⟨file, hf, ?_⟩)
    rw [outputPath_of_isAnchored hanchored, outputPath_of_isAnchored hanchored]

/-- A project with two locales. -/
def bilingual : Config where
  sourceLocale := "en"
  targetLocales := ["de"]
  interchange := .xliff ⟨"xliff"⟩
  output := ⟨"out", none⟩
  base := ⟨.root, ["project"]⟩
  isCode_of_mem := by decide +kernel
  nodup_locales := by decide

/-- The four copies of two files, one of them in a directory of its own. -/
theorem nodup_outputPaths_nested :
    ((bilingual.outputPaths ⟨[⟨[], "app.ts"⟩, ⟨[], "./view//app.ts"⟩], []⟩).map Path.text).Nodup :=
  ((nodup_outputPaths bilingual _).2.1 (by decide +kernel)).2 (by decide +kernel)

/-- The names of the files of a program may be different texts and spell one path. -/
theorem not_forall_nodup_outputPaths :
    ¬∀ (config : Config) (files : List Source.SourceFile) (modules : List Scope.Module)
      (program : Scope.Program), Scope.Program.make files modules = .ok program →
        ((config.outputPaths program).map Path.text).Nodup := by
  intro h
  have hn := h bilingual [⟨[], "app.ts"⟩, ⟨[], "./app.ts"⟩] [] _ rfl
  rw [map_text_outputPaths, List.nodup_flatMap] at hn
  have hpaths := (nodup_copies_iff List.mem_cons_self (by decide +kernel)).1
    (hn.1 bilingual.sourceLocale List.mem_cons_self)
  exact absurd hpaths (by decide +kernel)

end Config

end Polyglot
