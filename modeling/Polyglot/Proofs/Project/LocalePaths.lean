import Polyglot.Proofs.Locale.Grammar
import Polyglot.Proofs.Project.ConfigReader
import Mathlib.Data.List.Nodup

/-!
# The paths of locales

Whatever is accepted as a locale code is a proper name, also with an extension behind it. So the
documents and the directories of different locales are different paths directly below the one
directory they are made for: `Config.areApart_xliffPath` and `Config.areApart_localeDirectory`. The
locales of every configuration, and so of every one that is read, are accepted and differ:
`Config.closed_and_confined`.
-/

namespace Polyglot

open Files (Path)

theorem Locale.isProperName_of_isCode {code : String} (h : Locale.isCode code) :
    Path.IsProperName code := by
  have hsafe := Locale.isSafeName_of_isCode h
  have hname : code ∈ (Path.parse code).names := by simp [hsafe.parse]
  refine ⟨Path.slash_not_mem_of_mem_parse hname, ?_⟩
  simp only [List.mem_cons, List.not_mem_nil, or_false, not_or]
  -- neither the empty text nor a dot is read as a name
  refine ⟨?_, ?_, hsafe.ne_parent⟩
  · rintro rfl
    exact absurd hname (by decide +kernel)
  · rintro rfl
    exact absurd hname (by decide +kernel)

/-- Each of some texts has a place of its own directly below a directory. -/
structure AreApart (place : String → Path) (directory : Path) (texts : List String) : Prop where
  isChildOf : ∀ text ∈ texts, (place text).IsChildOf directory
  nodup : (texts.map fun text => (place text).text).Nodup

theorem AreApart.of_isProperName {directory : Path} {ending : String} {texts : List String}
    (hp : ∀ text ∈ texts, Path.IsProperName (text ++ ending)) (hn : texts.Nodup) :
    AreApart (fun text => directory.join (.parse (text ++ ending))) directory texts where
  isChildOf text ht := (hp text ht).isChildOf
  nodup := hn.map_on fun text ht other ho h =>
    (String.append_left_inj ending).1 ((hp text ht).eq_of_text_eq (hp other ho) h)

namespace Config

variable (config : Config) {codes : List String} (hc : ∀ code ∈ codes, Locale.isCode code)
  (hn : codes.Nodup)

include hc hn

/-- The XLIFF documents of different locale codes have places of their own. -/
theorem areApart_xliffPath (settings : XliffSettings) :
    AreApart (config.xliffPath settings) (config.xliffDirectory settings) codes :=
  .of_isProperName (fun code h => (Locale.isProperName_of_isCode (hc code h)).append (by decide)) hn

/-- The directories of different locale codes have places of their own. -/
theorem areApart_localeDirectory :
    AreApart config.localeDirectory config.outputDirectory codes := by
  have hproper : ∀ code ∈ codes, Path.IsProperName (code ++ "") :=
    fun code h => (Locale.isProperName_of_isCode (hc code h)).append (by decide)
  have happ : AreApart (fun code => config.outputDirectory.join (.parse (code ++ "")))
      config.outputDirectory codes := .of_isProperName hproper hn
  simp only [String.append_empty] at happ
  exact happ

omit hc hn

/-- **Configurations are closed and the paths of their locales confined.** A record is refused with
a fault of the configuration or of a locale, or it spells the configuration that is read from it,
whose locales differ and are accepted as locale codes. In every configuration the XLIFF documents of
the target locales and the directories of all locales are different paths directly below the
directory of documents and that of output. The same goes for any other locale codes. -/
theorem closed_and_confined :
    (∀ (fields : Setting.Fields) (base : Path),
      (∀ config, read fields base = .ok config ↔
        config.IsSpelledBy fields ∧ config.base = base) ∧
      ((∃ fault, read fields base = .error fault ∧
          (fault.diagnostic.code = .configInvalid ∨ fault.diagnostic.code = .localeInvalid)) ∨
        ∃ config, read fields base = .ok config ∧ config.allLocales.Nodup ∧
          ∀ code ∈ config.allLocales, Locale.check code = .ok code)) ∧
    ∀ config : Config,
      (∀ settings, config.xliff = .ok settings →
        AreApart (config.xliffPath settings) (config.xliffDirectory settings)
          config.targetLocales) ∧
      AreApart config.localeDirectory config.outputDirectory config.allLocales ∧
      ∀ codes : List String, (∀ code ∈ codes, Locale.isCode code) → codes.Nodup →
        (∀ settings, AreApart (config.xliffPath settings) (config.xliffDirectory settings) codes) ∧
        AreApart config.localeDirectory config.outputDirectory codes := by
  constructor
  · intro fields base
    refine ⟨fun config => read_eq_ok_iff, ?_⟩
    cases read fields base with
    | error fault => exact .inl ⟨fault, rfl, fault.code_diagnostic⟩
    | ok config =>
      exact .inr ⟨config, rfl, config.nodup_locales,
        fun code h => Locale.check_eq_ok_iff.2 ⟨config.isCode_of_mem code h, rfl⟩⟩
  · intro config
    obtain ⟨-, hn⟩ := List.nodup_cons.1 config.nodup_locales
    refine ⟨fun settings _ => ?_, ?_, fun codes hc hn => ⟨?_, ?_⟩⟩
    · exact config.areApart_xliffPath
        (fun code h => config.isCode_of_mem code (List.mem_cons_of_mem _ h)) hn settings
    · exact config.areApart_localeDirectory config.isCode_of_mem config.nodup_locales
    · exact config.areApart_xliffPath hc hn
    · exact config.areApart_localeDirectory hc hn

/-- The record of a project with two target locales. -/
def trilingualFields : Setting.Fields :=
  [("sourceLocale", .text "en"),
    ("targetLocales", .list [.text "de", .text "es-419"]),
    ("interchange", .record [("format", .text "xliff"), ("xliffDir", .text "xliff/")]),
    ("output", .record [("mode", .text "transform")])]

/-- The project with two target locales. -/
def trilingual : Config where
  sourceLocale := "en"
  targetLocales := ["de", "es-419"]
  interchange := .xliff ⟨"xliff/"⟩
  output := ⟨".", none⟩
  base := ⟨.root, ["project"]⟩
  isCode_of_mem := by decide +kernel
  nodup_locales := by decide

theorem isSpelledBy_trilingual : trilingual.IsSpelledBy trilingualFields where
  source := ⟨rfl, by decide⟩
  targets := rfl
  interchange := ⟨_, rfl, rfl, rfl, by decide⟩
  output := ⟨_, rfl, rfl, rfl, rfl⟩

/-- The project is read from its record, and its paths are apart; so are those of codes that differ
in a capital letter alone. -/
theorem closed_and_confined_trilingual :
    read trilingualFields ⟨.root, ["project"]⟩ = .ok trilingual ∧
      AreApart (trilingual.xliffPath ⟨"xliff/"⟩) (trilingual.xliffDirectory ⟨"xliff/"⟩)
        ["de", "es-419"] ∧
      AreApart trilingual.localeDirectory trilingual.outputDirectory ["fr", "FR"] := by
  obtain ⟨hread, hpaths⟩ := closed_and_confined
  exact ⟨((hread _ _).1 _).2 ⟨isSpelledBy_trilingual, rfl⟩, (hpaths _).1 _ rfl,
    ((hpaths _).2.2 _ (by decide +kernel) (by decide)).2⟩

end Config

end Polyglot
