import Polyglot.Project.ConfigReader
import Polyglot.Proofs.Results
import Mathlib.Data.List.Nodup

/-!
# Which configurations are read

`Config.IsSpelledBy` says which fields spell a configuration, in terms of the record alone: texts
that are not empty where they are required, defaults where a field is absent, and nothing of the
order in which the reader looks at them. `Config.read_eq_ok_iff` says that the reader answers a
configuration just where the record spells it. Whatever the reader refuses, it finds the
configuration or a locale wrong: `ConfigFault.code_diagnostic`. What it accepts it may still warn
of, once for each locale that locale data does not know: `Config.mem_warnings_iff`.
-/

namespace Polyglot

open Setting

/-! ### What fields spell -/

/-- A field is a text that is not empty. -/
def Setting.Fields.HasText (fields : Fields) (key words : String) : Prop :=
  fields.get? key = some (.text words) ∧ words ≠ ""

/-- Some fields spell settings of interchange. -/
def InterchangeSettings.IsSpelledBy (fields : Fields) : InterchangeSettings → Prop
  | xlb settings => fields.get? "format" = some (.text "xlb") ∧
      fields.HasText "outputFile" settings.outputFile ∧
      fields.HasText "translationsGlob" settings.translations
  | xliff settings => fields.get? "format" = some (.text "xliff") ∧
      fields.HasText "xliffDir" settings.directory

/-- Some fields spell settings of output. Without a directory it is the base directory, and a null
asks for no module of locale codes. -/
structure OutputSettings.IsSpelledBy (fields : Fields) (settings : OutputSettings) : Prop where
  mode : fields.get? "mode" = some (.text "transform")
  localeCodesModule : (fields.get? "localeCodesModule").getD .null =
    settings.localeCodesModule.elim .null .text
  directory : (fields.get? "outputDir").getD (.text ".") = .text settings.directory

/-- Some fields spell a configuration, its base directory apart. Without target locales there are
none. -/
structure Config.IsSpelledBy (fields : Fields) (config : Config) : Prop where
  source : fields.HasText "sourceLocale" config.sourceLocale
  targets : (fields.get? "targetLocales").getD (.list []) =
    .list (config.targetLocales.map .text)
  interchange : ∃ inner, fields.get? "interchange" = some (.record inner) ∧
    config.interchange.IsSpelledBy inner
  output : ∃ inner, fields.get? "output" = some (.record inner) ∧ config.output.IsSpelledBy inner

/-! ### Single fields -/

variable {fields inner : Fields} {key words : String}

theorem Setting.text?_eq_some_iff {setting : Setting} :
    setting.text? = some words ↔ setting = .text words := by
  cases setting <;> simp [text?]

theorem Setting.list?_eq_some_iff {setting : Setting} {items : List Setting} :
    setting.list? = some items ↔ setting = .list items := by
  cases setting <;> simp [list?]

theorem Setting.mapM_text?_eq_some_iff {items : List Setting} {codes : List String} :
    items.mapM text? = some codes ↔ items = codes.map .text := by
  induction items generalizing codes with
  | nil => cases codes <;> simp
  | cons item items ih =>
    rw [List.mapM_cons]
    constructor
    · intro h
      obtain ⟨code, hc, h⟩ := Option.bind_eq_some_iff.1 h
      obtain ⟨rest, hr, h⟩ := Option.bind_eq_some_iff.1 h
      cases h
      rw [text?_eq_some_iff.1 hc, ih.1 hr, List.map_cons]
    · intro h
      obtain ⟨code, rest, rfl, rfl, rfl⟩ := List.map_eq_cons_iff.1 h.symm
      rw [text?, ih.2 rfl]
      rfl

theorem Setting.Fields.text_eq_ok_iff : fields.text key = .ok words ↔ fields.HasText key words := by
  have hget : (fields.get? key).bind text? = some words ↔ fields.get? key = some (.text words) := by
    simp [Option.bind_eq_some_iff, text?_eq_some_iff]
  rw [Fields.text, HasText, ← hget]
  cases (fields.get? key).bind text? with
  | none => simp
  | some found =>
    by_cases hf : found = ""
    · simp only [hf, if_true, reduceCtorEq, Option.some.injEq, false_iff, not_and, not_not]
      exact Eq.symm
    · simp only [hf, if_false, Except.ok.injEq, Option.some.injEq, iff_self_and]
      exact fun h => h ▸ hf

theorem Setting.Fields.record_eq_ok_iff :
    fields.record key = .ok inner ↔ fields.get? key = some (.record inner) := by
  rw [Fields.record]
  split
  · next h => simp [h]
  · next h => simpa using fun heq => h inner heq

namespace Config

theorem readTargets_eq_ok_iff {codes : List String} :
    readTargets fields = .ok codes ↔
      (fields.get? "targetLocales").getD (.list []) = .list (codes.map .text) := by
  rw [readTargets]
  cases fields.get? "targetLocales" with
  | none => simp [eq_comm]
  | some targets =>
    have hread : targets.list?.bind (·.mapM text?) = some codes ↔
        targets = .list (codes.map .text) := by
      simp [Option.bind_eq_some_iff, list?_eq_some_iff, mapM_text?_eq_some_iff]
    rw [Option.getD_some, ← hread]
    dsimp only
    cases targets.list?.bind (·.mapM text?) <;> simp

theorem readCodesModule_eq_ok_iff {path? : Option String} :
    readCodesModule fields = .ok path? ↔
      (fields.get? "localeCodesModule").getD .null = path?.elim .null .text := by
  rw [readCodesModule]
  split
  · next h => cases path? <;> simp [h]
  · next h => cases path? <;> simp [h]
  · next path h => cases path? <;> simp [h, eq_comm]
  · next setting hnull htext h => cases path? <;> simp_all

theorem readOutputDirectory_eq_ok_iff {path : String} :
    readOutputDirectory fields = .ok path ↔
      (fields.get? "outputDir").getD (.text ".") = .text path := by
  rw [readOutputDirectory]
  split
  · next h => simp [h]
  · next path h => simp [h]
  · next setting htext h => simp_all

/-! ### Groups of fields -/

theorem readInterchange_eq_ok_iff {settings : InterchangeSettings} :
    readInterchange fields = .ok settings ↔ settings.IsSpelledBy fields := by
  rw [readInterchange, bind_eq_ok_iff]
  constructor
  · rintro ⟨format, hf, h⟩
    obtain ⟨hformat, -⟩ := Fields.text_eq_ok_iff.1 hf
    split at h
    · obtain ⟨outputFile, ho, h⟩ := bind_eq_ok_iff.1 h
      obtain ⟨translations, ht, h⟩ := bind_eq_ok_iff.1 h
      cases h
      exact ⟨hformat, Fields.text_eq_ok_iff.1 ho, Fields.text_eq_ok_iff.1 ht⟩
    · obtain ⟨directory, hd, h⟩ := bind_eq_ok_iff.1 h
      cases h
      exact ⟨hformat, Fields.text_eq_ok_iff.1 hd⟩
    · cases h
  · intro h
    cases settings with
    | xlb settings =>
      obtain ⟨hformat, ho, ht⟩ := h
      refine ⟨"xlb", Fields.text_eq_ok_iff.2 ⟨hformat, by decide⟩, ?_⟩
      simp only [Fields.text_eq_ok_iff.2 ho, Fields.text_eq_ok_iff.2 ht, bind_ok]
      rfl
    | xliff settings =>
      obtain ⟨hformat, hd⟩ := h
      refine ⟨"xliff", Fields.text_eq_ok_iff.2 ⟨hformat, by decide⟩, ?_⟩
      simp only [Fields.text_eq_ok_iff.2 hd, bind_ok]
      rfl

theorem readOutput_eq_ok_iff {settings : OutputSettings} :
    readOutput fields = .ok settings ↔ settings.IsSpelledBy fields := by
  rw [readOutput, bind_eq_ok_iff]
  constructor
  · rintro ⟨mode, hm, h⟩
    obtain ⟨hmode, -⟩ := Fields.text_eq_ok_iff.1 hm
    split at h
    · next ht =>
      subst ht
      obtain ⟨-, -, h⟩ := bind_eq_ok_iff.1 h
      obtain ⟨path?, hp, h⟩ := bind_eq_ok_iff.1 h
      obtain ⟨directory, hd, h⟩ := bind_eq_ok_iff.1 h
      cases h
      exact ⟨hmode, readCodesModule_eq_ok_iff.1 hp, readOutputDirectory_eq_ok_iff.1 hd⟩
    · cases h
  · intro h
    refine ⟨"transform", Fields.text_eq_ok_iff.2 ⟨h.mode, by decide⟩, ?_⟩
    simp only [if_true, readCodesModule_eq_ok_iff.2 h.localeCodesModule,
      readOutputDirectory_eq_ok_iff.2 h.directory, bind_ok]
    rfl

theorem make_eq_ok_iff {config : Config} {source : String} {targets : List String}
    {interchange : InterchangeSettings} {output : OutputSettings} {base : Files.Path} :
    make source targets interchange output base = .ok config ↔
      config.sourceLocale = source ∧ config.targetLocales = targets ∧
        config.interchange = interchange ∧ config.output = output ∧ config.base = base := by
  unfold make
  constructor
  · intro h
    split at h
    · cases h
    · cases h
      exact ⟨rfl, rfl, rfl, rfl, rfl⟩
  · rintro ⟨rfl, rfl, rfl, rfl, rfl⟩
    have hlocales : ConfigFault.ofLocales? config.sourceLocale config.targetLocales = none :=
      ConfigFault.ofLocales?_eq_none_iff.2 ⟨config.isCode_of_mem, config.nodup_locales⟩
    split
    · next h => exact absurd (hlocales.symm.trans h) nofun
    · rfl

/-- A configuration is read just where the record spells it. -/
theorem read_eq_ok_iff {config : Config} {base : Files.Path} :
    read fields base = .ok config ↔ config.IsSpelledBy fields ∧ config.base = base := by
  simp only [read, bind_eq_ok_iff, Fields.text_eq_ok_iff, readTargets_eq_ok_iff,
    Fields.record_eq_ok_iff, readInterchange_eq_ok_iff, readOutput_eq_ok_iff, make_eq_ok_iff]
  constructor
  · rintro ⟨source, hs, targets, ht, inner, hi, interchange, hinter, outer, ho, output, hout,
      rfl, rfl, rfl, rfl, rfl⟩
    exact ⟨⟨hs, ht, ⟨inner, hi, hinter⟩, ⟨outer, ho, hout⟩⟩, rfl⟩
  · rintro ⟨⟨hs, ht, ⟨inner, hi, hinter⟩, ⟨outer, ho, hout⟩⟩, rfl⟩
    exact ⟨_, hs, _, ht, inner, hi, _, hinter, outer, ho, _, hout, rfl, rfl, rfl, rfl, rfl⟩

/-! ### Warnings -/

/-- There is a warning of just those locales that locale data is asked for and does not know. -/
theorem mem_warnings_iff {config : Config} {data? : Option Locale.Data} {code : String} :
    .unknownLocale code ∈ config.warnings data? ↔ code ∈ config.allLocales ∧
      ∃ data, data? = some data ∧ data.knows (Locale.normalize code) = false := by
  rw [warnings, List.mem_map_of_injective fun _ _ => ConfigWarning.unknownLocale.inj,
    List.mem_filter, beq_iff_eq, Locale.isKnown?, Option.map_eq_some_iff]

/-- No locale is warned of twice. -/
theorem nodup_warnings (config : Config) (data? : Option Locale.Data) :
    (config.warnings data?).Nodup :=
  List.Nodup.map (fun _ _ => ConfigWarning.unknownLocale.inj) (config.nodup_locales.filter _)

end Config

/-! ### Faults -/

/-- A fault of a configuration is found to be that, or a locale code to be wrong. -/
theorem ConfigFault.code_diagnostic (fault : ConfigFault) :
    fault.diagnostic.code = .configInvalid ∨ fault.diagnostic.code = .localeInvalid := by
  cases fault with
  | badLocale code => exact .inr rfl
  | _ => exact .inl rfl

end Polyglot
