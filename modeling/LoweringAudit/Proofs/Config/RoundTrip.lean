import LoweringAudit.Config.Format
import LoweringAudit.Proofs.Toml.Document
/-!
Configurations are read as they were written. A written configuration is a document of four
sections, one for each part, and each part reads its fields from the entries of its section. Main
statement: the text of a configuration gives back all of it but the directory, which is no part of
the text.
-/
namespace LoweringAudit

namespace Toml

theorem texts?_map (items : List String) :
    Value.texts? (.array false (items.map Value.string)) = some items := by
  induction items with
  | nil => rfl
  | cons s items ih =>
    have hmore : (items.map Value.string).mapM Value.text? = some items := ih
    simp [Value.texts?, List.mapM_cons, Value.text?, hmore]

/-- A field of a table, by its key. -/
theorem fieldOr?_table (origin : Origin) (entries : Entries) (place : Nat) (key : String)
    (read : Value → Option α) (default : α) :
    (Value.table origin entries).fieldOr? place key read default =
      match entries.lookup key with
      | some held => read held
      | none => some default := by
  cases hheld : entries.lookup key <;> simp [Value.fieldOr?, Value.field?, hheld]

theorem ofChars_toList (s : String) : ofChars s.toList = .string s := by
  rw [ofChars, String.ofList_toList]

def textSetting (key : String) (bare : Bare key.toList) (s : String) : Setting where
  key := key
  bare := bare
  text := Text.write s.toList
  value := .string s
  spells := ofChars_toList s ▸ spells_write _ s.toList

def textsSetting (key : String) (bare : Bare key.toList) (items : List String) : Setting where
  key := key
  bare := bare
  text := writeArray (items.map String.toList)
  value := .array false (items.map .string)
  spells := by
    have hspells := spells_writeArray 78 (items.map String.toList)
    simpa [depthBound, Function.comp_def, ofChars_toList] using hspells

def flagSetting (key : String) (bare : Bare key.toList) (b : Bool) : Setting where
  key := key
  bare := bare
  text := (if b then "true" else "false").toList
  value := .boolean b
  spells := spells_boolean _ b

end Toml

open Toml (Section Setting textSetting textsSetting flagSetting)

def TargetConfig.toSection (c : TargetConfig) : Section where
  name := "target"
  bare := by decide
  settings := [textsSetting "features" (by decide) c.features,
    textSetting "default_feature" (by decide) c.defaultFeature,
    textSetting "prefix" (by decide) c.targetPrefix]
  distinct := by simp [textsSetting, textSetting]

def CatalogConfig.toSection (c : CatalogConfig) : Section where
  name := "catalog"
  bare := by decide
  settings := [textSetting "source" (by decide) c.source]
  distinct := by simp

def EngineConfig.toSection (c : EngineConfig) : Section where
  name := "engine"
  bare := by decide
  settings := textSetting "kind" (by decide) c.kind.name ::
    ((c.program.map (textSetting "program" (by decide))).toList ++
      [textsSetting "args" (by decide) c.args])
  distinct := by cases c.program <;> simp [textsSetting, textSetting]

def ReportConfig.toSection (c : ReportConfig) : Section where
  name := "report"
  bare := by decide
  settings := [flagSetting "verbose" (by decide) c.verbose,
    textSetting "format" (by decide) c.format.name]
  distinct := by simp [textSetting, flagSetting]

def Config.toSections (c : Config) : List Section :=
  [c.target.toSection, c.catalog.toSection, c.engine.toSection, c.report.toSection]

theorem TargetConfig.ofValue?_toSection (c : TargetConfig) :
    ofValue? c.toSection.entry.2 = some c := by
  simp [ofValue?, Section.entry, toSection, Toml.fieldOr?_table, List.lookup_cons, textSetting,
    textsSetting, Setting.entry, Toml.texts?_map, Toml.Value.text?]

theorem CatalogConfig.ofValue?_toSection (c : CatalogConfig) :
    ofValue? c.toSection.entry.2 = some c := by
  simp [ofValue?, Section.entry, toSection, Toml.fieldOr?_table, textSetting, Setting.entry,
    Toml.Value.text?]

/-- The kind is read by its name, and an absent program stays absent. -/
theorem EngineConfig.ofValue?_toSection (c : EngineConfig) :
    ofValue? c.toSection.entry.2 = some c := by
  obtain ⟨kind, program, args⟩ := c
  cases program <;>
    simp [ofValue?, Section.entry, toSection, Toml.fieldOr?_table, List.lookup_cons, textSetting,
      textsSetting, Setting.entry, Toml.texts?_map, Toml.Value.text?, Toml.Value.choice?]

theorem ReportConfig.ofValue?_toSection (c : ReportConfig) :
    ofValue? c.toSection.entry.2 = some c := by
  simp [ofValue?, Section.entry, toSection, Toml.fieldOr?_table, List.lookup_cons, textSetting,
    flagSetting, Setting.entry, Toml.Value.choice?, Toml.Value.flag?]

namespace Config

theorem ofEntries?_toSections (c : Config) :
    ofEntries? (c.toSections.map Section.entry) = some { c with baseDir := none } := by
  have hentries : c.toSections.map Section.entry =
      [("target", c.target.toSection.entry.2), ("catalog", c.catalog.toSection.entry.2),
        ("engine", c.engine.toSection.entry.2), ("report", c.report.toSection.entry.2)] := rfl
  rw [hentries]
  simp [ofEntries?, section?, List.lookup_cons, TargetConfig.ofValue?_toSection,
    CatalogConfig.ofValue?_toSection, EngineConfig.ofValue?_toSection,
    ReportConfig.ofValue?_toSection]

theorem toList_writeTexts (items : List String) :
    (writeTexts items).toList = Toml.writeArray (items.map String.toList) := by
  match items with
  | [] => rfl
  | [s] => simp [writeTexts, writeText, Toml.writeArray]
  | a :: b :: items =>
    simp [writeTexts, writeText, Toml.writeArray, Toml.itemLine, List.flatMap_map]

theorem toList_assignment (key value : String) :
    (assignment key value).toList = Toml.settingLine key.toList value.toList := by
  simp [assignment, Toml.settingLine]

theorem renderTarget_toSection (c : TargetConfig) :
    (renderTarget c).toList = c.toSection.lines := by
  simp [renderTarget, Section.lines, TargetConfig.toSection, Toml.headerLine, toList_assignment,
    toList_writeTexts, textSetting, textsSetting, Setting.line, writeText]

theorem renderCatalog_toSection (c : CatalogConfig) :
    (renderCatalog c).toList = c.toSection.lines := by
  simp [renderCatalog, Section.lines, CatalogConfig.toSection, Toml.headerLine, toList_assignment,
    textSetting, Setting.line, writeText]

theorem renderEngine_toSection (c : EngineConfig) :
    (renderEngine c).toList = c.toSection.lines := by
  obtain ⟨kind, program, args⟩ := c
  cases program <;>
    simp [renderEngine, Section.lines, EngineConfig.toSection, Toml.headerLine, toList_assignment,
      toList_writeTexts, textSetting, textsSetting, Setting.line, writeText]

theorem renderReport_toSection (c : ReportConfig) :
    (renderReport c).toList = c.toSection.lines := by
  simp [renderReport, Section.lines, ReportConfig.toSection, Toml.headerLine, toList_assignment,
    textSetting, flagSetting, Setting.line, writeText]

theorem render_toSections (c : Config) :
    c.render = String.ofList (Section.document c.toSections) := by
  apply String.toList_injective
  rw [String.toList_ofList, render, String.toList_intercalate, Section.document]
  simp [toSections, renderTarget_toSection, renderCatalog_toSection, renderEngine_toSection,
    renderReport_toSection]

/-- The text of a configuration holds all of it but the directory. -/
theorem parse?_render (c : Config) : parse? c.render = some { c with baseDir := none } := by
  have hnames : (c.toSections.map Section.name).Nodup := by
    simp [toSections, TargetConfig.toSection, CatalogConfig.toSection, EngineConfig.toSection,
      ReportConfig.toSection]
  rw [parse?, render_toSections, Toml.parse?_document hnames]
  exact ofEntries?_toSections c

end Config

end LoweringAudit
