import LoweringAudit.Proofs.Config.File
import Mathlib.Data.List.Nodup
import Mathlib.Logic.Relation
/-!
Configurations in part. A document gives some of the keys, and the others are completed by the
defaults, each by its own: a section that is absent and a section that lacks the key come to the
same. Main statement: what is loaded holds what the document gives for every key that it gives, and
the default for every other, and nothing else in the document counts.
-/
namespace LoweringAudit.Config

open Toml (Entries Setting Value)

/-- The keys of a configuration. -/
inductive Key where
  | features | defaultFeature | targetPrefix
  | source
  | kind | program | args
  | verbose | format
  deriving DecidableEq, Repr

namespace Key

/-- What a configuration holds for a key. -/
def Held : Key → Type
  | features | args => List String
  | defaultFeature | targetPrefix | source => String
  | kind => EngineKind
  | program => Option String
  | verbose => Bool
  | format => ReportFormat

def held (c : Config) : (k : Key) → k.Held
  | features => c.target.features
  | defaultFeature => c.target.defaultFeature
  | targetPrefix => c.target.targetPrefix
  | source => c.catalog.source
  | kind => c.engine.kind
  | program => c.engine.program
  | args => c.engine.args
  | verbose => c.report.verbose
  | format => c.report.format

def sectionName : Key → String
  | features | defaultFeature | targetPrefix => "target"
  | source => "catalog"
  | kind | program | args => "engine"
  | verbose | format => "report"

/-- The place of the key in its section, counted from zero. -/
def place : Key → Nat
  | features | source | kind | verbose => 0
  | defaultFeature | program | format => 1
  | targetPrefix | args => 2

def word : Key → String
  | features => "features"
  | defaultFeature => "default_feature"
  | targetPrefix => "prefix"
  | source => "source"
  | kind => "kind"
  | program => "program"
  | args => "args"
  | verbose => "verbose"
  | format => "format"

def read? : (k : Key) → Value → Option k.Held
  | features, v | args, v => v.texts?
  | defaultFeature, v | targetPrefix, v | source, v => v.text?
  | kind, v => v.choice? >>= EngineKind.ofName?
  | program, v => v.text?.map some
  | verbose, v => v.flag?
  | format, v => v.choice? >>= ReportFormat.ofName?

/-- What a document gives for a key, if anything; it has no answer where something else stands in
place of the section. -/
def given? (k : Key) (entries : Entries) : Option (Option Value) :=
  match entries.lookup k.sectionName with
  | some v => v.field? k.place k.word
  | none => some none

/-- What a document comes to for a key: what it gives, or else the default. -/
def fill? (k : Key) (entries : Entries) : Option k.Held :=
  (k.given? entries).bind fun
    | some v => k.read? v
    | none => some (k.held {})

end Key

variable {entries entries' : Entries} {c c' : Config} {keys : List Key} {k : Key}

/-- The configuration that holds these values, without a directory. -/
def ofHeld (f : (k : Key) → k.Held) : Config where
  target := ⟨f .features, f .defaultFeature, f .targetPrefix⟩
  catalog := ⟨f .source⟩
  engine := ⟨f .kind, f .program, f .args⟩
  report := ⟨f .verbose, f .format⟩

@[simp] theorem held_ofHeld (f : (k : Key) → k.Held) (k : Key) : k.held (ofHeld f) = f k := by
  cases k <;> rfl

theorem held_baseDir (c : Config) (dir : Option String) (k : Key) :
    k.held { c with baseDir := dir } = k.held c := by
  cases k <;> rfl

/-- The keys are all that a configuration holds, but for its directory. -/
theorem ext_held (hdir : c.baseDir = c'.baseDir) (h : ∀ k : Key, k.held c = k.held c') :
    c = c' := by
  obtain ⟨⟨_, _, _⟩, ⟨_⟩, ⟨_, _, _⟩, ⟨_, _⟩, _⟩ := c
  obtain ⟨⟨_, _, _⟩, ⟨_⟩, ⟨_, _, _⟩, ⟨_, _⟩, _⟩ := c'
  cases hdir
  cases h .features
  cases h .defaultFeature
  cases h .targetPrefix
  cases h .source
  cases h .kind
  cases h .program
  cases h .args
  cases h .verbose
  cases h .format
  rfl

/-- Without its section a key comes to its default, and else to what is read for it there. -/
theorem Key.fill?_eq (k : Key) (entries : Entries) :
    k.fill? entries =
      match entries.lookup k.sectionName with
      | some v => v.fieldOr? k.place k.word k.read? (k.held {})
      | none => some (k.held {}) := by
  unfold Key.fill? Key.given?
  cases entries.lookup k.sectionName <;> rfl

/-! ### Sections by their keys

The defaults of an absent section are those of its keys. -/

theorem section?_target (entries : Entries) :
    Config.section? entries "target" TargetConfig.ofValue? {} = do
      return {
        features := ← Key.features.fill? entries
        defaultFeature := ← Key.defaultFeature.fill? entries
        targetPrefix := ← Key.targetPrefix.fill? entries } := by
  simp only [Key.fill?_eq, section?, Key.sectionName]
  cases entries.lookup "target" <;> rfl

theorem section?_catalog (entries : Entries) :
    Config.section? entries "catalog" CatalogConfig.ofValue? {} = do
      return { source := ← Key.source.fill? entries } := by
  simp only [Key.fill?_eq, section?, Key.sectionName]
  cases entries.lookup "catalog" <;> rfl

theorem section?_engine (entries : Entries) :
    Config.section? entries "engine" EngineConfig.ofValue? {} = do
      return {
        kind := ← Key.kind.fill? entries
        program := ← Key.program.fill? entries
        args := ← Key.args.fill? entries } := by
  simp only [Key.fill?_eq, section?, Key.sectionName]
  cases entries.lookup "engine" <;> rfl

theorem section?_report (entries : Entries) :
    Config.section? entries "report" ReportConfig.ofValue? {} = do
      return {
        verbose := ← Key.verbose.fill? entries
        format := ← Key.format.fill? entries } := by
  simp only [Key.fill?_eq, section?, Key.sectionName]
  cases entries.lookup "report" <;> rfl

/-- A document is a configuration when every key comes to something, and then holds that. -/
theorem ofEntries?_eq_some_iff :
    ofEntries? entries = some c ↔
      c.baseDir = none ∧ ∀ k : Key, k.fill? entries = some (k.held c) := by
  simp only [ofEntries?, section?_target, section?_catalog, section?_engine, section?_report]
  constructor
  · intro h
    simp only [Option.bind_eq_bind, Option.bind_eq_some_iff, Option.pure_def,
      Option.some.injEq] at h
    obtain ⟨_, ⟨_, hfeatures, _, hdefault, _, hprefix, rfl⟩, _, ⟨_, hsource, rfl⟩,
      _, ⟨_, hkind, _, hprogram, _, hargs, rfl⟩, _, ⟨_, hverbose, _, hformat, rfl⟩, rfl⟩ := h
    refine ⟨rfl, fun k => ?_⟩
    cases k <;> assumption
  · rintro ⟨hdir, hfill⟩
    simp only [hfill]
    refine congrArg some (ext_held hdir.symm fun k => ?_)
    cases k <;> rfl

/-- The document gives these keys as the configuration holds them, and no others. -/
structure Gives (entries : Entries) (keys : List Key) (c : Config) : Prop where
  given : ∀ k ∈ keys, ∃ v, k.given? entries = some (some v) ∧ k.read? v = some (k.held c)
  only : ∀ k ∉ keys, k.given? entries = some none

theorem Gives.fill? (h : Gives entries keys c) (k : Key) :
    k.fill? entries = some (if k ∈ keys then k.held c else k.held {}) := by
  unfold Key.fill?
  split
  · next hmem =>
    obtain ⟨v, hgiven, hread⟩ := h.given k hmem
    simpa [hgiven] using hread
  · next hmem => simp [h.only k hmem]

theorem Gives.ofEntries? (h : Gives entries keys c) :
    ofEntries? entries =
      some (ofHeld fun k => if k ∈ keys then k.held c else k.held {}) :=
  ofEntries?_eq_some_iff.2 ⟨rfl, fun k => by rw [h.fill?, held_ofHeld]⟩

/-! ### What counts for nothing -/

/-- A document with an empty section more, with something of a name that is no section's, or with
something in a section under a key that the section does not know. -/
inductive Padded : Entries → Entries → Prop
  | emptySection {before after : Entries} {name : String} (origin : Toml.Origin)
      (hnew : name ∉ (before ++ after).map Prod.fst) :
      Padded (before ++ after) (before ++ (name, .table origin []) :: after)
  | unknownSection {before after : Entries} {name : String} (v : Value)
      (hname : ∀ k : Key, k.sectionName ≠ name) :
      Padded (before ++ after) (before ++ (name, v) :: after)
  | unknownKey {before after given more : Entries} {name word : String} {origin : Toml.Origin}
      (v : Value) (hword : ∀ k : Key, k.sectionName = name → k.word ≠ word) :
      Padded (before ++ (name, .table origin (given ++ more)) :: after)
        (before ++ (name, .table origin (given ++ (word, v) :: more)) :: after)

theorem lookup_insert_of_ne {key name : String} (h : key ≠ name) (before after : Entries)
    (v : Value) : (before ++ (name, v) :: after).lookup key = (before ++ after).lookup key := by
  simp [List.lookup_append, List.lookup_cons, beq_false_of_ne h]

theorem lookup_eq_none_of_not_mem {name : String} (h : name ∉ entries.map Prod.fst) :
    entries.lookup name = none := by
  rw [List.lookup_eq_none_iff]
  intro e he
  rw [bne_iff_ne]
  rintro rfl
  exact h (List.mem_map_of_mem he)

theorem Padded.given? (h : Padded entries entries') (k : Key) :
    k.given? entries' = k.given? entries := by
  unfold Key.given?
  cases h with
  | @emptySection before after name origin hnew =>
    by_cases hname : k.sectionName = name
    · rw [List.map_append, List.mem_append, not_or] at hnew
      have hbefore := lookup_eq_none_of_not_mem hnew.1
      have hafter := lookup_eq_none_of_not_mem hnew.2
      simp [hname, List.lookup_append, hbefore, hafter, Value.field?]
    · rw [lookup_insert_of_ne hname]
  | unknownSection v hname => rw [lookup_insert_of_ne (hname k)]
  | @unknownKey before after given more name word origin v hword =>
    by_cases hname : k.sectionName = name
    · have hgiven := lookup_insert_of_ne (hword k hname) given more v
      simp only [List.lookup_append, List.lookup_cons, hname]
      cases before.lookup name <;> simp [Value.field?, hgiven]
    · rw [lookup_insert_of_ne hname, lookup_insert_of_ne hname]

theorem ofEntries?_of_padded (h : Relation.ReflTransGen Padded entries entries') :
    ofEntries? entries' = ofEntries? entries := by
  have hgiven : ∀ k : Key, k.given? entries' = k.given? entries := fun k => by
    induction h with
    | refl => rfl
    | tail _ hstep ih => exact (hstep.given? k).trans ih
  apply Option.ext
  intro c
  simp only [ofEntries?_eq_some_iff, Key.fill?, hgiven]

/-! ### Documents that give some keys -/

namespace Key

def all : List Key :=
  [features, defaultFeature, targetPrefix, source, kind, program, args, verbose, format]

theorem mem_all (k : Key) : k ∈ all := by
  cases k <;> decide

theorem nodup_words : (all.map word).Nodup := by
  decide

theorem bare_word (k : Key) : Toml.Bare k.word.toList := by
  cases k <;> decide

theorem bare_sectionName (k : Key) : Toml.Bare k.sectionName.toList := by
  cases k <;> decide

/-- The key set to what the configuration holds; a program that is absent cannot be set. -/
def setting (c : Config) (k : Key) : Setting :=
  match k with
  | features => Toml.textsSetting features.word (bare_word _) c.target.features
  | defaultFeature => Toml.textSetting defaultFeature.word (bare_word _) c.target.defaultFeature
  | targetPrefix => Toml.textSetting targetPrefix.word (bare_word _) c.target.targetPrefix
  | source => Toml.textSetting source.word (bare_word _) c.catalog.source
  | kind => Toml.textSetting kind.word (bare_word _) c.engine.kind.name
  | program => Toml.textSetting program.word (bare_word _) (c.engine.program.getD "")
  | args => Toml.textsSetting args.word (bare_word _) c.engine.args
  | verbose => Toml.flagSetting verbose.word (bare_word _) c.report.verbose
  | format => Toml.textSetting format.word (bare_word _) c.report.format.name

theorem word_injective {j k : Key} (h : j.word = k.word) : j = k :=
  List.inj_on_of_nodup_map nodup_words j.mem_all k.mem_all h

theorem entry_setting (c : Config) (k : Key) :
    (k.setting c).entry = (k.word, (k.setting c).value) := by
  cases k <;> rfl

theorem read?_setting (h : k = program → c.engine.program ≠ none) :
    k.read? (k.setting c).value = some (k.held c) := by
  cases k with
  | features | args => exact Toml.texts?_map _
  | defaultFeature | targetPrefix | source | verbose => rfl
  | kind => exact EngineKind.ofName?_name _
  | program =>
    obtain ⟨s, hs⟩ := Option.ne_none_iff_exists'.1 (h rfl)
    have hread : program.read? (program.setting c).value =
        some (some (c.engine.program.getD "")) := rfl
    rw [hread, hs]
    exact congrArg some hs.symm
  | format => exact ReportFormat.ofName?_name _

theorem lookup_settings (ks : List Key) (c : Config) (k : Key) :
    ((ks.map (·.setting c)).map Setting.entry).lookup k.word =
      if k ∈ ks then some (k.setting c).value else none := by
  induction ks with
  | nil => rfl
  | cons j ks ih =>
    rw [List.map_cons, List.map_cons, entry_setting, List.lookup_cons, ih]
    by_cases hk : k = j
    · subst hk
      simp
    · have hword : (k.word == j.word) = false := beq_false_of_ne fun h => hk (word_injective h)
      simp [hk, hword]

end Key

/-- The section of a key, with those of its keys that are asked for. -/
def sectionOf (keys : List Key) (c : Config) (k : Key) : Toml.Section where
  name := k.sectionName
  bare := k.bare_sectionName
  settings :=
    (Key.all.filter fun j => j.sectionName = k.sectionName ∧ j ∈ keys).map (·.setting c)
  distinct := by
    have hwords : Setting.key ∘ (·.setting c) = Key.word := by
      funext j
      exact congrArg Prod.fst (j.entry_setting c)
    rw [List.map_map, hwords]
    exact Key.nodup_words.sublist (List.filter_sublist.map _)

def sectionsOf (keys : List Key) (c : Config) : List Toml.Section :=
  [Key.features, Key.source, Key.kind, Key.verbose].map (sectionOf keys c)

theorem given?_sectionsOf (keys : List Key) (c : Config) (k : Key) :
    k.given? ((sectionsOf keys c).map Toml.Section.entry) =
      some (if k ∈ keys then some (k.setting c).value else none) := by
  have hsection : ((sectionsOf keys c).map Toml.Section.entry).lookup k.sectionName =
      some (.table .header (((Key.all.filter fun j => j.sectionName = k.sectionName ∧ j ∈ keys).map
        (·.setting c)).map Setting.entry)) := by
    cases k <;> rfl
  rw [Key.given?, hsection]
  simp only [Value.field?, Key.lookup_settings]
  simp [Key.mem_all]

/-- Whatever a configuration holds for some keys can be given by a document, if it has a program
where one is asked for. -/
theorem exists_gives (keys : List Key) (c : Config)
    (hprogram : Key.program ∈ keys → c.engine.program ≠ none) :
    ∃ text entries, Toml.parse? text = some entries ∧ Gives entries keys c := by
  have hnames : ((sectionsOf keys c).map Toml.Section.name).Nodup := by
    have heq : (sectionsOf keys c).map Toml.Section.name =
        ["target", "catalog", "engine", "report"] := rfl
    rw [heq]
    decide
  refine ⟨_, _, Toml.parse?_document hnames, ?_, ?_⟩
  · intro k hk
    refine ⟨(k.setting c).value, ?_, Key.read?_setting fun h => hprogram (h ▸ hk)⟩
    rw [given?_sectionsOf, if_pos hk]
  · intro k hk
    rw [given?_sectionsOf, if_neg hk]

/-! ### Loading -/

/-- A path under which a document can be read. -/
def HasDocument (files : Files) (path : String) (entries : Entries) : Prop :=
  ∃ text, files.readText path = .ok text ∧ Toml.parse? text = some entries

theorem HasDocument.load_eq {files : Files} {path : String} (h : HasDocument files path entries) :
    load files path =
      match ofEntries? entries with
      | some c => .ok { c with baseDir := Path.parent? path }
      | none => .error .malformed := by
  obtain ⟨text, hread, hparse⟩ := h
  cases hc : ofEntries? entries <;> simp [load, hread, parse?, hparse, hc]

/-- A document that gives some keys loads to a configuration that holds them as given and every
other key as the defaults have it. Empty sections, unknown sections and unknown keys change nothing
in what is loaded, be it a configuration or an error. Every part of every configuration is given by
some document. -/
theorem load_completed (files : Files) (path : String) :
    (∀ entries keys c, HasDocument files path entries → Gives entries keys c →
      ∃ loaded, load files path = .ok loaded ∧ loaded.baseDir = Path.parent? path ∧
        ∀ k : Key, k.held loaded = if k ∈ keys then k.held c else k.held {}) ∧
    (∀ files' entries entries', HasDocument files path entries →
      HasDocument files' path entries' → Relation.ReflTransGen Padded entries entries' →
      load files' path = load files path) ∧
    ∀ keys c, (Key.program ∈ keys → c.engine.program ≠ none) →
      ∃ text entries, Toml.parse? text = some entries ∧ Gives entries keys c := by
  refine ⟨fun entries keys c hdoc hgives => ?_, fun files' entries entries' hdoc hdoc' hpad => ?_,
    exists_gives⟩
  · refine ⟨_, by rw [hdoc.load_eq, hgives.ofEntries?], rfl, fun k => ?_⟩
    rw [held_baseDir, held_ofHeld]
  · rw [hdoc'.load_eq, hdoc.load_eq, ofEntries?_of_padded hpad]

/-- A tree with this text for a configuration. -/
def treeOf (text : String) : FileTree :=
  (FileTree.ofWorkingDirectory []).addFile [fileName] (Utf8.encode text.toList)

/-- One key that counts, with an empty section, an unknown key and an unknown section around it. -/
def paddedText : String :=
  "[report]\n[engine]\nprogram = 'cc'\nverbose = true\n[log]\nformat = 'json'\n"

def paddedEntries : Entries :=
  [("report", .table .header []),
    ("engine", .table .header [("program", .string "cc"), ("verbose", .boolean true)]),
    ("log", .table .header [("format", .string "json")])]

def programEntries : Entries :=
  [("engine", .table .header [("program", .string "cc")])]

theorem hasDocument_treeOf {text : String} (h : Toml.parse? text = some entries) :
    HasDocument (treeOf text).files fileName entries := by
  refine ⟨text, ?_, h⟩
  have hread : (treeOf text).files.read fileName = .ok (Utf8.encode text.toList) := rfl
  simp [Files.readText, hread]

theorem load_completed_paddedText :
    HasDocument (treeOf paddedText).files fileName paddedEntries ∧
      Gives paddedEntries [.program] { engine := { program := some "cc" } } ∧
      load (treeOf paddedText).files fileName =
        .ok { engine := { program := some "cc" }, baseDir := some "" } ∧
      load (treeOf "[engine]\nprogram = 'cc'\n").files fileName =
        load (treeOf paddedText).files fileName := by
  have hpadded : HasDocument (treeOf paddedText).files fileName paddedEntries :=
    hasDocument_treeOf rfl
  have hprogram : HasDocument (treeOf "[engine]\nprogram = 'cc'\n").files fileName
      programEntries := hasDocument_treeOf rfl
  have hgives : Gives paddedEntries [.program] { engine := { program := some "cc" } } := by
    constructor
    · simp only [List.mem_singleton, forall_eq]
      exact ⟨.string "cc", rfl, rfl⟩
    · intro k hk
      cases k with
      | program => exact absurd (List.mem_singleton_self _) hk
      | _ => rfl
  have hempty : Padded ([] ++ programEntries) ([] ++ ("report", .table .header []) ::
      programEntries) :=
    .emptySection .header (by decide)
  have hkey : Padded ([("report", .table .header [])] ++
        ("engine", .table .header ([("program", .string "cc")] ++ [])) :: [])
      ([("report", .table .header [])] ++
        ("engine", .table .header ([("program", .string "cc")] ++ [("verbose", .boolean true)])) ::
          []) :=
    .unknownKey (.boolean true) fun k => by cases k <;> decide
  have hsection : Padded (paddedEntries.take 2 ++ []) (paddedEntries.take 2 ++
      [("log", .table .header [("format", .string "json")])]) :=
    .unknownSection _ fun k => by cases k <;> decide
  obtain ⟨loaded, hload, hdir, hheld⟩ :=
    (load_completed (treeOf paddedText).files fileName).1 _ _ _ hpadded hgives
  have hloaded : loaded = { engine := { program := some "cc" }, baseDir := some "" } := by
    refine ext_held (hdir.trans (by decide)) fun k => ?_
    rw [hheld]
    cases k <;> rfl
  refine ⟨hpadded, hgives, hloaded ▸ hload, ?_⟩
  exact ((load_completed (treeOf "[engine]\nprogram = 'cc'\n").files fileName).2.1 _ _ _ hprogram
    hpadded (((Relation.ReflTransGen.single hempty).tail hkey).tail hsection)).symm

end LoweringAudit.Config
