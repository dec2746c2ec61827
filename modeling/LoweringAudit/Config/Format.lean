import LoweringAudit.Config.Basic
import LoweringAudit.Toml.Document
/-!
The text form of configurations. Reading takes what a document gives and leaves every other field at
its default; keys that mean nothing here are passed over, but no value is taken for one of another
type. A section can also be an array of its values in order, and a choice among names can be a table
with the name as its only key and nothing beneath. Written, every field is given.
-/
namespace LoweringAudit

namespace Toml.Value

def text? : Value → Option String
  | string s => some s
  | _ => none

def texts? : Value → Option (List String)
  | array _ items => items.mapM text?
  | _ => none

def flag? : Value → Option Bool
  | boolean b => some b
  | _ => none

/-- Whether nothing stands beneath. -/
def isHollow : Value → Bool
  | array _ [] => true
  | table _ [] => true
  | _ => false

/-- The name that a choice picks. -/
def choice? : Value → Option String
  | string s => some s
  | table _ [(key, v)] => if v.isHollow then some key else none
  | _ => none

/-- A field of a section by its place and its key; nothing, if what is there is no section. -/
def field? (place : Nat) (key : String) : Value → Option (Option Value)
  | table _ entries => some (entries.lookup key)
  | array _ items => some items[place]?
  | moment _ => some none
  | _ => none

/-- What a field holds, or its default where it is absent. -/
def fieldOr? (v : Value) (place : Nat) (key : String) (read : Value → Option α)
    (default : α) : Option α := do
  match ← v.field? place key with
  | some held => read held
  | none => return default

end Toml.Value

def TargetConfig.ofValue? (v : Toml.Value) : Option TargetConfig := do
  return {
    features := ← v.fieldOr? 0 "features" (·.texts?) [Fma4.feature]
    defaultFeature := ← v.fieldOr? 1 "default_feature" (·.text?) Fma4.feature
    targetPrefix := ← v.fieldOr? 2 "prefix" (·.text?) defaultTargetPrefix }

def CatalogConfig.ofValue? (v : Toml.Value) : Option CatalogConfig := do
  return { source := ← v.fieldOr? 0 "source" (·.text?) CatalogSource.word }

def EngineConfig.ofValue? (v : Toml.Value) : Option EngineConfig := do
  return {
    kind := ← v.fieldOr? 0 "kind" (fun k => k.choice? >>= EngineKind.ofName?) .reference
    program := ← v.fieldOr? 1 "program" (fun p => p.text?.map some) none
    args := ← v.fieldOr? 2 "args" (·.texts?) [] }

def ReportConfig.ofValue? (v : Toml.Value) : Option ReportConfig := do
  return {
    verbose := ← v.fieldOr? 0 "verbose" (·.flag?) false
    format := ← v.fieldOr? 1 "format" (fun f => f.choice? >>= ReportFormat.ofName?) .text }

namespace Config

/-- A section of a document, or its default. -/
def section? (entries : Toml.Entries) (key : String) (read : Toml.Value → Option α)
    (default : α) : Option α :=
  match entries.lookup key with
  | some v => read v
  | none => some default

def ofEntries? (entries : Toml.Entries) : Option Config := do
  return {
    target := ← section? entries "target" TargetConfig.ofValue? {}
    catalog := ← section? entries "catalog" CatalogConfig.ofValue? {}
    engine := ← section? entries "engine" EngineConfig.ofValue? {}
    report := ← section? entries "report" ReportConfig.ofValue? {} }

/-- The configuration in a text. -/
def parse? (text : String) : Option Config :=
  Toml.parse? text >>= ofEntries?

/-- A text as a value. -/
def writeText (s : String) : String :=
  String.ofList (Toml.Text.write s.toList)

/-- Texts as a value: two or more stand on a line each. -/
def writeTexts : List String → String
  | [] => "[]"
  | [s] => "[" ++ writeText s ++ "]"
  | items => "[\n" ++ String.join (items.map fun s => "    " ++ writeText s ++ ",\n") ++ "]"

def assignment (key value : String) : String :=
  key ++ " = " ++ value ++ "\n"

def renderTarget (c : TargetConfig) : String :=
  "[target]\n" ++ assignment "features" (writeTexts c.features) ++
    assignment "default_feature" (writeText c.defaultFeature) ++
    assignment "prefix" (writeText c.targetPrefix)

def renderCatalog (c : CatalogConfig) : String :=
  "[catalog]\n" ++ assignment "source" (writeText c.source)

def renderEngine (c : EngineConfig) : String :=
  "[engine]\n" ++ assignment "kind" (writeText c.kind.name) ++
    (match c.program with
      | some program => assignment "program" (writeText program)
      | none => "") ++
    assignment "args" (writeTexts c.args)

def renderReport (c : ReportConfig) : String :=
  "[report]\n" ++ assignment "verbose" (if c.verbose then "true" else "false") ++
    assignment "format" (writeText c.format.name)

def render (c : Config) : String :=
  "\n".intercalate
    [renderTarget c.target, renderCatalog c.catalog, renderEngine c.engine, renderReport c.report]

end Config

end LoweringAudit
