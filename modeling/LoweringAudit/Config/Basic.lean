import LoweringAudit.Audit.Run
import LoweringAudit.Catalog.Source
import LoweringAudit.Engine.Command
import LoweringAudit.Engine.Reference
import LoweringAudit.Files.Path
/-!
Configurations. Each field has a default, and a configuration remembers the directory of the file it
was read from: a relative catalog path in it is seen from there.
-/
namespace LoweringAudit

inductive EngineKind where
  | reference | command
  deriving DecidableEq, Repr

namespace EngineKind

def name : EngineKind → String
  | reference => "reference"
  | command => "command"

def ofName? (s : String) : Option EngineKind :=
  [reference, command].find? fun k => k.name == s

@[simp] theorem ofName?_name (k : EngineKind) : ofName? k.name = some k := by
  cases k <;> decide

end EngineKind

inductive ReportFormat where
  | text | json
  deriving DecidableEq, Repr

namespace ReportFormat

def name : ReportFormat → String
  | text => "text"
  | json => "json"

def ofName? (s : String) : Option ReportFormat :=
  [text, json].find? fun f => f.name == s

@[simp] theorem ofName?_name (f : ReportFormat) : ofName? f.name = some f := by
  cases f <;> decide

end ReportFormat

structure TargetConfig where
  features : List String := [Fma4.feature]
  /-- The feature of catalog lines that name none. -/
  defaultFeature : String := Fma4.feature
  /-- What some operation of every passing case starts with. -/
  targetPrefix : String := defaultTargetPrefix
  deriving DecidableEq, Repr

structure CatalogConfig where
  source : String := CatalogSource.word
  deriving DecidableEq, Repr

structure EngineConfig where
  kind : EngineKind := .reference
  program : Option String := none
  args : List String := []
  deriving DecidableEq, Repr

structure ReportConfig where
  verbose : Bool := false
  format : ReportFormat := .text
  deriving DecidableEq, Repr

structure Config where
  target : TargetConfig := {}
  catalog : CatalogConfig := {}
  engine : EngineConfig := {}
  report : ReportConfig := {}
  /-- The directory of the file; absent in the defaults. -/
  baseDir : Option String := none
  deriving DecidableEq, Repr

/-- The engine of a kind under this configuration. -/
def EngineConfig.build (c : EngineConfig) (programs : Programs) :
    EngineKind → Except LoweringError Engine
  | .reference => .ok .reference
  | .command =>
    match c.program with
    | some program => .ok (.command programs program c.args)
    | none => .error (.notConfigured "command" "[engine] program is not set")

namespace Config

/-- The features that the configuration enables. -/
def features (c : Config) : FeatureSet :=
  .parse (",".intercalate c.target.features)

def catalogSource (c : Config) : CatalogSource :=
  match CatalogSource.ofWord c.catalog.source, c.baseDir with
  | .file path, some dir => .file (Path.join dir path)
  | source, _ => source

end Config

/-- Why there is no configuration. -/
inductive ConfigError where
  | unreadable (cause : Fault)
  /-- The text is none. What is wrong with it is said by the reader of TOML in words of its own, which
  whoever reports the error has to ask for. -/
  | malformed
  | notFound (path : String)
  deriving DecidableEq, Repr

namespace ConfigError

def message : ConfigError → String
  | unreadable _ => "failed to read config file"
  | malformed => "failed to parse config"
  | notFound path => "config file not found: " ++ path

def cause? : ConfigError → Option Fault
  | unreadable cause => some cause
  | _ => none

end ConfigError

end LoweringAudit
