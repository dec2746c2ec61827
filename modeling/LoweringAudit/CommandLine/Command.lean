import LoweringAudit.Audit.Report
import LoweringAudit.CommandLine.Help
import LoweringAudit.Config.File
import LoweringAudit.Log.Filter
/-!
The command: it loads a configuration and a catalog, builds the engine, runs the audit and reports.
Each stage can fail; the first that does ends the command, and what stood on standard output by then
stays there. The surroundings are a value, so that the command is a function.
-/
namespace LoweringAudit.CommandLine

/-- What the command finds around it. -/
structure Surroundings where
  workingDirectory : String
  files : Files
  programs : Programs
  /-- The filter of log entries that is asked for from outside. -/
  logSpec : Option String
  /-- What the reader of TOML says of a text that is no configuration. The words are its own; where
  it is not asked, only how they begin is known. -/
  refusal : String → String := fun _ => "TOML parse error"

/-- Why the command gives no result. -/
inductive Failure where
  /-- With what the reader of TOML says, where it is the one that fails. -/
  | config (path : Option String) (error : ConfigError) (refusal : Option String)
  | catalog (source : CatalogSource) (error : CatalogError)
  | engine (error : LoweringError)
  | run (error : RunError)
  deriving DecidableEq, Repr

/-- What failed, and after it its causes. -/
def Failure.chain : Failure → List String
  | config path error refusal =>
    ["Failed to load " ++ (match path with
      | some path => "config " ++ path
      | none => Config.fileName), error.message] ++ (error.cause?.map Fault.message).toList ++
      refusal.toList
  | catalog source error =>
    ["Failed to load catalog " ++ source.render, error.message] ++
      (error.cause?.map Fault.message).toList
  | engine error => [error.message] ++ (error.cause?.map Fault.message).toList
  | run error => [error.message] ++ (error.cause?.map Fault.message).toList

def Failure.render (f : Failure) : String :=
  "error: " ++ ": ".intercalate f.chain

/-- How the command ended. -/
inductive Ending where
  | audited (summary : Summary)
  | listed
  | help
  | version
  | usage
  | failed (failure : Failure)
  deriving DecidableEq, Repr

def Ending.exitCode : Ending → Nat
  | audited summary => if summary.isSuccess then 0 else 1
  | listed => 0
  | help => 0
  | version => 0
  | usage => 2
  | failed _ => 2

/-- What the command wrote and said, and how it ended. -/
structure Outcome where
  output : List UInt8 := []
  log : List Log.Entry := []
  /-- What is said against the filter of log entries itself; no filter holds it back. -/
  filterWarnings : List String := []
  /-- What the engine was asked. -/
  calls : List Request := []
  ending : Ending

namespace Outcome

def exitCode (o : Outcome) : Nat :=
  o.ending.exitCode

/-- What goes to the error stream: warnings, the log, and the failure if there is one. -/
def complaint (o : Outcome) : String :=
  String.join (o.filterWarnings.map (· ++ "\n")) ++ String.join (o.log.map Log.Entry.render) ++
    match o.ending with
    | .failed failure => failure.render ++ "\n"
    | .usage => "error: the arguments make no sense\n"
    | _ => ""

/-- What was said before, put in front. -/
def after (log : List Log.Entry) (o : Outcome) : Outcome :=
  { o with log := log ++ o.log }

/-- Only the entries that the filter shows. -/
def filtered (filter : Log.Filter) (o : Outcome) : Outcome :=
  { o with log := o.log.filter filter.shows }

end Outcome

def written (text : String) : List UInt8 :=
  Utf8.encode text.toList

def versionLine : String := "lowercheck 0.1.0\n"

/-- The configuration under the options, and what is said on the way to it. -/
def loadConfig (s : Surroundings) (o : Options) : Except ConfigError Config × List Log.Entry :=
  match o.config with
  | some path => (Config.load s.files path, [])
  | none => Config.findAndLoad s.files s.workingDirectory

/-- The path that the configuration is loaded from, if it is loaded from any. -/
def configPath? (s : Surroundings) (o : Options) : Option String :=
  match o.config with
  | some path => some path
  | none => Config.find? s.files s.workingDirectory

/-- What the reader of TOML says of the configuration file, when what it refuses is the text. -/
def refusal? (s : Surroundings) (o : Options) : ConfigError → Option String
  | .malformed => do
    let path ← configPath? s o
    let text ← (s.files.readText path).toOption
    return s.refusal text
  | _ => none

/-- The features: the option's, or else the configuration's. -/
def features (o : Options) (c : Config) : FeatureSet :=
  match o.features with
  | some list => .parse list
  | none => c.features

def catalogSource (o : Options) (c : Config) : CatalogSource :=
  match o.catalog with
  | some arg => .ofWord arg
  | none => c.catalogSource

def format (o : Options) (c : Config) : ReportFormat :=
  o.format.getD c.report.format

/-- The audit that options and configuration ask for. Only a report in text can be verbose. -/
def auditOf (o : Options) (c : Config) (catalog : Catalog) (engine : Engine) : Audit where
  catalog := catalog
  engine := engine
  features := features o c
  targetPrefix := c.target.targetPrefix
  verbose := (o.verbose || c.report.verbose) && format o c == .text

def reported (verdicts : List Verdict) : Log.Entry :=
  ⟨.debug, .program, toString verdicts.length ++ " results reported"⟩

/-- The outcome of a run whose report in text went to standard output. -/
def textOutcome (r : Run) : Outcome :=
  match r.outcome with
  | .error e =>
    { output := r.sink.held, log := r.log, calls := r.calls, ending := .failed (.run e) }
  | .ok vs =>
    let summary := Summary.ofVerdicts vs
    { output := r.sink.held ++ written (summary.render ++ "\n")
      log := r.log ++ [reported vs]
      calls := r.calls
      ending := .audited summary }

/-- The outcome of a run of which only the document is written. -/
def jsonOutcome (source : CatalogSource) (a : Audit) (r : Run) : Outcome :=
  match r.outcome with
  | .error e => { log := r.log, calls := r.calls, ending := .failed (.run e) }
  | .ok vs =>
    let report : Report := ⟨source.render, a.engine.name, a.features, a.targetPrefix, vs⟩
    { output := written report.render
      log := r.log ++ [reported vs]
      calls := r.calls
      ending := .audited (Summary.ofVerdicts vs) }

/-- Builds the engine and audits a catalog. -/
def audit (s : Surroundings) (o : Options) (c : Config) (catalog : Catalog) : Outcome :=
  match c.engine.build s.programs (o.engine.getD c.engine.kind) with
  | .error e => { ending := .failed (.engine e) }
  | .ok engine =>
    let a := auditOf o c catalog engine
    let r := (a.run .unlimited).2
    match format o c with
    | .text => textOutcome r
    | .json => jsonOutcome (catalogSource o c) a r

/-- Loads the catalog, and lists it or audits it. -/
def withConfig (s : Surroundings) (o : Options) (c : Config) : Outcome :=
  match (catalogSource o c).load s.files c.target.defaultFeature with
  | .error e => { ending := .failed (.catalog (catalogSource o c) e) }
  | .ok catalog =>
    if o.list then { output := written catalog.render, ending := .listed }
    else audit s o c catalog

/-- The whole command, with all that it says. -/
def verify (s : Surroundings) (o : Options) : Outcome :=
  let (config, log) := loadConfig s o
  match config with
  | .error e => { log := log, ending := .failed (.config o.config e (refusal? s o e)) }
  | .ok c => (withConfig s o c).after log

/-- The filter that decides which entries are shown. -/
def logFilter (s : Surroundings) (o : Options) : Log.Filter :=
  match s.logSpec with
  | some spec => (Log.Filter.read spec).1
  | none => .upTo (if o.verbose then .info else .warn)

/-- The command as called with arguments. -/
def execute (s : Surroundings) (arguments : List String) : Outcome :=
  match Options.ofArguments arguments with
  | .error .usage => { ending := .usage }
  | .error (.help extent) => { output := written (helpText extent), ending := .help }
  | .error .version => { output := written versionLine, ending := .version }
  | .ok o =>
    { (verify s o).filtered (logFilter s o) with
      filterWarnings := (s.logSpec.map fun spec =>
        (Log.Filter.read spec).2.map Log.SpecFault.message).getD [] }

end LoweringAudit.CommandLine
