import LoweringAudit.Audit.Sink
import LoweringAudit.Audit.Verdict
import LoweringAudit.Catalog.Basic
import LoweringAudit.Engine.Basic
/-!
An audit takes every case of a catalog, in catalog order, through the engine and to its verdict, and
writes the report as it goes. A failing case never ends the run; an engine that cannot answer or a
sink that takes no more does. An audit runs once.
-/
namespace LoweringAudit

/-- The life of an audit. -/
inductive Stage where
  | notStarted | running | completed
  deriving DecidableEq, Repr

def Stage.render : Stage → String
  | notStarted => "not started"
  | running => "running"
  | completed => "completed"

/-- Why a run gives no results. -/
inductive RunError where
  | invalidStage (stage : Stage)
  | lowering (error : LoweringError)
  | report (cause : Fault)
  deriving DecidableEq, Repr

namespace RunError

def message : RunError → String
  | invalidStage stage => "invalid driver state: run() called while " ++ stage.render
  | lowering error => error.message
  | report _ => "failed to write report"

def cause? : RunError → Option Fault
  | invalidStage _ => none
  | lowering error => error.cause?
  | report cause => some cause

end RunError

/-- What a run gives and leaves: results or an error, the sink, the log and the engine calls. -/
structure Run where
  outcome : Except RunError (List Verdict)
  sink : Sink
  log : List Log.Entry
  calls : List Request

/-- The prefix that operations of the default target have. -/
def defaultTargetPrefix : String := "llvm.x86."

structure Audit where
  catalog : Catalog
  engine : Engine
  features : FeatureSet
  targetPrefix : String := defaultTargetPrefix
  verbose : Bool := false
  stage : Stage := .notStarted

namespace Audit

/-- The warning that a pattern was found in operations of another target. -/
def warning (a : Audit) (v : Verdict) : List Log.Entry :=
  if v.matched.isSome && !v.prefixed then
    [⟨.warn, .verifier,
      v.case.title ++ ": pattern matched but no '" ++ a.targetPrefix ++ "' operation in trace"⟩]
  else []

/-- Runs the cases in order into the sink. -/
def runCases (a : Audit) : List Case → Sink → Run
  | [], sink => ⟨.ok [], sink, [], []⟩
  | c :: rest, sink =>
    let l := a.engine.lowerCase a.features c
    match l.outcome with
    | .error e => ⟨.error (.lowering e), sink, l.log, l.calls⟩
    | .ok trace =>
      let v := Verdict.judge a.targetPrefix c trace
      let said := l.log ++ a.warning v
      let (fits, sink) := sink.write (v.report a.targetPrefix a.verbose)
      if fits then
        let later := a.runCases rest sink
        ⟨later.outcome.map (v :: ·), later.sink, said ++ later.log, l.calls ++ later.calls⟩
      else ⟨.error (.report .sinkFull), sink, said, l.calls⟩

def opening (a : Audit) : Log.Entry :=
  ⟨.info, .verifier,
    "verifying " ++ toString a.catalog.size ++ " cases with engine '" ++ a.engine.name ++
      "', features " ++ Text.quotedSet a.features.toList⟩

def closing : Except RunError (List Verdict) → List Log.Entry
  | .ok vs =>
    let s := Summary.ofVerdicts vs
    [⟨.info, .verifier, s.render ++ " (" ++ toString s.failed ++ " failed)"⟩]
  | .error _ => []

/-- Runs the audit. A second run is refused and changes nothing. -/
def run (a : Audit) (sink : Sink) : Audit × Run :=
  match a.stage with
  | .notStarted =>
    let r := a.runCases a.catalog.cases sink
    ({ a with stage := .completed }, { r with log := a.opening :: r.log ++ closing r.outcome })
  | stage => (a, ⟨.error (.invalidStage stage), sink, [], []⟩)

theorem run_of_completed {a : Audit} (h : a.stage = .completed) (sink : Sink) :
    a.run sink = (a, ⟨.error (.invalidStage .completed), sink, [], []⟩) := by
  simp [run, h]

@[simp] theorem stage_run_of_notStarted {a : Audit} (h : a.stage = .notStarted) (sink : Sink) :
    (a.run sink).1.stage = .completed := by
  simp [run, h]

end Audit

end LoweringAudit
