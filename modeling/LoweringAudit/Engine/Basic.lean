import LoweringAudit.Builtin
import LoweringAudit.Fault
import LoweringAudit.Feature
import LoweringAudit.Log.Basic
import LoweringAudit.Text.Quoted
import LoweringAudit.Trace
/-!
A lowering engine is the code generator under audit: a named function from a request to the names of
the operations it produces. It is asked about a case only when the case's feature is enabled.
-/
namespace LoweringAudit

/-- One call of an engine. -/
structure Request where
  builtin : String
  kind : OperandKind
  elem : ElementType
  features : FeatureSet
  deriving DecidableEq, Repr

def Case.request (c : Case) (features : FeatureSet) : Request :=
  ⟨c.name, c.kind, c.elem, features⟩

/-- How a program ended. -/
inductive ExitStatus where
  | code (n : Nat)
  /-- By a signal, whose name may be missing. -/
  | signal (n : Nat) (name : String)
  deriving DecidableEq, Repr

namespace ExitStatus

def isSuccess : ExitStatus → Bool
  | code n => n == 0
  | signal .. => false

def render : ExitStatus → String
  | code n => "exit status: " ++ toString n
  | signal n name =>
    "signal: " ++ toString n ++ if name = "" then "" else " (" ++ name ++ ")"

end ExitStatus

inductive LoweringError where
  | spawn (program : String) (cause : Fault)
  | exit (program : String) (status : ExitStatus) (complaint : String)
  | notConfigured (engine reason : String)
  deriving DecidableEq, Repr

namespace LoweringError

def message : LoweringError → String
  | spawn program _ => "failed to spawn '" ++ program ++ "'"
  | exit program status complaint =>
    "'" ++ program ++ "' exited with " ++ status.render ++ ": " ++ complaint
  | notConfigured engine reason => "engine '" ++ engine ++ "' is not configured: " ++ reason

def cause? : LoweringError → Option Fault
  | spawn _ cause => some cause
  | _ => none

end LoweringError

structure Engine where
  name : String
  lower : Request → Except LoweringError (List String)
  /-- What the engine says before it sets to work. -/
  announce : Request → List Log.Entry := fun _ => []

/-- What became of lowering one case: its trace, what was said, and the engine calls made. -/
structure Lowering where
  outcome : Except LoweringError Trace
  log : List Log.Entry
  calls : List Request

namespace Engine

/-- An engine that never fails. -/
def ofFunction (name : String) (ops : Request → List String) : Engine where
  name := name
  lower := fun r => .ok (ops r)

def skipped (c : Case) : Log.Entry :=
  ⟨.debug, .lowering,
    c.title ++ ": feature '" ++ c.feature ++ "' not enabled, skipping lowering"⟩

def lowered (engine : Engine) (c : Case) (ops : List String) : Log.Entry :=
  ⟨.debug, .lowering,
    c.title ++ " lowered by " ++ engine.name ++ " to " ++ Text.quotedList ops⟩

/-- A case without its feature has an empty trace, and the engine does not hear of it. -/
def lowerCase (engine : Engine) (features : FeatureSet) (c : Case) : Lowering :=
  if c.feature ∈ features then
    let request := c.request features
    match engine.lower request with
    | .error e => ⟨.error e, engine.announce request, [request]⟩
    | .ok ops => ⟨.ok ⟨ops⟩, engine.announce request ++ [engine.lowered c ops], [request]⟩
  else ⟨.ok ∅, [skipped c], []⟩

theorem lowerCase_of_not_mem {engine : Engine} {features : FeatureSet} {c : Case}
    (h : ¬ c.feature ∈ features) :
    engine.lowerCase features c = ⟨.ok ∅, [skipped c], []⟩ := by
  simp [lowerCase, h]

end Engine

end LoweringAudit
