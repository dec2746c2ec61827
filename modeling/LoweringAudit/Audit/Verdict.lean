import LoweringAudit.Builtin
import LoweringAudit.Trace
/-!
The verdict on one case and the summary of many. A case passes when some operation of its trace
contains the expected pattern and some operation, not necessarily the same, starts with the target's
prefix. Main statement: the summary's counts add up.
-/
namespace LoweringAudit

structure Verdict where
  case : Case
  trace : Trace
  /-- The first operation that contains the pattern. -/
  matched : Option String
  /-- Whether some operation starts with the target's prefix. -/
  prefixed : Bool
  deriving DecidableEq, Repr

namespace Verdict

def judge (targetPrefix : String) (c : Case) (trace : Trace) : Verdict :=
  ⟨c, trace, trace.firstMatch c.pattern, trace.hasPrefix targetPrefix⟩

def passed (v : Verdict) : Bool :=
  v.matched.isSome && v.prefixed

/-- The report line of a case that failed. -/
def failureLine (v : Verdict) (targetPrefix : String) : String :=
  "FAIL " ++ v.case.title ++ ": " ++
    (if v.matched.isNone then "expected \"" ++ v.case.pattern ++ "\" not found in ["
      else "no \"" ++ targetPrefix ++ "\" operation in [") ++
    v.trace.render ++ "]"

/-- The report line of a case that passed. -/
def passLine (v : Verdict) : String :=
  "PASS " ++ v.case.title ++ ": " ++ v.matched.getD ""

/-- What a report says of a case: passing cases are named only in a verbose one. -/
def report (v : Verdict) (targetPrefix : String) (verbose : Bool) : String :=
  if v.passed then (if verbose then v.passLine ++ "\n" else "")
  else v.failureLine targetPrefix ++ "\n"

end Verdict

structure Summary where
  total : Nat
  passed : Nat
  failed : Nat
  /-- The names of the failing builtins in run order. -/
  failingNames : List String
  deriving DecidableEq, Repr

namespace Summary

/-- The summary of named outcomes. -/
def ofOutcomes (outcomes : List (String × Bool)) : Summary where
  total := outcomes.length
  passed := outcomes.countP (·.2)
  failed := outcomes.countP (!·.2)
  failingNames := (outcomes.filter (!·.2)).map Prod.fst

def ofVerdicts (vs : List Verdict) : Summary :=
  ofOutcomes (vs.map fun v => (v.case.name, v.passed))

def isSuccess (s : Summary) : Bool :=
  s.failed == 0

def render (s : Summary) : String :=
  "PASSED " ++ toString s.passed ++ "/" ++ toString s.total

theorem passed_add_failed (outcomes : List (String × Bool)) :
    (ofOutcomes outcomes).passed + (ofOutcomes outcomes).failed = (ofOutcomes outcomes).total := by
  induction outcomes with
  | nil => rfl
  | cons o rest ih =>
    simp only [ofOutcomes, List.countP_cons, List.length_cons] at ih ⊢
    cases o.2 <;> simp <;> omega

theorem length_failingNames (outcomes : List (String × Bool)) :
    (ofOutcomes outcomes).failingNames.length = (ofOutcomes outcomes).failed := by
  simp [ofOutcomes, List.countP_eq_length_filter]

end Summary

end LoweringAudit
