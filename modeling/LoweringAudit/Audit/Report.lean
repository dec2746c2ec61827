import LoweringAudit.Audit.Verdict
import LoweringAudit.Case.Json
import LoweringAudit.Feature
/-!
The JSON report: one document with the summary and every verdict, its keys in alphabetical order. A
verdict that failed carries its failure line as a message.
-/
namespace LoweringAudit

/-- The case with its keys in alphabetical order. -/
def Case.toSortedJson (c : Case) : Json :=
  .record [("element_type", .text c.elem.name), ("expected_op_name", .text c.pattern),
    ("name", .text c.name), ("operand_kind", .text c.kind.name),
    ("required_feature", .text c.feature)]

def Verdict.toJson (v : Verdict) (targetPrefix : String) : Json :=
  .record ([("actual_trace", .texts v.trace.ops), ("case", v.case.toSortedJson),
    ("matched", .textOrNull v.matched)] ++
    (if v.passed then [] else [("message", .text (v.failureLine targetPrefix))]) ++
    [("passed", .bool v.passed), ("prefixed", .bool v.prefixed)])

def Summary.toJson (s : Summary) : Json :=
  .record [("failed", .nat s.failed), ("failing_names", .texts s.failingNames),
    ("passed", .nat s.passed), ("total", .nat s.total)]

/-- What a JSON report is made from. -/
structure Report where
  catalog : String
  engine : String
  features : FeatureSet
  targetPrefix : String
  verdicts : List Verdict

namespace Report

def toJson (r : Report) : Json :=
  .record [("catalog", .text r.catalog), ("engine", .text r.engine),
    ("features", .texts r.features.toList),
    ("results", .array (r.verdicts.map fun v => v.toJson r.targetPrefix)),
    ("summary", (Summary.ofVerdicts r.verdicts).toJson)]

/-- The document, and a line end after it. -/
def render (r : Report) : String :=
  r.toJson.pretty ++ "\n"

end Report

end LoweringAudit
