import LoweringAudit.Engine.Template
import LoweringAudit.Symbol
import LoweringAudit.Text.Blank
import LoweringAudit.Text.Utf8
/-!
The command engine runs a program for each request and takes the intrinsic symbols in its output as
the trace. The machine that runs programs is a parameter: a function from a program and its
arguments to how the program ended.
-/
namespace LoweringAudit

/-- How a program ended and what it wrote. -/
structure Exit where
  status : ExitStatus
  output : List UInt8
  complaint : List UInt8
  deriving DecidableEq, Repr

abbrev Programs := String → List String → Except Fault Exit

/-- The trimmed text of the error stream. -/
def Exit.complaintText (e : Exit) : String :=
  String.ofList (Text.trim (Utf8.decodeLossy e.complaint))

/-- The symbols in the output, if the program succeeded. -/
def Exit.symbols (program : String) (e : Exit) : Except LoweringError (List String) :=
  if e.status.isSuccess then .ok (Symbol.extract (Utf8.decodeLossy e.output))
  else .error (.exit program e.status e.complaintText)

def Engine.command (programs : Programs) (program : String) (templates : List String) :
    Engine where
  name := program
  lower := fun r =>
    match programs program (r.fillTemplates templates) with
    | .error cause => .error (.spawn program cause)
    | .ok e => e.symbols program
  announce := fun r =>
    [⟨.debug, .command,
      "running " ++ program ++ " " ++ Text.quotedList (r.fillTemplates templates)⟩]

end LoweringAudit
