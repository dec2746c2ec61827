import LoweringAudit.Fault
import LoweringAudit.Text.Utf8
/-!
Files as the program sees them: what reading a path gives, and whether a path is that of a regular
file. Nothing else is asked of a file system.
-/
namespace LoweringAudit

structure Files where
  read : String → Except Fault (List UInt8)
  isFile : String → Bool

namespace Files

/-- The text of a file, which must be UTF-8. -/
def readText (files : Files) (path : String) : Except Fault String :=
  match files.read path with
  | .error cause => .error cause
  | .ok octets =>
    match Utf8.decode? octets with
    | some s => .ok (String.ofList s)
    | none => .error .notUtf8

end Files

end LoweringAudit
