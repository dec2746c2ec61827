import LoweringAudit.Catalog.Fma4
import LoweringAudit.Engine.Basic
/-!
The reference engine models how the FMA4 builtins are lowered: the builtin's operation picks the
instruction, operand kind and element type pick its form, and nothing is lowered without the FMA4
feature. What follows the last underscore of the builtin's name has no say.
-/
namespace LoweringAudit.Fma4

/-- The name up to its last underscore; the whole name if it has none. -/
def stem (name : List Char) : List Char :=
  match name.reverse.dropWhile (· != '_') with
  | [] => name
  | _ :: front => front.reverse

def operation? (builtin : String) : Option Operation :=
  operations.find? fun op => op.name.toList == stem builtin.toList

/-- Whether the operation has a form on operands of this kind. -/
def Operation.hasForm (op : Operation) (kind : OperandKind) : Bool :=
  kind.isPacked || op.hasScalar

/-- What the names of all FMA4 intrinsics begin with. -/
def intrinsicPrefix : String := "llvm.x86.fma4."

/-- The intrinsic that a builtin becomes, if it has that form. -/
def intrinsicFor (builtin : String) (kind : OperandKind) (elem : ElementType) : Option String :=
  match operation? builtin with
  | some op => if op.hasForm kind then some (intrinsicPrefix ++ op.instruction kind elem) else none
  | none => none

end LoweringAudit.Fma4

namespace LoweringAudit.Engine

/-- The operations of a request under the FMA4 table. -/
def referenceOps (r : Request) : List String :=
  if Fma4.feature ∈ r.features then (Fma4.intrinsicFor r.builtin r.kind r.elem).toList else []

def reference : Engine :=
  ofFunction "reference" referenceOps

end LoweringAudit.Engine
