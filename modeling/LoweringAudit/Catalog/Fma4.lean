import LoweringAudit.Catalog.Basic
/-!
The FMA4 instructions and the catalog built from them. An operation of a builtin (`macc`) becomes an
instruction (`vfmadd`); four of the six have scalar forms. The built-in catalog lists the 128-bit
forms, operation by operation, and after them the 256-bit ones.
-/
namespace LoweringAudit.Fma4

/-- The target feature that FMA4 builtins need. -/
def feature : String := "fma4"

structure Operation where
  /-- The builtin's name up to its type suffix. -/
  name : String
  mnemonic : String
  hasScalar : Bool
  deriving DecidableEq, Repr

def operations : List Operation :=
  [⟨"macc", "vfmadd", true⟩, ⟨"msub", "vfmsub", true⟩, ⟨"nmacc", "vfnmadd", true⟩,
    ⟨"nmsub", "vfnmsub", true⟩, ⟨"maddsub", "vfmaddsub", false⟩, ⟨"msubadd", "vfmsubadd", false⟩]

/-- The instruction on operands of one form, such as `vfmadd.ps.256`. -/
def Operation.instruction (op : Operation) (kind : OperandKind) (elem : ElementType) : String :=
  op.mnemonic ++ "." ++ elem.suffix kind ++ if kind.widthBits = 256 then ".256" else ""

/-- The case of one form of an operation. -/
def Operation.case (op : Operation) (kind : OperandKind) (elem : ElementType) : Case where
  name := op.name ++ "_" ++ elem.suffix kind
  kind := kind
  elem := elem
  pattern := feature ++ "." ++ op.instruction kind elem
  feature := feature

def Operation.cases (op : Operation) (kind : OperandKind) : List Case :=
  ElementType.all.map (op.case kind)

def cases : List Case :=
  (operations.flatMap fun op =>
      op.cases .packed128 ++ if op.hasScalar then op.cases .scalar128 else []) ++
    operations.flatMap fun op => op.cases .packed256

/-- The catalog built in. -/
def catalog : Except CatalogError Catalog :=
  Catalog.ofCases cases

end LoweringAudit.Fma4
