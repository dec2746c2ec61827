import LoweringAudit.Text.Ascii
/-!
The vector builtins under audit. A builtin works on operands of a kind (register width, and whether
every lane is computed) and of an element type; one name can stand for several such forms, so a
case is known within a catalog by name, kind and element type together.
-/
namespace LoweringAudit

inductive OperandKind where
  | packed128 | scalar128 | packed256
  deriving DecidableEq, Repr

namespace OperandKind

def name : OperandKind → String
  | packed128 => "Packed128"
  | scalar128 => "Scalar128"
  | packed256 => "Packed256"

/-- Whether every lane is computed, not only the lowest. -/
def isPacked : OperandKind → Bool
  | scalar128 => false
  | _ => true

def widthBits : OperandKind → Nat
  | packed256 => 256
  | _ => 128

def all : List OperandKind := [packed128, scalar128, packed256]

/-- The kind of exactly this name. -/
def ofName? (s : String) : Option OperandKind :=
  all.find? fun k => k.name == s

/-- The kind of this name in any mixture of ASCII letter cases. -/
def ofWord? (s : List Char) : Option OperandKind :=
  all.find? fun k => Text.sameLetters k.name.toList s

@[simp] theorem ofName?_name (k : OperandKind) : ofName? k.name = some k := by
  cases k <;> decide

@[simp] theorem ofWord?_name (k : OperandKind) : ofWord? k.name.toList = some k := by
  cases k <;> decide

end OperandKind

inductive ElementType where
  | float32 | float64
  deriving DecidableEq, Repr

namespace ElementType

def name : ElementType → String
  | float32 => "Float32"
  | float64 => "Float64"

def shortName : ElementType → String
  | float32 => "f32"
  | float64 => "f64"

def all : List ElementType := [float32, float64]

/-- The type of exactly this name. -/
def ofName? (s : String) : Option ElementType :=
  all.find? fun e => e.name == s

/-- The type of this long or short name in any mixture of ASCII letter cases. -/
def ofWord? (s : List Char) : Option ElementType :=
  all.find? fun e =>
    Text.sameLetters e.name.toList s || Text.sameLetters e.shortName.toList s

/-- The ending of an instruction on elements of this type: packed or scalar, single or double. -/
def suffix (e : ElementType) (k : OperandKind) : String :=
  match k.isPacked, e with
  | true, float32 => "ps"
  | true, float64 => "pd"
  | false, float32 => "ss"
  | false, float64 => "sd"

@[simp] theorem ofName?_name (e : ElementType) : ofName? e.name = some e := by
  cases e <;> decide

@[simp] theorem ofWord?_name (e : ElementType) : ofWord? e.name.toList = some e := by
  cases e <;> decide

end ElementType

/-- One builtin to audit. -/
structure Case where
  name : String
  kind : OperandKind
  elem : ElementType
  /-- Text that some operation of the lowering must contain. -/
  pattern : String
  /-- Target feature without which the builtin is not lowered at all. -/
  feature : String
  deriving DecidableEq, Repr

namespace Case

abbrev Key := String × OperandKind × ElementType

/-- What tells the case from the others of its catalog. -/
def key (c : Case) : Key :=
  (c.name, c.kind, c.elem)

/-- The case as reports and logs name it. -/
def title (c : Case) : String :=
  c.name ++ " " ++ c.kind.name ++ " " ++ c.elem.name

/-- None of the free texts of the case is empty. -/
def Complete (c : Case) : Prop :=
  c.name ≠ "" ∧ c.pattern ≠ "" ∧ c.feature ≠ ""

instance (c : Case) : Decidable c.Complete :=
  inferInstanceAs (Decidable (_ ∧ _))

end Case

end LoweringAudit
