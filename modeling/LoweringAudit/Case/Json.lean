import LoweringAudit.Builtin
import LoweringAudit.Json.Printer
import LoweringAudit.Json.Reader
/-!
Cases as JSON. A case is an object with five members, or an array of their five values in order. In
an object the members come in any order, each exactly once, and members of other names are passed
over. Operand kinds and element types are strings, or objects with the name as key and null as
value.
-/
namespace LoweringAudit

namespace Json

/-- The word of an enumeration. -/
def word? : Json → Option String
  | string text => text
  | object [(key, null)] => key
  | _ => none

def text? : Json → Option String
  | string text => text
  | _ => none

/-- The value of the only member of this name. -/
def only? (members : List (Option String × Json)) (key : String) : Option Json :=
  match members.filter fun (k, _) => k == some key with
  | [(_, value)] => some value
  | _ => none

end Json

namespace Case

/-- The case whose five values these are. -/
def ofValues? (name kind elem pattern feature : Json) : Option Case := do
  return {
    name := ← name.text?
    kind := ← OperandKind.ofName? (← kind.word?)
    elem := ← ElementType.ofName? (← elem.word?)
    pattern := ← pattern.text?
    feature := ← feature.text? }

def ofJson? : Json → Option Case
  | .array [name, kind, elem, pattern, feature] => ofValues? name kind elem pattern feature
  | .object members =>
    if members.all (·.1.isSome) then do
      let name ← Json.only? members "name"
      let kind ← Json.only? members "operand_kind"
      let elem ← Json.only? members "element_type"
      let pattern ← Json.only? members "expected_op_name"
      let feature ← Json.only? members "required_feature"
      ofValues? name kind elem pattern feature
    else none
  | _ => none

/-- The case in the text. -/
def decode? (text : String) : Option Case :=
  Json.parse? text >>= ofJson?

def toJson (c : Case) : Json :=
  .record [("name", .text c.name), ("operand_kind", .text c.kind.name),
    ("element_type", .text c.elem.name), ("expected_op_name", .text c.pattern),
    ("required_feature", .text c.feature)]

/-- The case as one line of text. -/
def encode (c : Case) : String :=
  c.toJson.compact

end Case

end LoweringAudit
