/-!
JSON values. A string literal may hold the escape of a surrogate that is no half of a pair; such a
literal is well formed but stands for no text, so a string carries its text as an option.
-/
namespace LoweringAudit

inductive Json where
  | null
  | bool (value : Bool)
  | number (literal : String)
  | string (text : Option String)
  | array (items : List Json)
  | object (members : List (Option String × Json))
  deriving Repr

namespace Json

/-- A string with text. -/
def text (s : String) : Json :=
  string (some s)

def nat (n : Nat) : Json :=
  number (toString n)

def texts (items : List String) : Json :=
  array (items.map text)

/-- An object whose keys are texts. -/
def record (members : List (String × Json)) : Json :=
  object (members.map fun (key, value) => (some key, value))

/-- A text, or null in its absence. -/
def textOrNull : Option String → Json
  | some s => text s
  | none => null

end Json

end LoweringAudit
