import LoweringAudit.Catalog.Basic
import LoweringAudit.Text.Blank
/-!
The text form of a catalog: a case a line, its fields between commas.

    name,operandKind,elementType,pattern[,feature]

Blank lines and lines that begin with `#` hold no case. Blanks around a line and around a field are
not part of it. A line without a fifth field takes the default feature as it stands. A fault of form
in any line comes before every fault of content, since cases are checked together once all are read.
-/
namespace LoweringAudit.Catalog

/-- Whether a trimmed line holds a case. -/
def isCaseLine (line : List Char) : Bool :=
  match line with
  | [] => false
  | c :: _ => c != '#'

/-- The trimmed lines that hold cases, each with its number in the text, counted from 1. -/
def caseLines (text : List Char) : List (Nat × List Char) :=
  (((text.splitOn '\n').zipIdx 1).map fun (line, n) => (n, Text.trim line)).filter
    fun (_, line) => isCaseLine line

/-- The trimmed fields of a line. -/
def fields (line : List Char) : List (List Char) :=
  (line.splitOn ',').map Text.trim

/-- The case of a name, kind, element type and pattern as written, and of its feature. -/
def readFields (line : Nat) (name kind elem pattern : List Char) (feature : String) :
    Except CatalogError Numbered :=
  match OperandKind.ofWord? kind with
  | none => .error (.unknownKind line (String.ofList kind))
  | some k =>
    match ElementType.ofWord? elem with
    | none => .error (.unknownElem line (String.ofList elem))
    | some e => .ok (line, ⟨String.ofList name, k, e, String.ofList pattern, feature⟩)

/-- The case of one numbered line. -/
def readLine (defaultFeature : String) : Nat × List Char → Except CatalogError Numbered
  | (n, line) =>
    match fields line with
    | [name, kind, elem, pattern] => readFields n name kind elem pattern defaultFeature
    | [name, kind, elem, pattern, feature] =>
      readFields n name kind elem pattern (String.ofList feature)
    | others => .error (.fieldCount n others.length)

def parse (text defaultFeature : String) : Except CatalogError Catalog := do
  check (← (caseLines text.toList).mapM (readLine defaultFeature))

/-- A case as one line of text, without its end. -/
def renderCase (c : Case) : String :=
  ",".intercalate [c.name, c.kind.name, c.elem.name, c.pattern, c.feature]

def render (catalog : Catalog) : String :=
  String.join (catalog.cases.map fun c => renderCase c ++ "\n")

end LoweringAudit.Catalog
