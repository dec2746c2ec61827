import LoweringAudit.Toml.Moment
import LoweringAudit.Toml.Text.Reader
/-!
TOML documents. A document is read as a list of statements: headers, headers in double brackets and
assignments. Carried out in order, the statements build the document's table. Values nest to a fixed
depth, and so do keys.
-/
namespace LoweringAudit.Toml

/-- A reader takes something from the front of a text and gives the rest. -/
abbrev Reader (α : Type) := List Char → Option (α × List Char)

def isBlank (c : Char) : Bool :=
  c == ' ' || c == '\t'

def skipBlanks (s : List Char) : List Char :=
  s.dropWhile isBlank

/-- A character of a key without quotes. -/
def isBare (c : Char) : Bool :=
  c.isAlphanum || c == '_' || c == '-'

/-- One step of a key: quoted, or bare and not empty. -/
def step? : Reader String
  | '"' :: rest =>
    (Text.readBasic false (.between false) rest).map fun (s, r) => (String.ofList s, r)
  | '\'' :: rest => (Text.readLiteral false rest).map fun (s, r) => (String.ofList s, r)
  | s =>
    match s.takeWhile isBare with
    | [] => none
    | run => some (String.ofList run, s.dropWhile isBare)

/-- Steps with dots between them, each with blanks around it. -/
def steps? : Nat → Reader (List String)
  | 0, _ => none
  | bound + 1, s =>
    match step? (skipBlanks s) with
    | none => none
    | some (step, rest) =>
      match skipBlanks rest with
      | '.' :: rest => (steps? bound rest).map fun (more, r) => (step :: more, r)
      | rest => some ([step], rest)

/-- How deep values nest and how many steps a key has, and one more. -/
def depthBound : Nat := 80

/-- A key: the steps on the way, and the last one. -/
structure Key where
  path : List String
  name : String
  deriving DecidableEq, Repr

def Key.ofSteps? (steps : List String) : Option Key :=
  steps.getLast?.map fun name => ⟨steps.dropLast, name⟩

def key? (s : List Char) : Option (Key × List Char) := do
  let (steps, rest) ← steps? (depthBound - 1) s
  return (← Key.ofSteps? steps, rest)

/-- What follows a line feed, or a carriage return and one. -/
def lineFeed? : List Char → Option (List Char)
  | '\n' :: rest => some rest
  | '\r' :: '\n' :: rest => some rest
  | _ => none

/-- The text without the comment it begins with. -/
def skipComment : List Char → List Char
  | '#' :: rest => rest.dropWhile Text.isPlain
  | s => s

/-- What follows the end of a line: blanks, perhaps a comment, and the line feed or the end. -/
def lineEnd? (s : List Char) : Option (List Char) :=
  match skipComment (skipBlanks s) with
  | [] => some []
  | rest => lineFeed? rest

/-- Blanks, comments and line feeds between the items of an array. -/
def skipGap? : Nat → List Char → Option (List Char)
  | 0, _ => none
  | bound + 1, s =>
    match skipBlanks s with
    | '#' :: rest => (lineFeed? (skipComment ('#' :: rest))).bind (skipGap? bound)
    | '\n' :: rest => skipGap? bound rest
    | '\r' :: rest => (lineFeed? ('\r' :: rest)).bind (skipGap? bound)
    | rest => some rest

def gap? (s : List Char) : Option (List Char) :=
  skipGap? (s.length + 1) s

/-- The items of an array after its opening bracket. A comma may stand before the closing one. -/
def items? (value : Reader Value) : Nat → Reader (List Value)
  | 0, _ => none
  | bound + 1, s =>
    match gap? s with
    | none => none
    | some (']' :: rest) => some ([], rest)
    | some rest =>
      match value rest with
      | none => none
      | some (v, rest) =>
        match gap? rest with
        | some (',' :: rest) => (items? value bound rest).map fun (vs, r) => (v :: vs, r)
        | some (']' :: rest) => some ([v], rest)
        | _ => none

/-- A key, an equals sign and a value. -/
def pair? (value : Reader Value) (s : List Char) : Option ((Key × Value) × List Char) :=
  match key? s with
  | some (key, '=' :: rest) => (value (skipBlanks rest)).map fun (v, r) => ((key, v), r)
  | _ => none

/-- At least one pair, up to the closing brace. -/
def pairs? (value : Reader Value) : Nat → Reader (List (Key × Value))
  | 0, _ => none
  | bound + 1, s =>
    match pair? value s with
    | none => none
    | some (p, rest) =>
      match skipBlanks rest with
      | ',' :: rest => (pairs? value bound rest).map fun (ps, r) => (p :: ps, r)
      | '}' :: rest => some ([p], rest)
      | _ => none

/-- The pairs of a table in line, after its opening brace. -/
def inline? (value : Reader Value) (s : List Char) : Option (List (Key × Value) × List Char) :=
  match skipBlanks s with
  | '}' :: rest => some ([], rest)
  | rest => pairs? value rest.length rest

/-- The table of some pairs, if no pair gets in the way of another. -/
def tableOf? (pairs : List (Key × Value)) : Option Entries :=
  pairs.foldlM (fun entries (key, v) => entries.assign? key.name v key.path) []

/-- A value; the bound is on the brackets and braces around it that are still allowed. -/
def value? : Nat → Reader Value
  | depth, s =>
    match s with
    | 't' :: 'r' :: 'u' :: 'e' :: rest => some (.boolean true, rest)
    | 'f' :: 'a' :: 'l' :: 's' :: 'e' :: rest => some (.boolean false, rest)
    | '[' :: rest =>
      match depth with
      | 0 => none
      | depth + 1 =>
        (items? (value? depth) rest.length rest).map fun (vs, r) => (.array false vs, r)
    | '{' :: rest =>
      match depth with
      | 0 => none
      | depth + 1 => do
        let (pairs, rest) ← inline? (value? depth) rest
        return (.table .inlined (← tableOf? pairs), rest)
    | s =>
      match Text.read s with
      | some (t, rest) => some (.string (String.ofList t), rest)
      | none => (Moment.read? s).orElse fun _ => Number.read? s

inductive Statement where
  /-- The table at this key is defined, and what follows is set in it. -/
  | table (key : Key)
  /-- A table is added to the array at this key, and what follows is set in it. -/
  | element (key : Key)
  | assign (key : Key) (value : Value)
  deriving Repr

/-- A statement and the end of its line. -/
def statement? (s : List Char) : Option (Statement × List Char) :=
  match s with
  | '[' :: '[' :: rest =>
    match key? rest with
    | some (key, ']' :: ']' :: rest) => (lineEnd? rest).map fun r => (.element key, r)
    | _ => none
  | '[' :: rest =>
    match key? rest with
    | some (key, ']' :: rest) => (lineEnd? rest).map fun r => (.table key, r)
    | _ => none
  | s => do
    let ((key, v), rest) ← pair? (value? (depthBound - 1)) s
    return (.assign key v, ← lineEnd? rest)

def statements? : Nat → List Char → Option (List Statement)
  | 0, _ => none
  | bound + 1, s =>
    match skipBlanks s with
    | [] => some []
    | c :: rest =>
      if c = '#' ∨ c = '\n' ∨ c = '\r' then (lineEnd? (c :: rest)).bind (statements? bound)
      else
        match statement? (c :: rest) with
        | some (st, rest) => (statements? bound rest).map (st :: ·)
        | none => none

/-- A document as far as it is built: its table, and the key of the table that is being filled. -/
structure Document where
  entries : Entries
  current : List String

namespace Document

def empty : Document := ⟨[], []⟩

def carryOut? (d : Document) : Statement → Option Document
  | .table key =>
    (d.entries.at? (Entries.define? key.name) key.path).map (⟨·, key.path ++ [key.name]⟩)
  | .element key =>
    (d.entries.at? (Entries.append? key.name) key.path).map (⟨·, key.path ++ [key.name]⟩)
  | .assign key v =>
    (d.entries.at? (Entries.assign? key.name v key.path) d.current).map (⟨·, d.current⟩)

def ofStatements? (statements : List Statement) : Option Document :=
  statements.foldlM carryOut? empty

end Document

/-- The text without the mark of byte order that it may begin with. -/
def dropMark : List Char → List Char
  | '\uFEFF' :: rest => rest
  | s => s

/-- The table of a document. -/
def parse? (text : String) : Option Entries := do
  let s := dropMark text.toList
  return (← Document.ofStatements? (← statements? (s.length + 1) s)).entries

end LoweringAudit.Toml
