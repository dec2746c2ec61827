import LoweringAudit.Json.Basic
import LoweringAudit.Json.Literal
/-!
Reading JSON. A reader takes a value from the front of a text and gives back the rest. Values nest,
so a reader has a bound on the depth it may go to; the length of the text is always enough.
-/
namespace LoweringAudit.Json

def isBlank (c : Char) : Bool :=
  c == ' ' || c == '\t' || c == '\n' || c == '\r'

def skipBlanks (s : List Char) : List Char :=
  s.dropWhile isBlank

/-- A run of at least one digit. -/
def digits? (s : List Char) : Option (List Char × List Char) :=
  match s.takeWhile Char.isDigit with
  | [] => none
  | run => some (run, s.dropWhile Char.isDigit)

/-- The digits before the point: a lone zero, or a run that starts with another digit. -/
def whole? : List Char → Option (List Char × List Char)
  | '0' :: rest => if (rest.head?.map Char.isDigit).getD false then none else some (['0'], rest)
  | s => digits? s

/-- The point and the digits after it, if there is a point. -/
def fraction? : List Char → Option (List Char × List Char)
  | '.' :: rest => (digits? rest).map fun (run, r) => ('.' :: run, r)
  | s => some ([], s)

def sign : List Char → List Char × List Char
  | '+' :: rest => (['+'], rest)
  | '-' :: rest => (['-'], rest)
  | s => ([], s)

/-- The exponent, if there is one. -/
def exponent? : List Char → Option (List Char × List Char)
  | c :: rest =>
    if c = 'e' ∨ c = 'E' then
      (digits? (sign rest).2).map fun (run, r) => (c :: (sign rest).1 ++ run, r)
    else some ([], c :: rest)
  | [] => some ([], [])

/-- A number without its minus. -/
def magnitude? (s : List Char) : Option (List Char × List Char) := do
  let (whole, s) ← whole? s
  let (fraction, s) ← fraction? s
  let (exponent, s) ← exponent? s
  return (whole ++ fraction ++ exponent, s)

def number? : List Char → Option (Json × List Char)
  | '-' :: rest =>
    (magnitude? rest).map fun (m, r) => (number (String.ofList ('-' :: m)), r)
  | s => (magnitude? s).map fun (m, r) => (number (String.ofList m), r)

/-- At least one item, with commas between them, up to the closing character. -/
def separated (item : List Char → Option (α × List Char)) (close : Char) :
    Nat → List Char → Option (List α × List Char)
  | 0, _ => none
  | bound + 1, s =>
    match item s with
    | none => none
    | some (a, s) =>
      match skipBlanks s with
      | [] => none
      | c :: rest =>
        if c = close then some ([a], rest)
        else if c = ',' then
          (separated item close bound rest).map fun (more, r) => (a :: more, r)
        else none

/-- Items up to the closing character, perhaps none. -/
def enclosed (item : List Char → Option (α × List Char)) (close : Char) (s : List Char) :
    Option (List α × List Char) :=
  match skipBlanks s with
  | [] => none
  | c :: rest => if c = close then some ([], rest) else separated item close s.length s

/-- A key, a colon and a value. -/
def member? (value : List Char → Option (Json × List Char)) (s : List Char) :
    Option ((Option String × Json) × List Char) :=
  match skipBlanks s with
  | '"' :: rest =>
    match Literal.read rest with
    | none => none
    | some (key, rest) =>
      match skipBlanks rest with
      | ':' :: rest => (value rest).map fun (j, r) => ((key, j), r)
      | _ => none
  | _ => none

def value? : Nat → List Char → Option (Json × List Char)
  | 0, _ => none
  | depth + 1, s =>
    match skipBlanks s with
    | 'n' :: 'u' :: 'l' :: 'l' :: rest => some (null, rest)
    | 't' :: 'r' :: 'u' :: 'e' :: rest => some (bool true, rest)
    | 'f' :: 'a' :: 'l' :: 's' :: 'e' :: rest => some (bool false, rest)
    | '"' :: rest => (Literal.read rest).map fun (t, r) => (string t, r)
    | '[' :: rest => (enclosed (value? depth) ']' rest).map fun (items, r) => (array items, r)
    | '{' :: rest =>
      (enclosed (member? (value? depth)) '}' rest).map fun (ms, r) => (object ms, r)
    | s => number? s

/-- The value that is the whole text. -/
def parse? (text : String) : Option Json :=
  match value? (text.toList.length + 1) text.toList with
  | some (j, rest) => if skipBlanks rest = [] then some j else none
  | none => none

end LoweringAudit.Json
