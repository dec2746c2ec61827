import LoweringAudit.Shell.Tool.Basic
import LoweringAudit.Shell.Tool.Matching
/-!
Expressions in arguments: sums, comparisons, choices and questions about texts. All values are
texts, some of which write whole numbers.
-/
namespace LoweringAudit.Shell.Tool

namespace Reckoning

inductive Fault where
  | missingArgument (after : String)
  | missingClosing (after : String)
  | unexpected (argument : String)
  | notNumber
  | divisionByZero
  | badPattern (message : String)
  deriving DecidableEq, Repr

def Fault.message : Fault → String
  | missingArgument after => "syntax error: missing argument after " ++ quotedText after
  | missingClosing after => "syntax error: expecting ')' after " ++ quotedText after
  | unexpected a => "syntax error: unexpected argument " ++ quotedText a
  | notNumber => "non-integer argument"
  | divisionByZero => "division by zero"
  | badPattern message => message

/-- The arguments that are left, and the one before them. -/
structure Place where
  rest : List String
  before : String

abbrev Reckon := StateT Place (Except Fault)

def next? : Reckon (Option String) := do
  return (← get).rest.head?

def take : Reckon String := do
  match (← get).rest with
  | [] => throw (.missingArgument (← get).before)
  | a :: rest =>
    set (⟨rest, a⟩ : Place)
    return a

/-- The whole number that a text writes. -/
def number? (s : String) : Option Int :=
  let (isNegative, ds) := match s.toList with
    | '-' :: rest => (true, rest)
    | ds => (false, ds)
  if ds ≠ [] ∧ ds.all Char.isDigit then
    let n : Int := Text.natOfDigits 10 ds
    some (if isNegative then -n else n)
  else none

/-- Whether a value counts as none. -/
def isNull (s : String) : Bool :=
  s == "" || number? s == some 0

def truth (b : Bool) : String :=
  if b then "1" else "0"

/-- What the beginning of a text gives for a pattern: its first group, or how long it is. -/
def matched (s pattern : String) : Except Fault String := do
  match ({} : Writing).read pattern.toList with
  | .error message => throw (.badPattern message)
  | .ok f =>
    let text := s.toList.toArray
    let hasGroups := decide (0 < f.groupCount)
    match f.foundAt? text 0 with
    | none => return if hasGroups then "" else "0"
    | some m => return if hasGroups then String.ofList (m.group text 1) else toString m.stop

def compareValues (operator a b : String) : Bool :=
  let order := match number? a, number? b with
    | some m, some n => compare m n
    | _, _ => compare a b
  match operator with
  | "<" => order == .lt
  | "<=" => order != .gt
  | "=" => order == .eq
  | "==" => order == .eq
  | "!=" => order != .eq
  | ">=" => order != .lt
  | _ => order == .gt

def calculate (operator a b : String) : Except Fault String := do
  match number? a, number? b with
  | some m, some n =>
    match operator with
    | "+" => return toString (m + n)
    | "-" => return toString (m - n)
    | "*" => return toString (m * n)
    | "/" => if n = 0 then throw .divisionByZero else return toString (m.tdiv n)
    | _ => if n = 0 then throw .divisionByZero else return toString (m.tmod n)
  | _, _ => throw .notNumber

def combine (operator a b : String) : Except Fault String :=
  match operator with
  | "|" => .ok (if !isNull a then a else if !isNull b then b else "0")
  | "&" => .ok (if isNull a || isNull b then "0" else a)
  | ":" => matched a b
  | operator =>
    if operator ∈ ["+", "-", "*", "/", "%"] then calculate operator a b
    else .ok (truth (compareValues operator a b))

/-- The operators, those that bind least first. -/
def levels : List (List String) :=
  [["|"], ["&"], ["<", "<=", "=", "==", "!=", ">=", ">"], ["+", "-"], ["*", "/", "%"], [":"]]

/-- Operands with operators of one level between them, from left to right. -/
def chain (operand : Reckon String) (operators : List String) : Nat → String → Reckon String
  | 0, a => return a
  | n + 1, a => do
    match ← next? with
    | none => return a
    | some operator =>
      if operator ∈ operators then
        let _ ← take
        let b ← operand
        match combine operator a b with
        | .ok value => chain operand operators n value
        | .error f => throw f
      else return a

def level (operand : Reckon String) : List (List String) → Reckon String
  | [] => operand
  | operators :: tighter => do
    let inner := level operand tighter
    chain inner operators (← get).rest.length (← inner)

/-- A value, a question about texts, or an expression in brackets. -/
def operand : Nat → Reckon String
  | 0 => take
  | n + 1 => do
    match ← take with
    | "(" =>
      let value ← level (operand n) levels
      match ← next? with
      | some ")" =>
        let _ ← take
        return value
      | some other => throw (.unexpected other)
      | none => throw (.missingClosing (← get).before)
    | ")" => throw (.unexpected ")")
    | "+" => take
    | "length" => return toString (← operand n).length
    | "match" =>
      let s ← operand n
      match matched s (← operand n) with
      | .ok value => return value
      | .error f => throw f
    | "index" =>
      let s ← operand n
      let set ← operand n
      return toString (match s.toList.findIdx? (· ∈ set.toList) with
        | some i => i + 1
        | none => 0)
    | "substr" =>
      let s ← operand n
      match number? (← operand n), number? (← operand n) with
      | some start, some size =>
        if start < 1 ∨ size < 1 then return ""
        return String.ofList ((s.toList.drop (start.toNat - 1)).take size.toNat)
      | _, _ => return ""
    | a => return a

/-- The value of an expression. -/
def evaluate (arguments : List String) : Except Fault String := do
  let bound := arguments.length + 1
  let (value, left) ← (level (operand bound) levels).run ⟨arguments, ""⟩
  match left.rest with
  | [] => return value
  | a :: _ => throw (.unexpected a)

end Reckoning

open Act

/-- Shows the value of its arguments; the status is one for a value that counts as none. -/
def reckon : Tool := fun caller arguments => do
  match if arguments.head? = some "--" then arguments.tail else arguments with
  | [] =>
    let _ ← refuse caller "missing operand"
    return 2
  | arguments =>
    match Reckoning.evaluate arguments with
    | .ok value => emit caller (value.toList ++ ['\n']) (if Reckoning.isNull value then 1 else 0)
    | .error f =>
      let _ ← blame caller f.message
      return 2

end LoweringAudit.Shell.Tool
