import LoweringAudit.Shell.Number
/-!
Tests: comparisons of words and of whole numbers and questions about files, joined by `!`, `-a`,
`-o` and round brackets. What would be an operator is an operand where the words around it leave it
no other part.
-/
namespace LoweringAudit.Shell

/-- Why a test has no answer. -/
inductive TestFault where
  | illegalNumber (word : String)
  | argumentExpected (operator : String)
  | unexpectedOperator (word : String)
  | openBracket
  deriving DecidableEq, Repr

def TestFault.message : TestFault → String
  | illegalNumber word => "Illegal number: " ++ word
  | argumentExpected operator => operator ++ ": argument expected"
  | unexpectedOperator word =>
    if word = "" then "unexpected operator" else word ++ ": unexpected operator"
  | openBracket => "closing paren expected"

namespace Test

/-- What can be asked about files. -/
structure FileFacts where
  /-- Whether what a letter asks holds of a path. -/
  holds : Char → String → Bool
  /-- Whether two paths lead to one place. -/
  isSame : String → String → Bool

def testNumber (s : String) : Except TestFault Int :=
  match wholeNumber? false s.toList with
  | some n => .ok n
  | none => .error (.illegalNumber s)

def compareNumbers (a b : String) (holds : Int → Int → Bool) : Except TestFault Bool := do
  return holds (← testNumber a) (← testNumber b)

/-- The answer of a binary operator, if it is one. No file is older than another. -/
def binary? (facts : FileFacts) (operator a b : String) : Option (Except TestFault Bool) :=
  match operator with
  | "=" => some (.ok (a == b))
  | "!=" => some (.ok (a != b))
  | "<" => some (.ok (decide (a < b)))
  | ">" => some (.ok (decide (b < a)))
  | "-eq" => some (compareNumbers a b (· == ·))
  | "-ne" => some (compareNumbers a b (· != ·))
  | "-lt" => some (compareNumbers a b (· < ·))
  | "-le" => some (compareNumbers a b (· ≤ ·))
  | "-gt" => some (compareNumbers a b (· > ·))
  | "-ge" => some (compareNumbers a b (· ≥ ·))
  | "-nt" => some (.ok false)
  | "-ot" => some (.ok false)
  | "-ef" => some (.ok (facts.isSame a b))
  | _ => none

def binaryOperators : List String :=
  ["=", "!=", "<", ">", "-eq", "-ne", "-lt", "-le", "-gt", "-ge", "-nt", "-ot", "-ef"]

/-- The letter of a unary operator. -/
def unaryLetter? (w : String) : Option Char :=
  match w.toList with
  | ['-', c] => if c ∈ "rwxefdcbpugkstznhOGLS".toList then some c else none
  | _ => none

/-- The answer of a unary operator. No descriptor is a terminal. -/
def unary (facts : FileFacts) (letter : Char) (w : String) : Except TestFault Bool :=
  match letter with
  | 'z' => .ok (w == "")
  | 'n' => .ok (w != "")
  | 't' => (testNumber w).map fun _ => false
  | c => .ok (facts.holds c w)

def isBinary (operator : String) : Bool :=
  operator ∈ binaryOperators

/-- What a word is where an expression begins. -/
inductive Role where
  | missing | negation | opening | unary (letter : Char) | operand
  deriving DecidableEq, Repr

/-- The role of the first word. An operator that could be an operand is one: the last word, and one
with a binary operator and a word after it. -/
def roleOf : List String → Role
  | [] => .missing
  | w :: rest =>
    let isOperand := rest = [] ∨ (rest.tail ≠ [] ∧ rest.head?.any isBinary)
    if w = "!" then .negation
    else if w = "(" ∧ rest ≠ [] then .opening
    else
      match unaryLetter? w with
      | some c => if isOperand then .operand else .unary c
      | none => .operand

/-- The answer of an expression, and the words from its last one on. -/
abbrev Answered := Except TestFault (Bool × List String)

/-- An operand, or two with a binary operator between them. -/
def comparison (facts : FileFacts) : List String → Answered
  | a :: operator :: b :: rest =>
    match binary? facts operator a b with
    | some found => found.map fun answer => (answer, b :: rest)
    | none => .ok (a != "", a :: operator :: b :: rest)
  | [a, operator] =>
    if isBinary operator then .error (.argumentExpected operator)
    else .ok (a != "", [a, operator])
  | words => .ok (words.head?.any (· != ""), words)

mutual

/-- Alternatives between `-o`, the first of them in a role that is already known. -/
def alternatives (facts : FileFacts) : Nat → Role → List String → Answered
  | 0, _, ws => .ok (false, ws)
  | bound + 1, role, ws => do
    let (answer, ws) ← conjuncts facts bound role ws
    match ws with
    | last :: "-o" :: rest =>
      if rest = [] then return (answer, last :: "-o" :: rest)
      else
        let (other, ws) ← alternatives facts bound (roleOf rest) rest
        return (answer || other, ws)
    | ws => return (answer, ws)

/-- Conjuncts between `-a`. -/
def conjuncts (facts : FileFacts) : Nat → Role → List String → Answered
  | 0, _, ws => .ok (false, ws)
  | bound + 1, role, ws => do
    let (answer, ws) ← negated facts bound role ws
    match ws with
    | last :: "-a" :: rest =>
      if rest = [] then return (answer, last :: "-a" :: rest)
      else
        let (other, ws) ← conjuncts facts bound (roleOf rest) rest
        return (answer && other, ws)
    | ws => return (answer, ws)

def negated (facts : FileFacts) : Nat → Role → List String → Answered
  | 0, _, ws => .ok (false, ws)
  | bound + 1, role, ws =>
    match role with
    | .negation => do
      let (answer, ws) ← negated facts bound (roleOf ws.tail) (if ws.tail = [] then ws else ws.tail)
      return (!answer, ws)
    | .missing => .ok (false, ws)
    | .opening => do
      if ws.tail.head? = some ")" then return (false, ws.tail)
      let (answer, ws) ← alternatives facts bound (roleOf ws.tail) ws.tail
      if ws.tail.head? = some ")" then return (answer, ws.tail)
      else .error .openBracket
    | .unary c => (unary facts c (ws.tail.head?.getD "")).map fun answer => (answer, ws.tail)
    | .operand => comparison facts ws

end

/-- The answer of a test. Three words with a binary operator between two are always a comparison,
and brackets around all of three or four words are dropped. -/
def answer (facts : FileFacts) (words : List String) : Except TestFault Bool := do
  let (role, words) : Role × List String :=
    match words with
    | [_, operator, _] =>
      if isBinary operator then (.operand, words)
      else (roleOf (unbracketed words), unbracketed words)
    | [_, _, _, _] => (roleOf (unbracketed words), unbracketed words)
    | words => (roleOf words, words)
  let (answer, left) ← alternatives facts (4 * words.length + 4) role words
  match left with
  | last :: _ :: _ => .error (.unexpectedOperator last)
  | _ => return answer
where
  unbracketed (words : List String) : List String :=
    if words.head? = some "(" ∧ words.getLast? = some ")" then words.tail.dropLast else words

end Test

end LoweringAudit.Shell
