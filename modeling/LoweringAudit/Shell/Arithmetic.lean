import LoweringAudit.Shell.Number
/-!
Sums of the shell: whole numbers, variables, the operators of arithmetic and comparison, and
assignments. A sum is worked out while it is read: what is wrong first ends it, be it in its form or
in its numbers. Where a side of a condition is not asked for, it is read and nothing is done.
-/
namespace LoweringAudit.Shell.Arithmetic

inductive BinaryOperator where
  | times | divided | remainder | plus | minus | shiftLeft | shiftRight
  | less | lessEqual | greater | greaterEqual | equal | unequal | bitAnd | bitXor | bitOr
  deriving DecidableEq, Repr

inductive Token where
  | number (n : Int)
  | name (s : List Char)
  | binary (o : BinaryOperator)
  | assign (o : Option BinaryOperator)
  | both | either | not | bitNot | question | colon | opening | closing
  /-- What is no part of a sum. -/
  | stray
  deriving DecidableEq, Repr

/-- Operators in writing. Of two that a text begins with, the longer one is earlier. -/
def operators : List (String × Token) :=
  [("<<=", .assign (some .shiftLeft)), (">>=", .assign (some .shiftRight)),
    ("&&", .both), ("||", .either), ("==", .binary .equal), ("!=", .binary .unequal),
    ("<=", .binary .lessEqual), (">=", .binary .greaterEqual), ("<<", .binary .shiftLeft),
    (">>", .binary .shiftRight), ("+=", .assign (some .plus)), ("-=", .assign (some .minus)),
    ("*=", .assign (some .times)), ("/=", .assign (some .divided)),
    ("%=", .assign (some .remainder)), ("&=", .assign (some .bitAnd)),
    ("|=", .assign (some .bitOr)), ("^=", .assign (some .bitXor)), ("=", .assign none),
    ("*", .binary .times), ("/", .binary .divided), ("%", .binary .remainder),
    ("+", .binary .plus), ("-", .binary .minus), ("<", .binary .less), (">", .binary .greater),
    ("&", .binary .bitAnd), ("|", .binary .bitOr), ("^", .binary .bitXor), ("!", .not),
    ("~", .bitNot), ("?", .question), (":", .colon), ("(", .opening), (")", .closing)]

/-- The tokens of a text; the bound is its length. -/
def tokens : Nat → List Char → List Token
  | 0, _ => []
  | _, [] => []
  | n + 1, c :: rest =>
    if isBlank c then tokens n rest
    else if c.isDigit then
      match numeral? true (c :: rest) with
      | some m => .number m.value :: tokens n m.rest
      | none => [.stray]
    else if isNameStart c then
      .name ((c :: rest).takeWhile isNameChar) :: tokens n (rest.dropWhile isNameChar)
    else
      match operators.find? fun (s, _) => s.toList.isPrefixOf (c :: rest) with
      | some (s, t) => t :: tokens n ((c :: rest).drop s.toList.length)
      | none => [.stray]

inductive Fault where
  | expectingPrimary | expectingEnd | expectingBracket | expectingColon
  | divisionByZero
  /-- The value of a variable is no number. -/
  | illegalNumber (value : String)
  deriving DecidableEq, Repr

/-- What is said of a fault in a sum. -/
def Fault.message (sum : String) : Fault → String
  | expectingPrimary => within "expecting primary"
  | expectingEnd => within "expecting EOF"
  | expectingBracket => within "expecting ')'"
  | expectingColon => within "expecting ':'"
  | divisionByZero => within "division by zero"
  | illegalNumber value => "Illegal number: " ++ value
where
  within (what : String) : String :=
    "arithmetic expression: " ++ what ++ ": \"" ++ sum ++ "\""

/-- Operators bind the tighter, the less this is. -/
def BinaryOperator.rank : BinaryOperator → Nat
  | times | divided | remainder => 0
  | plus | minus => 1
  | shiftLeft | shiftRight => 2
  | less | lessEqual | greater | greaterEqual => 3
  | equal | unequal => 4
  | bitAnd => 5
  | bitXor => 6
  | bitOr => 7

def ofBool (b : Bool) : Int :=
  if b then 1 else 0

/-- The 64 bits of a number. -/
def bits (n : Int) : BitVec 64 :=
  BitVec.ofInt 64 n

def BinaryOperator.apply (a b : Int) : BinaryOperator → Except Fault Int
  | times => .ok (wrap (a * b))
  | divided => if b = 0 then .error .divisionByZero else .ok (wrap (a.tdiv b))
  | remainder => if b = 0 then .error .divisionByZero else .ok (wrap (a.tmod b))
  | plus => .ok (wrap (a + b))
  | minus => .ok (wrap (a - b))
  | shiftLeft => .ok (bits a <<< (b % 64).toNat).toInt
  | shiftRight => .ok ((bits a).sshiftRight (b % 64).toNat).toInt
  | less => .ok (ofBool (a < b))
  | lessEqual => .ok (ofBool (a ≤ b))
  | greater => .ok (ofBool (b < a))
  | greaterEqual => .ok (ofBool (b ≤ a))
  | equal => .ok (ofBool (a == b))
  | unequal => .ok (ofBool (a != b))
  | bitAnd => .ok (bits a &&& bits b).toInt
  | bitXor => .ok (bits a ^^^ bits b).toInt
  | bitOr => .ok (bits a ||| bits b).toInt

/-- What is left of a sum, and what its variables stand for. -/
structure State where
  rest : List Token
  value : String → Option String
  /-- What has been assigned, latest first. -/
  assigned : List (String × Int) := []

abbrev Sum := StateT State (Except Fault)

def peek : Sum (Option Token) := do
  return (← get).rest.head?

def drop : Sum Unit :=
  modify fun s => { s with rest := s.rest.tail }

/-- The number that a variable stands for. Without a value it stands for zero. -/
def lookUp (name : String) : Sum Int := do
  let s ← get
  match s.assigned.lookup name with
  | some n => return n
  | none =>
    let text := (s.value name).getD ""
    if text = "" then return 0
    match wholeNumber? true text.toList with
    | some n => return n
    | none => if text.toList.all isSpace then return 0 else throw (.illegalNumber text)

def store (name : String) (n : Int) : Sum Int := do
  modify fun s => { s with assigned := (name, n) :: s.assigned }
  return n

mutual

/-- A number, a variable, a sum in brackets, or one of these after a sign. -/
def primary : Nat → Bool → Sum Int
  | 0, _ => throw .expectingPrimary
  | bound + 1, isIdle => do
    let t ← peek
    drop
    match t with
    | some (.number n) => return n
    | some (.name s) => if isIdle then return 0 else lookUp (String.ofList s)
    | some .opening =>
      let n ← assignment bound isIdle
      if (← peek) != some .closing then throw .expectingBracket
      drop
      return n
    | some (.binary .plus) => primary bound isIdle
    | some (.binary .minus) => return wrap (-(← primary bound isIdle))
    | some .not => return ofBool ((← primary bound isIdle) == 0)
    | some .bitNot => return wrap (-(← primary bound isIdle) - 1)
    | _ => throw .expectingPrimary

/-- Goes on from a number with the operators that bind at least so tight as a rank says. -/
def operations : Nat → Bool → Nat → Int → Sum Int
  | 0, _, _, a => return a
  | bound + 1, isIdle, loosest, a => do
    match ← peek with
    | some (.binary o) =>
      if loosest < o.rank then return a
      drop
      let b ← primary bound isIdle
      let b ← tighter bound isIdle o.rank b
      let a ← if isIdle then pure b else
        match o.apply a b with
        | .ok n => pure n
        | .error f => throw f
      operations bound isIdle loosest a
    | _ => return a

/-- Goes on with the operators that bind tighter than a rank. -/
def tighter : Nat → Bool → Nat → Int → Sum Int
  | 0, _, _, b => return b
  | bound + 1, isIdle, rank, b =>
    match rank with
    | 0 => return b
    | r + 1 => operations bound isIdle r b

def conjunction : Nat → Bool → Sum Int
  | 0, _ => throw .expectingPrimary
  | bound + 1, isIdle => do
    let a ← operations bound isIdle 7 (← primary bound isIdle)
    if (← peek) != some .both then return a
    drop
    let b ← conjunction bound (isIdle || a == 0)
    return ofBool (a != 0 && b != 0)

def disjunction : Nat → Bool → Sum Int
  | 0, _ => throw .expectingPrimary
  | bound + 1, isIdle => do
    let a ← conjunction bound isIdle
    if (← peek) != some .either then return a
    drop
    let b ← disjunction bound (isIdle || a != 0)
    return ofBool (a != 0 || b != 0)

def conditional : Nat → Bool → Sum Int
  | 0, _ => throw .expectingPrimary
  | bound + 1, isIdle => do
    let a ← disjunction bound isIdle
    if (← peek) != some .question then return a
    drop
    let b ← assignment bound (isIdle || a == 0)
    if (← peek) != some .colon then throw .expectingColon
    drop
    let c ← conditional bound (isIdle || a != 0)
    return if a != 0 then b else c

def assignment : Nat → Bool → Sum Int
  | 0, _ => throw .expectingPrimary
  | bound + 1, isIdle => do
    match (← get).rest with
    | .name s :: .assign o :: rest =>
      modify fun t => { t with rest := rest }
      let b ← assignment bound isIdle
      if isIdle then return b
      let name := String.ofList s
      match o with
      | none => store name b
      | some o =>
        match o.apply (← lookUp name) b with
        | .ok n => store name n
        | .error f => throw f
    | _ => conditional bound isIdle

end

/-- The value of a sum, given what variables stand for, and what it assigns, in order. -/
def evaluate (sum : String) (value : String → Option String) :
    Except Fault (Int × List (String × Int)) := do
  let ts := tokens sum.toList.length sum.toList
  let reading : Sum Int := do
    let n ← assignment (8 * ts.length + 8) false
    if (← peek).isSome then throw .expectingEnd
    return n
  let (n, s) ← reading.run { rest := ts, value := value }
  return (n, s.assigned.reverse)

end LoweringAudit.Shell.Arithmetic
