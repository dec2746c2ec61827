import LoweringAudit.Shell.Octet
import LoweringAudit.Text.Digits
/-!
Whole numbers of the shell. They have 64 bits: sums wrap around, and what is too large to be read is
the nearest number there is.
-/
namespace LoweringAudit.Shell

/-- How many numbers there are. -/
def numbers : Nat := 0x10000000000000000

def leastNumber : Int := -0x8000000000000000
def greatestNumber : Int := 0x7FFFFFFFFFFFFFFF

/-- The number that is left in 64 bits with a sign. -/
def wrap (n : Int) : Int :=
  n.bmod numbers

/-- A number at the front of a text. -/
structure Numeral where
  written : Int
  rest : List Char
  deriving DecidableEq, Repr

/-- The number with a sign that is nearest to the one written. -/
def Numeral.value (m : Numeral) : Int :=
  max leastNumber (min greatestNumber m.written)

/-- The number without a sign that is nearest to the one written; below zero they wrap around. -/
def Numeral.unsigned (m : Numeral) : Nat :=
  if m.written.natAbs < numbers then (m.written % numbers).toNat else numbers - 1

/-- The base that the beginning of a text shows, and the digits after that. -/
def shownBase : List Char → Nat × List Char
  | '0' :: x :: d :: rest =>
    if (x = 'x' ∨ x = 'X') ∧ Text.isDigitIn 16 d then (16, d :: rest)
    else (8, '0' :: x :: d :: rest)
  | '0' :: rest => (8, '0' :: rest)
  | s => (10, s)

/-- The number at the front of a text, after space and a sign, in base ten or the base it shows. -/
def numeral? (showsBase : Bool) (s : List Char) : Option Numeral :=
  let s := s.dropWhile isSpace
  let (isNegative, s) := match s with
    | '-' :: rest => (true, rest)
    | '+' :: rest => (false, rest)
    | s => (false, s)
  let (base, s) := if showsBase then shownBase s else (10, s)
  match s.takeWhile (Text.isDigitIn base) with
  | [] => none
  | digits =>
    let n : Int := Text.natOfDigits base digits
    some ⟨if isNegative then -n else n, s.dropWhile (Text.isDigitIn base)⟩

/-- The number that a text writes, with space around it. -/
def wholeNumber? (showsBase : Bool) (s : List Char) : Option Int :=
  match numeral? showsBase s with
  | some m => if m.value = m.written ∧ m.rest.all isSpace then some m.value else none
  | none => none

/-- The number of decimal digits alone, if it is not too large to count by. -/
def countNumber? (s : List Char) : Option Nat :=
  if s ≠ [] ∧ s.all Char.isDigit ∧ Text.natOfDigits 10 s < 0x80000000 then
    some (Text.natOfDigits 10 s)
  else none

end LoweringAudit.Shell
