import LoweringAudit.Text.Digits
import LoweringAudit.Toml.Basic
/-!
TOML numbers. Digits may have single underscores between them. Integers are those of 64 bits with a
sign, in decimal, hexadecimal, octal or binary digits; a positive float that is too large for 64
bits is refused.
-/
namespace LoweringAudit.Toml.Number

open LoweringAudit.Text (isDigitIn natOfDigits)

/-- The digits after the first one. An underscore must have a digit after it. -/
def moreDigits? (isDigit : Char → Bool) : List Char → Option (List Char × List Char)
  | [] => some ([], [])
  | ['_'] => none
  | '_' :: d :: rest =>
    if isDigit d then (moreDigits? isDigit rest).map fun (ds, r) => (d :: ds, r) else none
  | d :: rest =>
    if isDigit d then (moreDigits? isDigit rest).map fun (ds, r) => (d :: ds, r)
    else some ([], d :: rest)

/-- A run of at least one digit, first to last. -/
def digits? (isDigit : Char → Bool) : List Char → Option (List Char × List Char)
  | [] => none
  | d :: rest =>
    if isDigit d then (moreDigits? isDigit rest).map fun (ds, r) => (d :: ds, r) else none

/-- Whether a minus was read, and what follows a sign. -/
def sign : List Char → Bool × List Char
  | '-' :: rest => (true, rest)
  | '+' :: rest => (false, rest)
  | s => (false, s)

/-- The digits of a decimal integer: a zero is not followed by more. -/
def whole? : List Char → Option (List Char × List Char)
  | '0' :: rest => some (['0'], rest)
  | s => digits? Char.isDigit s

def minInteger : Int := -0x8000000000000000
def maxInteger : Int := 0x7FFFFFFFFFFFFFFF

def integer? (n : Int) : Option Value :=
  if minInteger ≤ n ∧ n ≤ maxInteger then some (.integer n) else none

/-- An integer with a base mark. -/
def based? (base : Nat) (s : List Char) : Option (Value × List Char) := do
  let (ds, rest) ← digits? (isDigitIn base) s
  return (← integer? (natOfDigits base ds), rest)

/-- The least real that is not nearer to the greatest float of 64 bits than to the next step. -/
def floatBound : Nat := Nat.pow 2 1024 - Nat.pow 2 970

/-- Whether `digits * 10 ^ exponent` reaches the bound. Values far from it are told by their size.
-/
def overflows (digits : Nat) (exponent : Int) : Bool :=
  let size := (toString digits).length + exponent
  if digits = 0 then false
  else if 320 < size then true
  else if size < 300 then false
  else
    match exponent with
    | .ofNat e => floatBound ≤ digits * Nat.pow 10 e
    | .negSucc e => floatBound * Nat.pow 10 (e + 1) ≤ digits

/-- The fraction after a point; no digits where there is no point. -/
def fraction? : List Char → Option (List Char × List Char)
  | '.' :: rest => digits? Char.isDigit rest
  | s => some ([], s)

/-- The exponent; zero where there is none. -/
def exponent? : List Char → Option (Int × List Char)
  | c :: rest =>
    if c = 'e' ∨ c = 'E' then
      (digits? Char.isDigit (sign rest).2).map fun (ds, r) =>
        (if (sign rest).1 then -(natOfDigits 10 ds : Int) else natOfDigits 10 ds, r)
    else some (0, c :: rest)
  | [] => some (0, [])

/-- Whether a fraction or an exponent follows the whole digits. -/
def isFloatNext : List Char → Bool
  | c :: _ => c == '.' || c == 'e' || c == 'E'
  | [] => false

/-- A decimal integer or a float. -/
def decimal? (s : List Char) : Option (Value × List Char) := do
  let (negative, t) := sign s
  let (whole, t) ← whole? t
  if isFloatNext t then
    let (fraction, t) ← fraction? t
    let (exponent, t) ← exponent? t
    let mantissa := natOfDigits 10 (whole ++ fraction)
    if !negative && overflows mantissa (exponent - fraction.length) then none
    else return (.float (String.ofList (s.take (s.length - t.length))), t)
  else
    let n : Int := natOfDigits 10 whole
    return (← integer? (if negative then -n else n), t)

/-- The floats with names, with or without a sign. -/
def named? (s : List Char) : Option (Value × List Char) :=
  match (sign s).2 with
  | 'i' :: 'n' :: 'f' :: rest => some (.float "inf", rest)
  | 'n' :: 'a' :: 'n' :: rest => some (.float "nan", rest)
  | _ => none

def read? : List Char → Option (Value × List Char)
  | '0' :: 'x' :: rest => based? 16 rest
  | '0' :: 'o' :: rest => based? 8 rest
  | '0' :: 'b' :: rest => based? 2 rest
  | s => (named? s).orElse fun _ => decimal? s

end LoweringAudit.Toml.Number
