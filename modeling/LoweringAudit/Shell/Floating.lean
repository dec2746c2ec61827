import LoweringAudit.Shell.Octet
import LoweringAudit.Text.Ascii
import LoweringAudit.Text.Digits
/-!
Numbers with a fraction. A number is a whole multiple of a power of two, and both reading and
writing round an exact quotient once: to the nearest number, a half to the even one.
-/
namespace LoweringAudit.Shell

/-- The whole number nearest to a quotient; a half goes to the even neighbour. -/
def nearest (n d : Nat) : Nat :=
  let q := n / d
  let r := n % d
  if 2 * r < d then q else if d < 2 * r then q + 1 else q + q % 2

/-- Which numbers there are. -/
structure Grid where
  /-- How many binary digits a number has at most. -/
  bits : Nat
  /-- All numbers are multiples of two to this power. -/
  least : Int
  /-- All numbers are below two to this power. -/
  most : Int
  /-- How many binary digits stand before the point in hexadecimal. -/
  lead : Nat

namespace Grid

/-- Numbers of eight octets. -/
def double : Grid := ⟨53, -1074, 1024, 1⟩

/-- Numbers of ten octets. -/
def extended : Grid := ⟨64, -16445, 16384, 4⟩

/-- How many hexadecimal digits stand after the point. -/
def places (g : Grid) : Nat :=
  (g.bits - g.lead) / 4

end Grid

inductive Magnitude where
  /-- A multiple of a power of two. -/
  | finite (m : Nat) (e : Int)
  | infinite
  | notNumber
  deriving DecidableEq, Repr

structure Floating where
  isNegative : Bool
  magnitude : Magnitude
  deriving DecidableEq, Repr

namespace Magnitude

/-- Two to a power, as a quotient. -/
def quotient (m : Nat) (e : Int) : Nat × Nat :=
  (m * Nat.pow 2 e.toNat, Nat.pow 2 (-e).toNat)

/-- The number of a grid that is nearest to a quotient, and whether the quotient is out of range:
too large, or so small that digits are lost. -/
def ofQuotient (g : Grid) (n d : Nat) : Magnitude × Bool :=
  if n = 0 then (finite 0 0, false)
  else
    let k : Int := (n.log2 : Int) - d.log2
    let isBelow : Bool := n * Nat.pow 2 (-k).toNat < d * Nat.pow 2 k.toNat
    let wanted := k + 1 - g.bits - if isBelow then 1 else 0
    let unit := max wanted g.least
    let scaledN := n * Nat.pow 2 (-unit).toNat
    let scaledD := d * Nat.pow 2 unit.toNat
    let close := nearest scaledN scaledD
    let (m, e) :=
      if close = Nat.pow 2 g.bits then (Nat.pow 2 (g.bits - 1), unit + 1) else (close, unit)
    if g.most < (m.log2 : Int) + e + 1 then (infinite, true)
    else (finite m e, decide (wanted < unit) && scaledN % scaledD != 0)

end Magnitude

/-- A number that has been read, and what is left of the text. -/
structure ReadFloating where
  number : Floating
  isOutOfRange : Bool
  rest : List Char
  deriving DecidableEq, Repr

namespace Floating

/-- Digits in a base with a point among them: their number without the point, how many stand after
it, and the rest. -/
def pointed? (base : Nat) (s : List Char) : Option (Nat × Nat × List Char) :=
  let isDigit := Text.isDigitIn base
  let whole := s.takeWhile isDigit
  let after := s.drop whole.length
  let (fraction, rest) := match after with
    | '.' :: r => (r.takeWhile isDigit, r.dropWhile isDigit)
    | r => ([], r)
  if whole = [] ∧ fraction = [] then none
  else some (Text.natOfDigits base (whole ++ fraction), fraction.length, rest)

/-- An exponent after its letter; without digits there is none. -/
def exponent (letter : Char) (s : List Char) : Int × List Char :=
  match s with
  | c :: rest =>
    let (isNegative, digits) := match rest with
      | '-' :: r => (true, r)
      | '+' :: r => (false, r)
      | r => (false, r)
    match digits.takeWhile Char.isDigit with
    | [] => (0, s)
    | ds =>
      if c.toLower = letter then
        let n : Int := Text.natOfDigits 10 ds
        (if isNegative then -n else n, digits.drop ds.length)
      else (0, s)
  | [] => (0, s)

/-- The number of a grid nearest to a whole number times a power. What no grid reaches is not worked
out. -/
def scaled (g : Grid) (base digits : Nat) (power : Int) : Magnitude × Bool :=
  let size : Int := ((Nat.toDigits 10 digits).length : Int) + power
  if digits = 0 then (.finite 0 0, false)
  else if 40000 < size then (.infinite, true)
  else if size < -40000 then (.finite 0 0, true)
  else Magnitude.ofQuotient g (digits * Nat.pow base power.toNat) (Nat.pow base (-power).toNat)

/-- A text after a word in any letter case. -/
def after? (word : String) (s : List Char) : Option (List Char) :=
  if Text.sameLetters (s.take word.length) word.toList then some (s.drop word.length) else none

/-- What may stand in brackets after the word for what is no number. -/
def afterNote (s : List Char) : List Char :=
  match s with
  | '(' :: r =>
    match r.dropWhile isNameChar with
    | ')' :: rest => rest
    | _ => s
  | s => s

/-- A magnitude at the front of a text. -/
def magnitude? (g : Grid) (s : List Char) : Option (Magnitude × Bool × List Char) :=
  match after? "infinity" s, after? "inf" s, after? "nan" s with
  | some rest, _, _ => some (.infinite, false, rest)
  | none, some rest, _ => some (.infinite, false, rest)
  | none, none, some rest => some (.notNumber, false, afterNote rest)
  | none, none, none =>
    match (after? "0x" s).bind (pointed? 16) with
    | some (digits, places, rest) =>
      let (power, rest) := exponent 'p' rest
      let (m, isOut) := scaled g 2 digits (power - 4 * places)
      some (m, isOut, rest)
    | none =>
      match pointed? 10 s with
      | some (digits, places, rest) =>
        let (power, rest) := exponent 'e' rest
        let (m, isOut) := scaled g 10 digits (power - places)
        some (m, isOut, rest)
      | none => none

/-- The number at the front of a text, after space and a sign. -/
def read? (g : Grid) (s : List Char) : Option ReadFloating :=
  let s := s.dropWhile isSpace
  let (isNegative, s) := match s with
    | '-' :: rest => (true, rest)
    | '+' :: rest => (false, rest)
    | s => (false, s)
  (magnitude? g s).map fun (m, isOut, rest) => ⟨⟨isNegative, m⟩, isOut, rest⟩

/-- A whole number as a number with a fraction. -/
def ofNat (n : Nat) : Floating := ⟨false, .finite n 0⟩

/-! Writing -/

/-- Digits with a number of places after the point. The point is left out with no places, unless it
is asked for. -/
def withPoint (keepsPoint : Bool) (places : Nat) (digits : List Char) : List Char :=
  let digits := List.replicate (places + 1 - digits.length) '0' ++ digits
  let whole := digits.take (digits.length - places)
  let fraction := digits.drop whole.length
  whole ++ (if fraction = [] ∧ ¬ keepsPoint then [] else ['.']) ++ fraction

def fixed (keepsPoint : Bool) (places m : Nat) (e : Int) : List Char :=
  let (n, d) := Magnitude.quotient m e
  withPoint keepsPoint places (Nat.toDigits 10 (nearest (n * Nat.pow 10 places) d))

/-- The power of ten of the first digit of a quotient. -/
def leadingPower (n d : Nat) : Int :=
  if d ≤ n then (Nat.toDigits 10 (n / d)).length - 1
  else -((Nat.toDigits 10 ((d + n - 1) / n - 1)).length : Int)

/-- The digits of a number, one more than the places, and the power of ten of the first one. -/
def rounded (places m : Nat) (e : Int) : List Char × Int :=
  let (n, d) := Magnitude.quotient m e
  if n = 0 then (List.replicate (places + 1) '0', 0)
  else
    let power := leadingPower n d
    let shift := (places : Int) - power
    let digits := Nat.toDigits 10
      (nearest (n * Nat.pow 10 shift.toNat) (d * Nat.pow 10 (-shift).toNat))
    if places + 1 < digits.length then (digits.take (places + 1), power + 1)
    else (digits, power)

/-- An exponent with its sign and a least number of digits. -/
def signedExponent (least : Nat) (power : Int) : List Char :=
  let digits := Nat.toDigits 10 power.natAbs
  (if power < 0 then '-' else '+') :: (List.replicate (least - digits.length) '0' ++ digits)

def scientific (keepsPoint : Bool) (places m : Nat) (e : Int) : List Char :=
  let (digits, power) := rounded places m e
  withPoint keepsPoint places digits ++ 'e' :: signedExponent 2 power

/-- A text with a point in it without the zeros at its end, and without the point if nothing is left
after it. -/
def trimZeros (s : List Char) : List Char :=
  if s.contains '.' then
    let kept := (s.reverse.dropWhile (· == '0')).reverse
    if kept.getLast? = some '.' then kept.dropLast else kept
  else s

/-- The shorter of the two forms, with a number of digits in all. -/
def general (keepsAll : Bool) (digits m : Nat) (e : Int) : List Char :=
  let digits := max digits 1
  let (found, power) := rounded (digits - 1) m e
  let trim (s : List Char) : List Char := if keepsAll then s else trimZeros s
  if -4 ≤ power ∧ power < digits then trim (fixed keepsAll (digits - 1 - power).toNat m e)
  else trim (withPoint keepsAll (digits - 1) found) ++ 'e' :: signedExponent 2 power

/-- Hexadecimal digits; without a number of places there are as many as are needed. -/
def hexadecimal (g : Grid) (keepsPoint : Bool) (places : Option Nat) (m : Nat) (e : Int) :
    List Char :=
  let all := g.places
  let spare : Int := (g.bits : Int) - 1 - m.log2
  let top := e - spare + 4 * all
  let lowest := g.least + 4 * all
  let (scaled, power) : Nat × Int :=
    if m = 0 then (0, 0)
    else if top < lowest then (m * Nat.pow 2 (e - g.least).toNat, lowest)
    else (m * Nat.pow 2 spare.toNat, top)
  let kept := places.getD all
  let n := nearest (scaled * Nat.pow 16 kept) (Nat.pow 16 all)
  let (n, power) := if Nat.pow 16 (kept + 1) ≤ n then (n / 16, power + 4) else (n, power)
  let text := withPoint (keepsPoint && places.isSome) kept (Nat.toDigits 16 n)
  let text := if places.isNone then trimZeros text else text
  let text := if keepsPoint ∧ ¬ text.contains '.' then text ++ ['.'] else text
  text ++ 'p' :: signedExponent 1 power

/-- A magnitude as a letter asks for it; the mark of hexadecimal digits is left out. -/
def write (g : Grid) (letter : Char) (keepsPoint : Bool) (precision : Option Nat) :
    Magnitude → List Char
  | .infinite => "inf".toList
  | .notNumber => "nan".toList
  | .finite m e =>
    match letter with
    | 'f' => fixed keepsPoint (precision.getD 6) m e
    | 'e' => scientific keepsPoint (precision.getD 6) m e
    | 'g' => general keepsPoint (precision.getD 6) m e
    | _ => hexadecimal g keepsPoint precision m e

end Floating

end LoweringAudit.Shell
