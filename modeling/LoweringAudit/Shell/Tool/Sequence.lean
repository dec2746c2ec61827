import LoweringAudit.Shell.Tool.Basic
/-!
Sequences of decimal numbers, and the program that writes them.
-/
namespace LoweringAudit.Shell.Tool

open Act

/-- A decimal number: digits without the point, and how many of them stand after it. -/
structure Decimal where
  digits : Int
  places : Nat
  deriving DecidableEq, Repr

/-- A decimal number with more places. -/
def Decimal.widen (d : Decimal) (places : Nat) : Int :=
  d.digits * Nat.pow 10 (places - d.places)

def decimal? (s : List Char) : Option Decimal :=
  let (isNegative, s) := match s.dropWhile isSpace with
    | '-' :: rest => (true, rest)
    | '+' :: rest => (false, rest)
    | rest => (false, rest)
  match Floating.pointed? 10 s with
  | some (n, places, rest) =>
    let (power, rest) := Floating.exponent 'e' rest
    let left : Int := places - power
    let n : Int := if isNegative then -n else n
    if rest = [] then some ⟨n * Nat.pow 10 (-left).toNat, left.toNat⟩ else none
  | none => none

/-- A number with places after its point. -/
def decimalText (places : Nat) (n : Int) : List Char :=
  (if n < 0 then ['-'] else []) ++ Floating.withPoint false places (Nat.toDigits 10 n.natAbs)

/-- The numbers from one to another, no more than a bound. -/
def upTo (step last : Int) : Nat → Int → List Int
  | 0, _ => []
  | n + 1, first =>
    if (0 < step ∧ last < first) ∨ (step < 0 ∧ first < last) then []
    else first :: upTo step last n (first + step)

/-- How many numbers a sequence may have. -/
def maxSequence : Nat := 1000000

def sequence : Tool := fun caller arguments => do
  let isNumber (a : String) : Bool :=
    match a.toList with
    | '-' :: c :: _ => c.isDigit || c == '.'
    | _ => false
  let front := arguments.takeWhile fun a => !isNumber a
  let f : Flags :=
    { letters := "f:s:w", long := [("format", 'f'), ("separator", 's'), ("equal-width", 'w')] }
  let guarded :=
    if front.length < arguments.length then front ++ "--" :: arguments.drop front.length
    else arguments
  let isValue := front.getLast?.any fun a => a == "-s" || a == "-f"
  withFlags f (fun caller chosen operands => do
      match operands with
      | [] => refuse caller "missing operand"
      | _ :: _ :: _ :: extra :: _ => refuse caller ("extra operand " ++ quotedText extra)
      | operands =>
        match operands.find? fun a => (decimal? a.toList).isNone with
        | some bad => refuse caller ("invalid floating point argument: " ++ quotedText bad)
        | none =>
          let numbers := operands.filterMap fun a => decimal? a.toList
          let one : Decimal := ⟨1, 0⟩
          let (first, step, last) := match numbers with
            | [last] => (one, one, last)
            | [first, last] => (first, one, last)
            | [first, step, last] => (first, step, last)
            | _ => (one, one, one)
          if step.digits = 0 then
            refuse caller ("invalid Zero increment value: " ++ quotedText ((operands[1]?).getD ""))
          else
            let shown := max first.places step.places
            let places := max shown last.places
            let found := upTo (step.widen places) (last.widen places) maxSequence
              (first.widen places)
            let narrow (n : Int) : Int := n / Nat.pow 10 (places - shown)
            let texts : List (List Char) := match chosen.value? 'f' with
              | some form => found.map fun n =>
                  (Printf.program.run form [String.ofList (decimalText shown (narrow n))]).output
              | none => found.map fun n => decimalText shown (narrow n)
            let width := (texts.map List.length).foldl max 0
            let texts := if chosen.has 'w' then
                texts.map fun t =>
                  let zeros := List.replicate (width - t.length) '0'
                  if t.head? = some '-' then '-' :: zeros ++ t.tail else zeros ++ t
              else texts
            let separator := ((chosen.value? 's').getD "\n").toList
            if texts.isEmpty then return 0
            else emit caller (separator.intercalate texts ++ ['\n']) 0)
    caller (if isValue then arguments else guarded)

end LoweringAudit.Shell.Tool
