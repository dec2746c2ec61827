import LoweringAudit.Shell.Octet
import LoweringAudit.Text.Digits
/-!
Backslashes in the texts that `echo` and `printf` write. An escape by number stands for a single
octet, so what is written need not be text.
-/
namespace LoweringAudit.Shell

/-- Which escapes there are beside those of one letter. -/
structure Escapes where
  /-- A zero before three octal digits does not count as one of them. -/
  freeZero : Bool
  /-- A `c` ends all that is written. -/
  hasStop : Bool
  /-- A quote can be escaped, and an `x` or a `u` has hexadecimal digits after it. -/
  hasHex : Bool
  deriving DecidableEq, Repr

/-- The octet of an escape of one letter. -/
def letterEscape? : Char → Option Char
  | 'a' => some '\x07'
  | 'b' => some '\x08'
  | 't' => some '\t'
  | 'n' => some '\n'
  | 'v' => some '\x0b'
  | 'f' => some '\x0c'
  | 'r' => some '\r'
  | 'e' => some '\x1b'
  | '\\' => some '\\'
  | _ => none

/-- How a text ends before it is over. -/
inductive Halt where
  /-- By an escape that says so. -/
  | stopped
  /-- By what is no escape. -/
  | broken (message : String)
  deriving DecidableEq, Repr

/-- What is written, and how it ended, if early. -/
structure Written where
  text : List Char
  halt : Option Halt := none
  deriving DecidableEq, Repr

/-- The octet of a run of digits. -/
def octetOf (base : Nat) (digits : List Char) : Char :=
  Char.ofNat (Text.natOfDigits base digits % 256)

/-- The digits of a base at the front of a text, up to a number of them. -/
def leadingDigits (base most : Nat) (s : List Char) : List Char :=
  (s.take most).takeWhile (Text.isDigitIn base)

/-- A number in hexadecimal digits, at least as many as asked for. -/
def hexDigits (least n : Nat) (isUpper : Bool) : List Char :=
  let digits := (Nat.toDigits 16 n).map fun c => if isUpper then c.toUpper else c
  List.replicate (least - digits.length) '0' ++ digits

/-- A character by its number after a letter that tells how many digits that has. Beyond ASCII it is
left as it is written. -/
def numbered (letter : Char) (s : List Char) : Written × List Char :=
  let size := if letter = 'u' then 4 else 8
  let digits := leadingDigits 16 size s
  let n := Text.natOfDigits 16 digits
  if digits.length < size then (⟨[], some (.broken "missing hexadecimal number in escape")⟩, [])
  else if 0xd800 ≤ n ∧ n ≤ 0xdfff then
    (⟨[], some (.broken ("invalid universal character name \\" ++ String.singleton letter ++
      String.ofList (hexDigits size n false)))⟩, [])
  else if n < 128 then (⟨[Char.ofNat n], none⟩, s.drop size)
  else
    let (mark, least) := if n < 0x10000 then ('u', 4) else ('U', 8)
    (⟨'\\' :: mark :: hexDigits least n true, none⟩, s.drop size)

/-- What a backslash and the text after it stand for, and what is left of the text. -/
def Escapes.read (e : Escapes) (s : List Char) : Written × List Char :=
  match s with
  | [] => (⟨['\\'], none⟩, [])
  | c :: rest =>
    match letterEscape? c with
    | some b => (⟨[b], none⟩, rest)
    | none =>
      if e.hasStop && c == 'c' then (⟨[], some .stopped⟩, [])
      else if e.hasHex && c == '"' then (⟨['"'], none⟩, rest)
      else if e.hasHex && c == 'x' then
        match leadingDigits 16 2 rest with
        | [] => (⟨[], some (.broken "missing hexadecimal number in escape")⟩, [])
        | digits => (⟨[octetOf 16 digits], none⟩, rest.drop digits.length)
      else if e.hasHex && (c == 'u' || c == 'U') then numbered c rest
      else if Text.isDigitIn 8 c then
        let digits := leadingDigits 8 (if e.freeZero && c == '0' then 4 else 3) s
        (⟨[octetOf 8 digits], none⟩, s.drop digits.length)
      else (⟨['\\', c], none⟩, rest)

/-- A text with its escapes; the bound is its length. -/
def Escapes.apply (e : Escapes) : Nat → List Char → Written
  | _, [] => ⟨[], none⟩
  | 0, _ => ⟨[], none⟩
  | bound + 1, c :: rest =>
    if c = '\\' then
      let (w, rest) := e.read rest
      if w.halt.isSome then w
      else
        let more := e.apply bound rest
        { more with text := w.text ++ more.text }
    else
      let more := e.apply bound rest
      { more with text := c :: more.text }

/-- The escapes of a text that is an argument of the shell's own utilities. -/
def Escapes.ofArgument : Escapes := ⟨true, true, false⟩

def Escapes.written (e : Escapes) (s : List Char) : Written :=
  e.apply s.length s

end LoweringAudit.Shell
