import LoweringAudit.Shell.Escape
import LoweringAudit.Shell.Floating
import LoweringAudit.Shell.Number
/-!
Formats of `printf`. A format is read as a list of items: text that is written as it is, and
conversions, each of which takes an argument. It is used again as long as it takes arguments and
some are left. The shell has a `printf` of its own beside the program of that name; they differ in
escapes, in the size of numbers and in what they say against a format.
-/
namespace LoweringAudit.Shell

/-- Where a width or a precision comes from. -/
inductive Measure where
  | absent
  | given (n : Nat)
  /-- The next argument. -/
  | taken
  deriving DecidableEq, Repr

structure Conversion where
  letter : Char
  flags : List Char
  width : Measure
  precision : Measure
  deriving DecidableEq, Repr

inductive Item where
  | piece (w : Written)
  | conversion (c : Conversion)
  /-- A conversion that there is not, and what is said of it. -/
  | refused (c : Conversion) (message : String)
  deriving DecidableEq, Repr

/-- What tells the two programs apart. -/
structure Printf where
  inFormat : Escapes
  inArgument : Escapes
  /-- Whether formats have more flags, have letters for sizes, and are checked flag by flag. -/
  isStrict : Bool
  grid : Grid
  /-- The status after a fault in a format. -/
  brokenStatus : Nat
  notNumber : String
  notAllNumber : String

/-- The shell's own. -/
def Printf.builtin : Printf where
  inFormat := ⟨false, false, false⟩
  inArgument := .ofArgument
  isStrict := false
  grid := .double
  brokenStatus := 2
  notNumber := "expected numeric value"
  notAllNumber := "not completely converted"

/-- The program. -/
def Printf.program : Printf where
  inFormat := ⟨false, true, true⟩
  inArgument := ⟨true, true, true⟩
  isStrict := true
  grid := .extended
  brokenStatus := 1
  notNumber := "expected a numeric value"
  notAllNumber := "value not completely converted"

/-- A character between quotes in what is said. -/
def quotedChar (c : Char) : List Char :=
  if c = '\'' ∨ c = '\\' then ['\\', c]
  else if ' ' ≤ c ∧ c ≤ '~' then [c]
  else
    match [('\x07', 'a'), ('\x08', 'b'), ('\t', 't'), ('\n', 'n'), ('\x0b', 'v'), ('\x0c', 'f'),
      ('\r', 'r')].lookup c with
    | some letter => ['\\', letter]
    | none =>
      let digits := Nat.toDigits 8 c.toNat
      '\\' :: (List.replicate (3 - digits.length) '0' ++ digits)

/-- A text between quotes, in characters that can be shown. -/
def quotedText (s : String) : String :=
  "'" ++ String.ofList (s.toList.flatMap quotedChar) ++ "'"

/-- How an argument is named in what is said of it. -/
def Printf.naming (p : Printf) (s : String) : String :=
  if p.isStrict then quotedText s else s

/-- A width or a precision at the front of a text. -/
def measure (s : List Char) : Measure × List Char :=
  match s with
  | '*' :: rest => (.taken, rest)
  | s =>
    match s.takeWhile Char.isDigit with
    | [] => (.absent, s)
    | digits => (.given (Text.natOfDigits 10 digits), s.drop digits.length)

/-- The letters that conversions end with. -/
def conversionLetters : List Char :=
  "aAbcdeEfFgGiosuxX".toList

/-- The letters that a flag rules out. -/
def ruledOut : Char → List Char
  | '\'' => "aAceEosxX".toList
  | 'I' => "aAceEosxX".toList
  | '#' => "cdisu".toList
  | '0' => "cs".toList
  | _ => []

/-- Whether a letter may end a conversion. -/
def Printf.allows (p : Printf) (c : Conversion) : Bool :=
  c.letter ∈ conversionLetters &&
    !(p.isStrict &&
      (c.flags.any (c.letter ∈ ruledOut ·) || (c.letter == 'c' && c.precision != .absent) ||
        (c.letter == 'b' && (!c.flags.isEmpty || c.width != .absent || c.precision != .absent))))

/-- What is said of a conversion that there is not. -/
def Printf.complaint (p : Printf) (isCut : Bool) (text : List Char) : String :=
  if p.isStrict then String.ofList text ++ ": invalid conversion specification"
  else if isCut then "missing format character"
  else String.ofList text ++ ": invalid directive"

/-- The item after a percent sign, and what follows it. -/
def Printf.conversion (p : Printf) (s : List Char) : Item × List Char :=
  let isFlag (c : Char) : Bool := c ∈ "#-+ 0".toList || (p.isStrict && (c == '\'' || c == 'I'))
  let flags := s.takeWhile isFlag
  let (width, afterWidth) := measure (s.drop flags.length)
  let (precision, rest) : Measure × List Char :=
    match afterWidth with
    | '.' :: r =>
      match measure r with
      | (.absent, r) => (.given 0, r)
      | (m, r) => (m, r)
    | r => (.absent, r)
  let rest := if p.isStrict then rest.dropWhile (· ∈ "lLhjtz".toList) else rest
  let refused (isCut : Bool) (letter : Char) (after : List Char) : Item :=
    .refused ⟨letter, flags, width, precision⟩
      (p.complaint isCut ('%' :: s.take (s.length - after.length)))
  match rest with
  | letter :: after =>
    let c : Conversion := ⟨letter, flags, width, precision⟩
    (if p.allows c then .conversion c else refused false letter after, after)
  | [] => (refused true '%' [], [])

/-- The items of a format; the bound is its length. -/
def Printf.items (p : Printf) : Nat → List Char → List Item
  | _, [] => []
  | 0, _ => []
  | bound + 1, c :: rest =>
    if c = '\\' then
      .piece (p.inFormat.read rest).1 :: p.items bound (p.inFormat.read rest).2
    else if c = '%' then
      match rest with
      | '%' :: rest => .piece ⟨['%'], none⟩ :: p.items bound rest
      | rest => (p.conversion rest).1 :: p.items bound (p.conversion rest).2
    else .piece ⟨[c], none⟩ :: p.items bound rest

/-- A step of printing: text for the output, or what is said. -/
inductive Utterance where
  | text (s : List Char)
  | complaint (s : String)
  deriving DecidableEq, Repr

/-- What a run of `printf` has come to, and what is still to come. -/
structure Printing where
  /-- Latest first. -/
  uttered : List Utterance := []
  status : Nat := 0
  arguments : List String
  /-- Whether an argument was asked for. -/
  asked : Bool := false
  stopped : Bool := false

namespace Printing

def write (s : Printing) (text : List Char) : Printing :=
  { s with uttered := .text text :: s.uttered }

def complain (s : Printing) (message : String) (status : Nat) : Printing :=
  { s with uttered := .complaint message :: s.uttered, status := status }

/-- Says what is wrong and goes no further. -/
def halt (s : Printing) (message : String) (status : Nat) : Printing :=
  { s.complain message status with stopped := true }

/-- The next argument. -/
def next? (s : Printing) : Option String × Printing :=
  (s.arguments.head?, { s with arguments := s.arguments.tail, asked := true })

/-- All that is written. -/
def output (s : Printing) : List Char :=
  s.uttered.reverse.flatMap fun
    | .text t => t
    | .complaint _ => []

/-- All that is said. -/
def complaints (s : Printing) : List String :=
  s.uttered.reverse.filterMap fun
    | .text _ => none
    | .complaint m => some m

end Printing

/-- What a number is that has been read from an argument. -/
structure Found (α : Type) where
  value : α
  isOutOfRange : Bool
  rest : List Char

/-- The number of the character after a quote, if that is what an argument has. -/
def characterNumber? (p : Printf) (s : List Char) : Option (Nat × List Char) :=
  match s with
  | '\'' :: c :: rest => some (c.toNat, rest)
  | '"' :: c :: rest => some (c.toNat, rest)
  | ['\''] => if p.isStrict then none else some (0, [])
  | ['"'] => if p.isStrict then none else some (0, [])
  | _ => none

/-- Takes an argument that is read as a number. -/
def Printf.takeNumber (p : Printf) (ofChar : Nat → α) (read : List Char → Option (Found α))
    (state : Printing) : α × Printing :=
  match state.next? with
  | (none, state) => (ofChar 0, state)
  | (some argument, state) =>
    match characterNumber? p argument.toList with
    | some (n, rest) =>
      if p.isStrict ∧ rest ≠ [] then
        (ofChar n, state.complain ("warning: " ++ String.ofList rest ++
          ": character(s) following character constant have been ignored") state.status)
      else (ofChar n, state)
    | none =>
      let complain (what : String) : Printing :=
        state.complain (p.naming argument ++ ": " ++ what) 1
      match read argument.toList with
      | none => (ofChar 0, if argument = "" then state else complain p.notNumber)
      | some f =>
        let isFirst := p.isStrict || f.rest.isEmpty
        if f.isOutOfRange ∧ isFirst then (f.value, complain "Numerical result out of range")
        else (f.value, if f.rest.isEmpty then state else complain p.notAllNumber)

def Printf.takeSigned (p : Printf) : Printing → Int × Printing :=
  p.takeNumber Int.ofNat fun s =>
    (numeral? true s).map fun m => ⟨m.value, m.value != m.written, m.rest⟩

def Printf.takeUnsigned (p : Printf) : Printing → Nat × Printing :=
  p.takeNumber id fun s =>
    (numeral? true s).map fun m => ⟨m.unsigned, decide (numbers ≤ m.written.natAbs), m.rest⟩

def Printf.takeFloating (p : Printf) : Printing → Floating × Printing :=
  p.takeNumber .ofNat fun s =>
    (Floating.read? p.grid s).map fun r => ⟨r.number, r.isOutOfRange, r.rest⟩

/-- A conversion with its width and precision known. -/
structure Field where
  letter : Char
  flags : List Char
  width : Nat
  precision : Option Nat
  deriving DecidableEq, Repr

namespace Field

def has (f : Field) (flag : Char) : Bool :=
  f.flags.contains flag

/-- Text in its field. -/
def pad (f : Field) (s : List Char) : List Char :=
  let blanks := List.replicate (f.width - s.length) ' '
  if f.has '-' then s ++ blanks else blanks ++ s

/-- No more of a text than the precision allows. -/
def cut (f : Field) (s : List Char) : List Char :=
  s.take (f.precision.getD s.length)

/-- A number in its field: what stands before the digits, and the digits. Zeros that fill the field
come between the two. -/
def fill (f : Field) (fillsZeros : Bool) (front digits : List Char) : List Char :=
  let zeros :=
    if fillsZeros ∧ f.has '0' ∧ ¬ f.has '-' then f.width - (front.length + digits.length) else 0
  f.pad (front ++ List.replicate zeros '0' ++ digits)

/-- What shows the sign. -/
def sign (f : Field) (isNegative : Bool) : List Char :=
  if isNegative then ['-'] else if f.has '+' then ['+'] else if f.has ' ' then [' '] else []

/-- Digits, no fewer than the precision asks for; a zero can be left out altogether. -/
def atLeast (f : Field) (n : Nat) (digits : List Char) : List Char :=
  match f.precision with
  | some p => if n = 0 ∧ p = 0 then [] else List.replicate (p - digits.length) '0' ++ digits
  | none => digits

def writeSigned (f : Field) (n : Int) : List Char :=
  f.fill f.precision.isNone (f.sign (decide (n < 0)))
    (f.atLeast n.natAbs (Nat.toDigits 10 n.natAbs))

def writeUnsigned (f : Field) (n : Nat) : List Char :=
  let upper (s : List Char) : List Char := if f.letter = 'X' then s.map Char.toUpper else s
  match f.letter with
  | 'u' => f.fill f.precision.isNone [] (f.atLeast n (Nat.toDigits 10 n))
  | 'o' =>
    let digits := f.atLeast n (Nat.toDigits 8 n)
    let digits := if f.has '#' ∧ digits.head? ≠ some '0' then '0' :: digits else digits
    f.fill f.precision.isNone [] digits
  | _ =>
    let front := if f.has '#' ∧ n ≠ 0 then ['0', 'x'] else []
    f.fill f.precision.isNone (upper front) (upper (f.atLeast n (Nat.toDigits 16 n)))

def writeFloating (f : Field) (g : Grid) (x : Floating) : List Char :=
  let letter := f.letter.toLower
  let upper (s : List Char) : List Char := if f.letter = letter then s else s.map Char.toUpper
  let (isFinite, mark) : Bool × List Char := match x.magnitude with
    | .finite .. => (true, if letter = 'a' then ['0', 'x'] else [])
    | _ => (false, [])
  f.fill isFinite (f.sign x.isNegative ++ upper mark)
    (upper (Floating.write g letter (f.has '#') f.precision x.magnitude))

end Field

/-- The greatest width and precision that there can be. -/
def maxMeasure : Nat := 0x7FFFFFFE

/-- Takes what a width or a precision asks for. -/
def Printf.takeMeasure (p : Printf) (what : String) (m : Measure) (state : Printing) :
    Option Int × Printing :=
  match m with
  | .absent => (none, state)
  | .given n => (some n, state)
  | .taken =>
    let argument := state.arguments.head?.getD ""
    let (n, state) := p.takeSigned state
    if ¬ p.isStrict then (some (n.bmod 0x100000000), state)
    else if n < -0x80000000 ∧ what = "precision" then (some (-1), state)
    else if n < -0x80000000 ∨ 0x80000000 ≤ n then
      (none, state.halt ("invalid " ++ what ++ ": " ++ quotedText argument) 1)
    else (some n, state)

/-- Carries out a conversion whose width and precision are known on the next argument. -/
def Printf.fillField (p : Printf) (f : Field) (state : Printing) : Printing :=
  match f.letter with
  | 's' =>
    let (s, state) := state.next?
    state.write (f.pad (f.cut (s.getD "").toList))
  | 'c' =>
    let (s, state) := state.next?
    state.write (f.pad (((s.getD "").toList ++ ['\x00']).take 1))
  | 'b' =>
    let (s, state) := state.next?
    let w := p.inArgument.written (s.getD "").toList
    let state := state.write (f.pad (f.cut w.text))
    match w.halt with
    | none => state
    | some .stopped =>
      { state with stopped := true, status := if p.isStrict then 0 else state.status }
    | some (.broken m) => state.halt m p.brokenStatus
  | letter =>
    if letter ∈ ['d', 'i'] then
      let (n, state) := p.takeSigned state
      state.write (f.writeSigned n)
    else if letter ∈ ['o', 'u', 'x', 'X'] then
      let (n, state) := p.takeUnsigned state
      state.write (f.writeUnsigned n)
    else
      let (x, state) := p.takeFloating state
      state.write (f.writeFloating p.grid x)

/-- Takes what a conversion asks for beside its argument, and goes on with the field. -/
def Printf.measured (p : Printf) (c : Conversion) (state : Printing)
    (goOn : Field → Printing → Printing) : Printing :=
  let (width, state) := p.takeMeasure "field width" c.width state
  if state.stopped then state
  else
    let (precision, state) := p.takeMeasure "precision" c.precision state
    if state.stopped then state
    else
      let width := width.getD 0
      let flags := if width < 0 then '-' :: c.flags else c.flags
      goOn ⟨c.letter, flags, width.natAbs, precision.bind fun n => if n < 0 then none else n.toNat⟩
        state

def Printf.step (p : Printf) (state : Printing) (item : Item) : Printing :=
  if state.stopped then state
  else
    match item with
    | .piece ⟨text, none⟩ => state.write text
    | .piece ⟨text, some .stopped⟩ => { state.write text with stopped := true, status := 0 }
    | .piece ⟨text, some (.broken m)⟩ => (state.write text).halt m p.brokenStatus
    | .refused c m => p.measured c state fun _ state => state.halt m p.brokenStatus
    | .conversion c =>
      p.measured c state fun f state =>
        if maxMeasure < f.width ∨ maxMeasure < f.precision.getD 0 then
          state.halt "xvsnprintf failed" p.brokenStatus
        else p.fillField f state

/-- Uses a format until no argument is left. -/
def Printf.use (p : Printf) (items : List Item) : Nat → Printing → Printing
  | 0, state => state
  | bound + 1, state =>
    let state := items.foldl p.step { state with asked := false }
    if state.asked && !state.stopped && !state.arguments.isEmpty then p.use items bound state
    else state

/-- What comes of a format and its arguments. -/
def Printf.run (p : Printf) (form : String) (arguments : List String) : Printing :=
  let state := p.use (p.items form.toList.length form.toList) (arguments.length + 1)
    { arguments := arguments }
  match state.arguments with
  | first :: _ =>
    if p.isStrict ∧ ¬ state.stopped then
      state.complain ("warning: ignoring excess arguments, starting with " ++ quotedText first)
        state.status
    else state
  | [] => state

end LoweringAudit.Shell
