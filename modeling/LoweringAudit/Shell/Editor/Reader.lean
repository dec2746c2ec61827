import LoweringAudit.Shell.Editor.Basic
import LoweringAudit.Shell.Escape
/-!
Reading scripts of the line editor. A script comes in pieces, of which each is read as if it stood
on lines of its own; only a text that a piece leaves open goes on in the next one. A flaw is told
with the place where it shows.
-/
namespace LoweringAudit.Shell.Editor

open Tool (Form Writing)

/-! Escapes -/

/-- The character of an escape, after its backslash, that stands for one by a letter, by a control
key or by digits. -/
def special? : List Char → Option (Char × List Char)
  | 'a' :: rest => some ('\x07', rest)
  | 'f' :: rest => some ('\x0c', rest)
  | 'r' :: rest => some ('\r', rest)
  | 't' :: rest => some ('\t', rest)
  | 'v' :: rest => some ('\x0b', rest)
  | 'c' :: '\\' :: '\\' :: rest => some ('\x1c', rest)
  | 'c' :: c :: rest => some (Char.ofNat (c.toUpper.toNat ^^^ 64), rest)
  | 'd' :: rest => byDigits 10 3 rest
  | 'o' :: rest => byDigits 8 3 rest
  | 'x' :: rest => byDigits 16 2 rest
  | _ => none
where
  byDigits (base most : Nat) (s : List Char) : Option (Char × List Char) :=
    match leadingDigits base most s with
    | [] => none
    | digits => some (octetOf base digits, s.drop digits.length)

/-- An expression with the characters that escapes stand for; the bound is its length. -/
def withSpecials : Nat → List Char → List Char
  | 0, s => s
  | _, [] => []
  | n + 1, '\\' :: rest =>
    match special? rest, rest with
    | some (c, rest), _ => c :: withSpecials n rest
    | none, [] => ['\\']
    | none, ['c'] => ['\\']
    | none, c :: rest => '\\' :: c :: withSpecials n rest
  | n + 1, c :: rest => c :: withSpecials n rest

/-- A text without its backslashes; the bound is its length. -/
def unescaped : Nat → List Char → List Char
  | 0, s => s
  | _, [] => []
  | _, ['\\'] => []
  | n + 1, '\\' :: d :: rest =>
    match special? (d :: rest) with
    | some (c, rest) => c :: unescaped n rest
    | none => (if d = 'n' then '\n' else d) :: unescaped n rest
  | n + 1, c :: rest => c :: unescaped n rest

/-- A character more in the parts of what is put in. -/
def consText (c : Char) : List Part → List Part
  | .text s :: rest => .text (c :: s) :: rest
  | parts => .text [c] :: parts

/-- The parts of what is put in for a match; the bound is the length of the text. -/
def partsFrom : Nat → List Char → List Part
  | 0, _ => []
  | _, [] => []
  | _, ['\\', 'c'] => [.text ['\\']]
  | n + 1, '&' :: rest => .group 0 :: partsFrom n rest
  | n + 1, '\\' :: c :: rest =>
    match c with
    | 'U' => .turn .upper :: partsFrom n rest
    | 'L' => .turn .lower :: partsFrom n rest
    | 'u' => .turn .upperFirst :: partsFrom n rest
    | 'l' => .turn .lowerFirst :: partsFrom n rest
    | 'E' => .turn .unchanged :: partsFrom n rest
    | 'n' => consText '\n' (partsFrom n rest)
    | c =>
      if c.isDigit then .group (c.toNat - '0'.toNat) :: partsFrom n rest
      else
        match special? (c :: rest) with
        | some (d, rest) => consText d (partsFrom n rest)
        | none => consText c (partsFrom n rest)
  | n + 1, c :: rest => consText c (partsFrom n rest)

/-- Where a piece of a script comes from. -/
inductive Origin where
  /-- An argument, by its number among those that are scripts. -/
  | argument (n : Nat)
  | file (path : String)
  deriving DecidableEq, Repr

/-- A place in a script, as flaws are told. -/
structure Mark where
  origin : Origin
  /-- How many characters have been read. -/
  taken : Nat
  /-- How many lines have been begun. -/
  line : Nat
  deriving DecidableEq, Repr

def Mark.label (m : Mark) : String :=
  match m.origin with
  | .argument n => "-e expression #" ++ toString n ++ ", char " ++ toString m.taken
  | .file path => "file " ++ path ++ " line " ++ toString m.line

/-- A script while it is read. -/
structure Script where
  rest : List Char
  mark : Mark
  further : List (Origin × List Char) := []
  /-- No piece has been read to its end. -/
  isFirst : Bool := true
  isExtended : Bool := false
  /-- The lines that will be read end where a text line does. -/
  hasTextLines : Bool := true
  program : Program := {}
  /-- The blocks that are open, innermost first, and where each was opened. -/
  blocks : List (Nat × Mark) := []

abbrev Reader := StateT Script (Except (Flaw × Mark))

namespace Reader

def fail (f : Flaw) : Reader α := do
  throw (f, (← get).mark)

/-- The next character. -/
def next : Reader (Option Char) := do
  let s ← get
  match s.rest with
  | [] => return none
  | c :: rest =>
    set { s with
      rest := rest
      mark := { s.mark with
        taken := s.mark.taken + 1, line := s.mark.line + if c = '\n' then 1 else 0 } }
    return some c

/-- Goes past a number of characters. -/
def skip (n : Nat) : Reader Unit :=
  modify fun s =>
    { s with
      rest := s.rest.drop n
      mark := { s.mark with
        taken := s.mark.taken + (s.rest.take n).length
        line := s.mark.line + (s.rest.take n).count '\n' } }

def peek : Reader (Option Char) := do
  return (← get).rest.head?

/-- The characters from here on as long as they pass. -/
def gather (passes : Char → Bool) : Reader (List Char) := do
  let found := (← get).rest.takeWhile passes
  skip found.length
  return found

def isSpace (c : Char) : Bool :=
  c == ' ' || c == '\t'

def skipBlanks : Reader Unit := do
  let _ ← gather isSpace

/-- The number that is written here; none is zero. -/
def number : Reader Nat := do
  return Text.natOfDigits 10 (← gather Char.isDigit)

/-- Nothing but the end of a command may follow. -/
def finish : Reader Unit := do
  skipBlanks
  match ← peek with
  | none => return ()
  | some c =>
    if c = '}' ∨ c = '#' then return ()
    skip 1
    if c ≠ '\n' ∧ c ≠ ';' then fail .extraCharacters

/-! Texts between delimiters -/

/-- Where reading is within the brackets of an expression. -/
inductive Bracket where
  | outside
  /-- At the first member, which may be any character. -/
  | start (mayNegate : Bool)
  | inside
  /-- In a name between two of these. -/
  | named (mark : Char)
  deriving DecidableEq, Repr

def Bracket.step (b : Bracket) (c : Char) (after : Option Char) : Bracket :=
  match b with
  | outside => if c = '[' then start true else outside
  | start mayNegate => if c = '^' ∧ mayNegate = true then start false else enter c
  | inside => if c = ']' then outside else enter c
  | named mark => if c = mark ∧ after = some ']' then start false else named mark
where
  enter (c : Char) : Bracket :=
    if c = '[' ∧ after.any (· ∈ [':', '.', '=']) then named (after.getD ':') else inside

/-- What stands before a delimiter, latest first, and how far that is; none if the delimiter does
not come. The delimiter after a backslash stands for itself. -/
def delimitedFrom (delimiter : Char) (isExpression : Bool) :
    Bracket → List Char → List Char → Nat → Option (List Char) × Nat
  | _, _, [], n => (none, n)
  | b, taken, [c], n =>
    if c = '\n' then (none, n)
    else if c = delimiter ∧ b = .outside then (some taken, n + 1)
    else (none, n + 1)
  | b, taken, c :: d :: rest, n =>
    if c = '\n' then (none, n)
    else if c = delimiter ∧ b = .outside then (some taken, n + 1)
    else if c = '\\' ∧ b = .outside then
      if d = 'n' ∧ isExpression = true then
        delimitedFrom delimiter isExpression b ('\n' :: taken) rest (n + 2)
      else if d = '\n' ∧ isExpression = true then (none, n + 1)
      else if d = delimiter ∧ ¬ (isExpression = false ∧ d = '&') then
        delimitedFrom delimiter isExpression b (d :: taken) rest (n + 2)
      else delimitedFrom delimiter isExpression b (d :: '\\' :: taken) rest (n + 2)
    else if c = '\\' ∧ d = 'n' then
      delimitedFrom delimiter isExpression .inside ('\n' :: taken) rest (n + 2)
    else
      let b := if isExpression then b.step c (some d) else b
      delimitedFrom delimiter isExpression b (c :: taken) (d :: rest) (n + 1)

/-- The text up to a delimiter. -/
def delimited (delimiter : Char) (isExpression : Bool) (flaw : Flaw) : Reader (List Char) := do
  let (found, n) := delimitedFrom delimiter isExpression .outside [] (← get).rest 0
  skip n
  match found with
  | some taken => return taken.reverse
  | none => fail flaw

end Reader

end LoweringAudit.Shell.Editor
