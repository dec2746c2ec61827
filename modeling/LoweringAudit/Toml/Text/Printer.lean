import LoweringAudit.Text.Digits
import LoweringAudit.Text.Search
/-!
TOML strings, written. There are four forms: basic ones between double quotes, with escapes, and
literal ones between single quotes, without; each on one line or, between tripled quotes, over
several. A text is written in the first of them that needs no escape, as far as there is one.
-/
namespace LoweringAudit.Toml.Text

open LoweringAudit.Text (upperDigit)

/-- A control character other than tab and line feed. -/
def isControl (c : Char) : Bool :=
  decide (c.toNat < 0x20) && c != '\t' && c != '\n' || c.toNat == 0x7F

/-- A character that a string can hold as it is: no control and no line feed. -/
def isPlain (c : Char) : Bool :=
  !isControl c && c != '\n'

inductive Form where
  | basic | literal | basicLines | literalLines
  deriving DecidableEq, Repr

/-- Whether three of these quotes stand in a row. -/
def hasTriple (quote : Char) (s : List Char) : Bool :=
  LoweringAudit.Text.contains [quote, quote, quote] s

/-- The form in which a text is written. -/
def Form.ofText (s : List Char) : Form :=
  let controls := s.any isControl
  let lines := s.contains '\n'
  if !controls && !lines && !s.contains '\\' && !s.contains '"' then .basic
  else if !controls && !lines && !s.contains '\'' then .literal
  else if !controls && !s.contains '\\' && !hasTriple '"' s then .basicLines
  else if !controls && !hasTriple '\'' s then .literalLines
  else if lines then .basicLines
  else .basic

/-- A character of a basic string other than a quote and a line feed. -/
def escape (c : Char) : List Char :=
  match c with
  | '\x08' => ['\\', 'b']
  | '\t' => ['\\', 't']
  | '\x0c' => ['\\', 'f']
  | '\r' => ['\\', 'r']
  | '\\' => ['\\', '\\']
  | c =>
    if isControl c then
      ['\\', 'u', '0', '0', upperDigit (c.toNat / 16), upperDigit (c.toNat % 16)]
    else [c]

def escapeInLine (c : Char) : List Char :=
  match c with
  | '\n' => ['\\', 'n']
  | '"' => ['\\', '"']
  | c => escape c

/-- The inside of a basic string over lines, after `run` bare quotes: a third one is escaped. -/
def escapeLines : Nat → List Char → List Char
  | _, [] => []
  | run, c :: rest =>
    if c = '"' then
      if run = 2 then '\\' :: '"' :: escapeLines 0 rest else '"' :: escapeLines (run + 1) rest
    else if c = '\n' then '\n' :: escapeLines 0 rest
    else escape c ++ escapeLines 0 rest

/-- A line feed after the opening quotes of a text that has lines; it is not part of the text. -/
def opening (s : List Char) : List Char :=
  if s.contains '\n' then ['\n'] else []

def Form.write (s : List Char) : Form → List Char
  | basic => '"' :: s.flatMap escapeInLine ++ ['"']
  | literal => '\'' :: s ++ ['\'']
  | basicLines => "\"\"\"".toList ++ opening s ++ escapeLines 0 s ++ "\"\"\"".toList
  | literalLines => "'''".toList ++ opening s ++ s ++ "'''".toList

def write (s : List Char) : List Char :=
  (Form.ofText s).write s

end LoweringAudit.Toml.Text
