/-!
What can be wrong with a regular expression in writing, where, and how it is shown: the lines of the
expression with carets below the place, and what is wrong after them.
-/
namespace LoweringAudit.Regex

inductive Flaw where
  | classEscape | classRange | classRangeBound | classUnclosed
  | decimalEmpty | decimalInvalid
  | hexEmpty | hexInvalid | hexDigit
  | escapeUnfinished | escapeUnknown
  | flagDangling | flagTwice | flagNegatedTwice | flagMissing | flagUnknown
  | nameTwice | nameEmpty | nameInvalid | nameUnclosed
  | groupUnclosed | groupUnopened
  | countOrder | countEmpty | countUnclosed | nothingRepeated
  | edgeUnclosed | edgeUnknown | edgeUnfinished
  | propertyInvalid | propertyUnknown | propertyValueUnknown
  | backReference | lookAround
  | nestedTooDeeply
  | octetsAlone | unicodeOff
  | tooBig
  deriving DecidableEq, Repr

/-- How deeply expressions may be nested. -/
def maxDepth : Nat := 250

/-- How many octets an expression may take when it is made ready for search. -/
def maxSize : Nat := 10 * 0x100000

def Flaw.message : Flaw → String
  | classEscape => "invalid escape sequence found in character class"
  | classRange => "invalid character class range, the start must be <= the end"
  | classRangeBound => "invalid range boundary, must be a literal"
  | classUnclosed => "unclosed character class"
  | decimalEmpty => "decimal literal empty"
  | decimalInvalid => "decimal literal invalid"
  | hexEmpty => "hexadecimal literal empty"
  | hexInvalid => "hexadecimal literal is not a Unicode scalar value"
  | hexDigit => "invalid hexadecimal digit"
  | escapeUnfinished => "incomplete escape sequence, reached end of pattern prematurely"
  | escapeUnknown => "unrecognized escape sequence"
  | flagDangling => "dangling flag negation operator"
  | flagTwice => "duplicate flag"
  | flagNegatedTwice => "flag negation operator repeated"
  | flagMissing => "expected flag but got end of regex"
  | flagUnknown => "unrecognized flag"
  | nameTwice => "duplicate capture group name"
  | nameEmpty => "empty capture group name"
  | nameInvalid => "invalid capture group character"
  | nameUnclosed => "unclosed capture group name"
  | groupUnclosed => "unclosed group"
  | groupUnopened => "unopened group"
  | countOrder => "invalid repetition count range, the start must be <= the end"
  | countEmpty => "repetition quantifier expects a valid decimal"
  | countUnclosed => "unclosed counted repetition"
  | nothingRepeated => "repetition operator missing expression"
  | edgeUnclosed =>
    "special word boundary assertion is either unclosed or contains an invalid character"
  | edgeUnknown => "unrecognized special word boundary assertion, valid choices are: " ++
      "start, end, start-half or end-half"
  | edgeUnfinished => "found either the beginning of a special word boundary or a bounded " ++
      "repetition on a \\b with an opening brace, but no closing brace"
  | propertyInvalid => "invalid Unicode character class"
  | propertyUnknown => "Unicode property not found"
  | propertyValueUnknown => "Unicode property value not found"
  | backReference => "backreferences are not supported"
  | lookAround => "look-around, including look-ahead and look-behind, is not supported"
  | nestedTooDeeply => "exceed the maximum number of nested parentheses/brackets (" ++
      toString maxDepth ++ ")"
  | octetsAlone => "pattern can match invalid UTF-8"
  | unicodeOff => "Unicode not allowed here"
  | tooBig => "Compiled regex exceeds size limit of " ++ toString maxSize ++ " bytes."

/-- Places of an expression, from one character up to another. -/
structure Span where
  start : Nat
  stop : Nat
  deriving DecidableEq, Repr

structure Fault where
  flaw : Flaw
  place : Span
  /-- The place that this one is at odds with. -/
  other : Option Span := none
  deriving DecidableEq, Repr

/-- The carets below places in order, on a line that has reached a column. -/
def carets (column : Nat) : List Span → List Char
  | [] => []
  | s :: rest =>
    let width := max 1 (s.stop - s.start)
    List.replicate (s.start - column) ' ' ++ List.replicate width '^' ++
      carets (max column s.start + width) rest

/-- A column of a line, both from zero. -/
structure Position where
  line : Nat
  column : Nat
  deriving DecidableEq, Repr

/-- Where a character of a text stands. -/
def Position.of (text : List Char) (n : Nat) : Position :=
  let before := text.take n
  ⟨before.count '\n', (before.reverse.takeWhile (· != '\n')).length⟩

namespace Fault

/-- The places in the order in which they stand. -/
def places (f : Fault) : List Span :=
  match f.other with
  | none => [f.place]
  | some s => if s.start ≤ f.place.start then [s, f.place] else [f.place, s]

/-- The lines of an expression. A last one without characters does not count, and a carriage return
before a line feed belongs to it. -/
def lines (pattern : List Char) : List (List Char) :=
  let parts := pattern.splitOn '\n'
  let last := parts.getLast?.getD []
  (parts.dropLast.map fun l => if l.getLast? = some '\r' then l.dropLast else l) ++
    (if last = [] then [] else [last])

/-- An expression of one line, with carets below. -/
def renderLine (f : Fault) (pattern : List Char) : List Char :=
  "    ".toList ++ pattern ++ "\n    ".toList ++ carets 0 f.places ++ ['\n']

/-- The number of a line, as wide as the number of lines. -/
def lineNumber (count n : Nat) : List Char :=
  let digits := Nat.toDigits 10 n
  List.replicate ((Nat.toDigits 10 count).length - digits.length) ' ' ++ digits

/-- A place on one line, as columns of the line; nothing if it takes more lines. -/
def columns? (pattern : List Char) (s : Span) : Option (Nat × Span) :=
  let first := Position.of pattern s.start
  let last := Position.of pattern s.stop
  if first.line = last.line then some (first.line, ⟨first.column, last.column⟩) else none

/-- What is said of a place that takes more than one line. -/
def renderFar (pattern : List Char) (s : Span) : String :=
  let first := Position.of pattern s.start
  let last := Position.of pattern s.stop
  "on line " ++ toString (first.line + 1) ++ " (column " ++ toString (first.column + 1) ++
    ") through line " ++ toString (last.line + 1) ++ " (column " ++ toString last.column ++ ")\n"

/-- An expression of many lines, between rules, with carets below those that are blamed. -/
def renderLines (f : Fault) (pattern : List Char) : List Char :=
  let count := (pattern.splitOn '\n').length
  let rule := List.replicate 79 '~' ++ ['\n']
  let near := f.places.filterMap (columns? pattern)
  let far := f.places.filter fun s => (columns? pattern s).isNone
  let shown := (lines pattern).zipIdx.flatMap fun (l, i) =>
    let here := (near.filter (·.1 = i)).map (·.2)
    let front := lineNumber count (i + 1) ++ ": ".toList
    let notes := if here = [] then [] else
      List.replicate front.length ' ' ++ carets 0 here ++ ['\n']
    front ++ l ++ ['\n'] ++ notes
  rule ++ shown ++ rule ++ (String.join (far.map (renderFar pattern))).toList

/-- The fault in an expression, in writing. A size is the fault of no place. -/
def render (f : Fault) (pattern : String) : String :=
  if f.flaw = .tooBig then f.flaw.message
  else
    let shown :=
      if pattern.toList.contains '\n' then f.renderLines pattern.toList
      else f.renderLine pattern.toList
    "regex parse error:\n" ++ String.ofList shown ++ "error: " ++ f.flaw.message

end Fault

end LoweringAudit.Regex
