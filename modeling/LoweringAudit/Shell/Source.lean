import LoweringAudit.Shell.Word
/-!
The text of a script while it is read: what is left of it, the line, a token that was taken back,
and the texts that stand below a command. A reader changes the source or ends with a fault.
-/
namespace LoweringAudit.Shell

inductive Operator where
  | semicolon | doubleSemicolon | ampersand | both | either | bar | opening | closing
  deriving DecidableEq, Repr

def Operator.label : Operator → String
  | semicolon => "\";\""
  | doubleSemicolon => "\";;\""
  | ampersand => "\"&\""
  | both => "\"&&\""
  | either => "\"||\""
  | bar => "\"|\""
  | opening => "\"(\""
  | closing => "\")\""

/-- Why a text is no script. -/
inductive SyntaxFault where
  | unexpected (what : String) (expecting : Option String)
  | openQuote
  | openBackquote
  | openBrace
  | openSum
  | badLoopVariable
  | badFunctionName
  | badDescriptor
  deriving DecidableEq, Repr

def SyntaxFault.message : SyntaxFault → String
  | unexpected what none => what ++ " unexpected"
  | unexpected what (some other) => what ++ " unexpected (expecting " ++ other ++ ")"
  | openQuote => "Unterminated quoted string"
  | openBackquote => "EOF in backquote substitution"
  | openBrace => "Missing '\x7d'"
  | openSum => "Missing '))'"
  | badLoopVariable => "Bad for loop variable"
  | badFunctionName => "Bad function name"
  | badDescriptor => "Bad fd number"

inductive Token where
  /-- A word, and whether it has quotes. -/
  | word (w : Word) (isQuoted : Bool)
  | keyword (name : String)
  | operator (o : Operator)
  /-- A redirection before its word; `isText` if the word ends a text below the command. -/
  | redirect (descriptor : Nat) (channel : Channel) (isText dropsTabs : Bool)
  | newLine
  | finish

def quotedWord (s : String) : String :=
  "\"" ++ s ++ "\""

/-- A token as faults name it. -/
def Token.label : Token → String
  | word .. => "word"
  | keyword name => quotedWord name
  | operator o => o.label
  | redirect .. => "redirection"
  | newLine => "newline"
  | finish => "end of file"

/-- A text below a command that is still to be read. -/
structure Awaited where
  number : Nat
  delimiter : List Char
  /-- Nothing is put into a text whose delimiter has quotes. -/
  isRaw : Bool
  dropsTabs : Bool
  deriving DecidableEq, Repr

/-- The texts below commands, by number. -/
abbrev Documents := List (Nat × Word)

/-- A short name whose text is being read. -/
structure Expansion where
  name : String
  /-- How much is left of the source where the text ends. -/
  left : Nat
  /-- Whether the text ends with a blank, so that the word after it may be a short name too. -/
  reachesOn : Bool
  deriving DecidableEq, Repr

structure Source where
  rest : List Char
  line : Nat := 1
  /-- A token that was looked at and not taken. -/
  ahead : Option Token := none
  awaited : List Awaited := []
  documents : Documents := []
  /-- The number of the next text below a command. -/
  nextDocument : Nat := 0
  /-- The texts that short names stand for. -/
  aliases : List (String × String) := []
  expansions : List Expansion := []

namespace Source

/-- More than can be read of the source, even if each word is a short name. -/
def room (s : Source) : Nat :=
  s.aliases.foldl (fun n a => n * (a.2.length + 2)) (s.rest.length + 2)

/-- The text that a word stands for, unless the word is a part of that text. -/
def alias? (s : Source) (name : String) : Option String :=
  if s.expansions.any (·.name == name) then none else s.aliases.lookup name

/-- Puts the text of a short name before what is left. -/
def expand (s : Source) (name text : String) : Source :=
  if text.isEmpty then s
  else
    let e : Expansion := ⟨name, s.rest.length, text.toList.getLast?.any fun c => c = ' ' ∨ c = '\t'⟩
    { s with rest := text.toList ++ s.rest, expansions := e :: s.expansions }

/-- Forgets the texts that have been read to their ends. -/
def settle (s : Source) : Source :=
  { s with expansions := s.expansions.filter fun e => e.left ≤ s.rest.length }

end Source

/-- A fault and the line on which it shows. -/
abbrev Reader := StateT Source (Except (SyntaxFault × Nat))

namespace Reader

def fail (f : SyntaxFault) : Reader α := do
  throw (f, (← get).line)

/-- Drops backslashes with a line end after them; how many they were. -/
def dropJoins : List Char → Nat × List Char
  | '\\' :: '\n' :: rest =>
    let (n, rest) := dropJoins rest
    (n + 1, rest)
  | rest => (0, rest)

/-- Goes past joined lines. -/
def join : Reader Unit :=
  modify fun s =>
    let (n, rest) := dropJoins s.rest
    { s with rest := rest, line := s.line + n }

/-- The next character, past joined lines. -/
def look : Reader (Option Char) := do
  join
  return (← get).rest.head?

/-- Goes past a number of characters. -/
def skip (n : Nat) : Reader Unit :=
  modify fun s =>
    { s with rest := s.rest.drop n, line := s.line + (s.rest.take n).count '\n' }

/-- The characters from here on as long as they pass, past joined lines between them. -/
def gather (passes : Char → Bool) : Reader (List Char) := do
  go ((← get).rest.length + 1) []
where
  go : Nat → List Char → Reader (List Char)
    | 0, taken => return taken.reverse
    | bound + 1, taken => do
      match ← look with
      | some c =>
        if passes c then
          skip 1
          go bound (c :: taken)
        else return taken.reverse
      | none => return taken.reverse

/-- Goes past a character if it is the next one. -/
def accept (c : Char) : Reader Bool := do
  if (← look) = some c then
    skip 1
    return true
  else return false

/-- Enough for whatever goes through the rest of the source. -/
def bound : Reader Nat := do
  return (← get).room

end Reader

end LoweringAudit.Shell
