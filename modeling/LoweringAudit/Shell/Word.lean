import LoweringAudit.Shell.Octet
/-!
Words and commands of the shell. A word is made of text and of what is put in when the command runs:
values of parameters, the output of commands, and sums. Commands hold words, and words hold
commands. Quotes matter twice: what is put in outside double quotes is cut into fields, and only
outside quotes do `*`, `?` and `[` stand for other characters in a pattern.
-/
namespace LoweringAudit.Shell

inductive Parameter where
  | position (n : Nat)
  /-- All arguments; between quotes a field each. -/
  | each
  /-- All arguments; between quotes one field. -/
  | joined
  | count
  | process
  | background
  | status
  | options
  | named (name : String)
  deriving DecidableEq, Repr

/-- What a word does that stands beside a parameter. -/
inductive Guard where
  /-- It stands in for a value that is missing. -/
  | orElse
  /-- It becomes the value that is missing. -/
  | orAssign
  /-- It says what is wrong if a value is missing. -/
  | orFail
  /-- It takes the place of a value that is there. -/
  | whenSet
  deriving DecidableEq, Repr

/-- How a redirection uses its word. -/
inductive Channel where
  | read | write | append | overwrite | readWrite
  /-- The word numbers a descriptor, or is a dash. -/
  | likeDescriptor
  /-- The text below the command; its number in the table of these texts. -/
  | document (number : Nat)
  deriving DecidableEq, Repr

mutual

inductive Part where
  /-- Text; what quotes keep is no pattern. -/
  | text (s : List Char) (isKept : Bool)
  /-- Quotes stood here: there is a field, though it may be empty. -/
  | mark
  | value (p : Parameter) (inQuotes : Bool)
  | size (p : Parameter) (inQuotes : Bool)
  | guarded (p : Parameter) (guard : Guard) (emptyIsMissing : Bool) (w : List Part)
      (inQuotes : Bool)
  /-- A value without what fits a pattern at its start or end. -/
  | trimmed (p : Parameter) (atEnd longest : Bool) (w : List Part) (inQuotes : Bool)
  /-- Braces that hold no parameter. -/
  | unreadable
  | output (body : List Command) (inQuotes : Bool)
  | sum (w : List Part) (inQuotes : Bool)
  deriving Repr

inductive Redirect where
  | mk (descriptor : Nat) (channel : Channel) (w : List Part)
  deriving Repr

/-- What is done where one of some patterns fits. -/
inductive Arm where
  | mk (patterns : List (List Part)) (body : List Command)
  deriving Repr

/-- A command and the line on which it stands, where that may be told. -/
inductive Command where
  | simple (line : Nat) (assignments : List (String × List Part)) (words : List (List Part))
      (redirects : List Redirect)
  | redirected (line : Nat) (body : Command) (redirects : List Redirect)
  | group (body : List Command)
  /-- A group whose changes end with it. -/
  | apart (line : Nat) (body : List Command) (redirects : List Redirect)
  | branch (test yes no : List Command)
  /-- As long as the test succeeds, or fails. -/
  | loop (isUntil : Bool) (test body : List Command)
  /-- Once for each value. -/
  | each (line : Nat) (name : String) (values : List (List Part)) (body : List Command)
  | choice (line : Nat) (subject : List Part) (arms : List Arm)
  | define (name : String) (body : Command)
  /-- Each stage reads what the one before it writes. -/
  | pipeline (stages : List Command)
  | negated (body : Command)
  | both (a b : Command)
  | either (a b : Command)
  | background (body : Command)
  deriving Repr

end

abbrev Word := List Part

abbrev Script := List Command

/-- The text of a part that stands outside quotes. -/
def Part.bare? : Part → Option (List Char)
  | text s false => some s
  | _ => none

/-- The text of a word that has neither parameters nor quotes. -/
def Word.bare? (w : Word) : Option (List Char) :=
  (w.mapM Part.bare?).map List.flatten

end LoweringAudit.Shell
