import LoweringAudit.Json.Basic
import LoweringAudit.Json.Literal
/-!
JSON values as text, in one line or spread over lines with two blanks for each level.
-/
namespace LoweringAudit.Json

/-- A literal with its quotes. One without text is written as a lone surrogate. -/
def writeString : Option String → List Char
  | some s => '"' :: Literal.write s.toList ++ ['"']
  | none => "\"\\ud800\"".toList

mutual

def write : Json → List Char
  | null => "null".toList
  | bool true => "true".toList
  | bool false => "false".toList
  | number literal => literal.toList
  | string text => writeString text
  | array items => '[' :: writeItems items ++ [']']
  | object members => '{' :: writeMembers members ++ ['}']
termination_by structural j => j

def writeItems : List Json → List Char
  | [] => []
  | [j] => write j
  | j :: k :: rest => write j ++ ',' :: writeItems (k :: rest)
termination_by structural items => items

def writeMembers : List (Option String × Json) → List Char
  | [] => []
  | [m] => writeMember m
  | m :: n :: rest => writeMember m ++ ',' :: writeMembers (n :: rest)
termination_by structural members => members

def writeMember : Option String × Json → List Char
  | (key, value) => writeString key ++ ':' :: write value
termination_by structural m => m

end

def compact (j : Json) : String :=
  String.ofList j.write

/-- A new line at a level. -/
def newLine (level : Nat) : List Char :=
  '\n' :: List.replicate (2 * level) ' '

mutual

/-- The value spread over lines; lines after the first stand at the level or deeper. -/
def spread (level : Nat) : Json → List Char
  | null => write null
  | bool b => write (bool b)
  | number literal => write (number literal)
  | string text => write (string text)
  | array [] => ['[', ']']
  | array (j :: rest) => '[' :: spreadItems level (j :: rest) ++ newLine level ++ [']']
  | object [] => ['{', '}']
  | object (m :: rest) => '{' :: spreadMembers level (m :: rest) ++ newLine level ++ ['}']
termination_by structural j => j

def spreadItems (level : Nat) : List Json → List Char
  | [] => []
  | [j] => newLine (level + 1) ++ spread (level + 1) j
  | j :: k :: rest =>
    newLine (level + 1) ++ spread (level + 1) j ++ ',' :: spreadItems level (k :: rest)
termination_by structural items => items

def spreadMembers (level : Nat) : List (Option String × Json) → List Char
  | [] => []
  | [m] => newLine (level + 1) ++ spreadMember (level + 1) m
  | m :: n :: rest =>
    newLine (level + 1) ++ spreadMember (level + 1) m ++ ',' :: spreadMembers level (n :: rest)
termination_by structural members => members

def spreadMember (level : Nat) : Option String × Json → List Char
  | (key, value) => writeString key ++ ':' :: ' ' :: spread level value
termination_by structural m => m

end

def pretty (j : Json) : String :=
  String.ofList (spread 0 j)

end LoweringAudit.Json
