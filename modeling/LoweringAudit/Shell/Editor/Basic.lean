import LoweringAudit.Shell.Tool.Matching
/-!
Scripts of the line editor. A script is a list of commands, each of which applies to some of the
lines that go by. Commands stand one after the other; blocks and labels are places in the list.
-/
namespace LoweringAudit.Shell.Editor

open Tool (Form)

/-- What a single line is told by. -/
inductive Address where
  | line (n : Nat)
  /-- Every so many lines, from the first one on. -/
  | every (first step : Nat)
  | last
  /-- An expression, or the one used last. -/
  | found (f : Option Form)
  deriving DecidableEq, Repr

/-- How a range of lines ends. -/
inductive Finish where
  | address (a : Address)
  /-- So many lines further on. -/
  | further (n : Nat)
  /-- At the next line whose number is a multiple. -/
  | multiple (n : Nat)
  deriving DecidableEq, Repr

/-- The lines to which a command applies. -/
structure Place where
  start : Option Address := none
  finish : Option Finish := none
  isNegated : Bool := false
  deriving DecidableEq, Repr

/-- How letters are written from here on, or the next one only. -/
inductive LetterCase where
  | upper | lower | upperFirst | lowerFirst | unchanged
  deriving DecidableEq, Repr

/-- A part of what is put in for a match. -/
inductive Part where
  | text (s : List Char)
  /-- What a group has; the whole match is group zero. -/
  | group (n : Nat)
  | turn (c : LetterCase)
  deriving DecidableEq, Repr

/-- Where something is written. -/
inductive Outlet where
  /-- Where lines are shown. -/
  | shown
  /-- The same place by its name; each of the two minds only its own ends of lines. -/
  | output
  | aside
  | file (path : String)
  deriving DecidableEq, Repr

structure Substitution where
  sought : Option Form
  parts : List Part
  /-- The first match that is replaced. -/
  number : Nat := 1
  isGlobal : Bool := false
  prints : Bool := false
  outlet : Option Outlet := none
  deriving DecidableEq, Repr

inductive Action where
  /-- A block, up to a place in the list. -/
  | opening (stop : Nat)
  | closing
  | label (name : String)
  | jump (name : String)
  /-- A jump if something has been replaced, or if nothing has. -/
  | jumpIf (hasReplaced : Bool) (name : String)
  | insert (text : List Char)
  | append (text : List Char)
  | change (text : List Char)
  | appendFile (path : String)
  | appendLine (path : String)
  | write (o : Outlet)
  | writeFirst (o : Outlet)
  | print | printFirst | delete | deleteFirst | next | join
  | hold | holdMore | recall | recallMore | exchange
  | clear | lineNumber | fileName
  /-- The line with all of its characters visible, in lines of a width. -/
  | showAll (width : Option Nat)
  | quit (status : Nat) (isShown : Bool)
  | substitute (s : Substitution)
  | exchangeLetters (pairs : List (Char × Char))
  deriving DecidableEq, Repr

structure Command where
  place : Place
  action : Action
  deriving DecidableEq, Repr

structure Program where
  commands : Array Command := #[]
  /-- The script itself asks that lines are not shown unless it shows them. -/
  isQuiet : Bool := false
  deriving DecidableEq, Repr

/-- What is wrong with a script. -/
inductive Flaw where
  | unknownCommand (c : Char)
  | missingCommand
  | extraCharacters
  | unexpectedComma
  | unexpectedBrace
  | openBrace
  | negatedTwice
  | lineZero
  | relativeStart
  | oneAddressOnly
  | addressBeforeLabel
  | addressBeforeBrace
  | addressBeforeComment
  | noLabel
  | noText
  | noFile
  | openAddress
  | openSubstitution
  | openExchange
  | unevenExchange
  | unknownFlag
  | printsTwice
  | globalTwice
  | numberedTwice
  | numberZero
  | flagsWithoutExpression
  | noExpression
  | noGroup (n : Nat)
  | newerWanted
  | badExpression (message : String)
  deriving DecidableEq, Repr

def Flaw.message : Flaw → String
  | unknownCommand c => "unknown command: \x60" ++ String.singleton c ++ "'"
  | missingCommand => "missing command"
  | extraCharacters => "extra characters after command"
  | unexpectedComma => "unexpected \x60,'"
  | unexpectedBrace => "unexpected \x60\x7d'"
  | openBrace => "unmatched \x60\x7b'"
  | negatedTwice => "multiple \x60!'s"
  | lineZero => "invalid usage of line address 0"
  | relativeStart => "invalid usage of +N or ~N as first address"
  | oneAddressOnly => "command only uses one address"
  | addressBeforeLabel => ": doesn't want any addresses"
  | addressBeforeBrace => "\x60\x7d' doesn't want any addresses"
  | addressBeforeComment => "comments don't accept any addresses"
  | noLabel => "\":\" lacks a label"
  | noText => "expected \\ after \x60a', \x60c' or \x60i'"
  | noFile => "missing filename in r/R/w/W commands"
  | openAddress => "unterminated address regex"
  | openSubstitution => "unterminated \x60s' command"
  | openExchange => "unterminated \x60y' command"
  | unevenExchange => "strings for \x60y' command are different lengths"
  | unknownFlag => "unknown option to \x60s'"
  | printsTwice => "multiple \x60p' options to \x60s' command"
  | globalTwice => "multiple \x60g' options to \x60s' command"
  | numberedTwice => "multiple number options to \x60s' command"
  | numberZero => "number option to \x60s' command may not be zero"
  | flagsWithoutExpression => "cannot specify modifiers on empty regexp"
  | noExpression => "no previous regular expression"
  | noGroup n => "invalid reference \\" ++ toString n ++ " on \x60s' command's RHS"
  | newerWanted => "expected newer version of sed"
  | badExpression message => message

/-- The label that a command jumps to, if it jumps. -/
def Action.target? : Action → Option String
  | jump name => if name.isEmpty then none else some name
  | jumpIf _ name => if name.isEmpty then none else some name
  | _ => none

/-- Where a label is in the list. -/
def Program.find? (p : Program) (name : String) : Option Nat :=
  p.commands.findIdx? fun c => c.action = .label name

/-- A label that is jumped to and is nowhere. -/
def Program.lost? (p : Program) : Option String :=
  p.commands.toList.findSome? fun c => c.action.target?.bind fun name =>
    if (p.find? name).isNone then some name else none

end LoweringAudit.Shell.Editor
