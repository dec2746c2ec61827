import LoweringAudit.Shell.State
/-!
Utilities of the shell. A utility takes arguments, changes the state and gives a status. Here is
what they have in common: how they write, how they read options and numbers.
-/
namespace LoweringAudit.Shell

abbrev Utility := List String → Act Nat

open Act

/-- Writes to the output. -/
def say (text : String) : Act Nat := do
  if text = "" then return 0
  if ← write 1 text.toList then return 0
  complain ((← session).speaker.getD "" ++ ": I/O error")
  return 1

/-- Writes to the error stream without a name before it. -/
def sayAside (text : String) : Act Unit := do
  let _ ← write 2 text.toList

/-- The options that letters stand for, a colon after those that have an argument, and the other
arguments. -/
def takeOptions (letters : List Char) :
    Nat → List String → Act (List (Char × String) × List String)
  | 0, arguments => return ([], arguments)
  | bound + 1, arguments => do
    match arguments with
    | [] => return ([], [])
    | first :: rest =>
      match first.toList with
      | ['-', '-'] => return ([], rest)
      | '-' :: c :: more => do
        let (found, rest) ← cluster (c :: more) rest
        let (others, rest) ← takeOptions letters bound rest
        return (found ++ others, rest)
      | _ => return ([], first :: rest)
where
  /-- The options that one argument has. -/
  cluster : List Char → List String → Act (List (Char × String) × List String)
    | [], rest => return ([], rest)
    | c :: more, rest => do
      if c = ':' ∨ c ∉ letters then fail ("Illegal option -" ++ String.singleton c) 2
      if (letters.dropWhile (· != c)).tail.head? = some ':' then
        match more, rest with
        | [], [] => fail ("No arg for -" ++ String.singleton c ++ " option") 2
        | [], value :: rest => return ([(c, value)], rest)
        | more, rest => return ([(c, String.ofList more)], rest)
      else
        let (found, rest) ← cluster more rest
        return ((c, "") :: found, rest)

/-- The options of a utility and its other arguments. -/
def optionsOf (letters : String) (arguments : List String) :
    Act (List (Char × String) × List String) :=
  takeOptions letters.toList (arguments.length + 1) arguments

/-- A number to count by. -/
def countOf (s : String) : Act Nat := do
  match countNumber? s.toList with
  | some n => return n
  | none => fail ("Illegal number: " ++ s) 2

/-- A value between quotes that the shell reads back. -/
def quotedValue (s : String) : String :=
  "'" ++ "'\"'\"'".intercalate ((s.toList.splitOn '\'').map String.ofList) ++ "'"

/-- The name before an equals sign, and the value after it if there is one. -/
def nameAndValue (s : String) : String × Option String :=
  let name := s.toList.takeWhile (· != '=')
  match s.toList.drop name.length with
  | [] => (s, none)
  | _ :: value => (String.ofList name, some (String.ofList value))

/-- Fails unless a text can name a variable. -/
def demandName (name : String) : Act Unit := do
  if !isName name.toList then fail (name ++ ": bad variable name") 2

end LoweringAudit.Shell
