import LoweringAudit.Shell.Place
import LoweringAudit.Shell.Script
import LoweringAudit.Shell.Utility.Basic
/-!
Utilities on what is around a shell: its directory, limits, and what names stand for.
-/
namespace LoweringAudit.Shell

open Act

/-- The path of a place. -/
def pathOf (location : Location) : String :=
  "/" ++ "/".intercalate (location.map inside)

/-- The directory of a path. -/
def State.directory? (s : State) (path : String) : Option Location :=
  match s.resolve path with
  | .ok location => if s.world.tree.get? location = some .directory then some location else none
  | .error _ => none

/-- The directories that a variable lists, with colons between them. -/
def listed (s : Session) (name : String) : List String :=
  match s.value? name with
  | some text => (text.toList.splitOn ':').map String.ofList
  | none => []

/-- A name in a directory that is listed; one without a name is the directory of the shell. -/
def inDirectory (directory name : String) : String :=
  if directory = "" then name
  else if directory.toList.getLast? = some '/' then directory ++ name
  else directory ++ "/" ++ name

/-- Whether a path is taken as it is, without a search. -/
def isPlain (path : String) : Bool :=
  match path.toList.takeWhile (· != '/') with
  | [] => path ≠ ""
  | first => first = ['.'] ∨ first = ['.', '.']

def changeDirectory : Utility := fun arguments => do
  let (_, arguments) ← optionsOf "LP" arguments
  let s ← get
  let (target, shows) := match arguments with
    | [] => ((s.session.value? "HOME").getD "", false)
    | "-" :: _ => ((s.session.value? "OLDPWD").getD "", true)
    | path :: _ => (path, false)
  let path := if target = "" then "." else target
  let found := if isPlain path then none
    else (listed s.session "CDPATH").findSome? fun d =>
      (s.directory? (inDirectory d path)).map fun place => (place, d != "")
  match found.or ((s.directory? path).map fun place => (place, false)) with
  | none => fail ("can't cd to " ++ target) 2
  | some (place, isListed) =>
    let before := pathOf s.session.directory
    modifySession fun s => { s with directory := place }
    for (name, value) in [("OLDPWD", before), ("PWD", pathOf place)] do
      assign name value
      modifySession fun s =>
        s.put name ((s.get? name).map fun v => { v with isExported := true })
    if shows || isListed then say (pathOf place ++ "\n") else return 0

def showDirectory : Utility := fun arguments => do
  let _ ← optionsOf "LP" arguments
  say (pathOf (← session).directory ++ "\n")

/-- Nothing is limited. -/
def showLimits : Utility := fun arguments => do
  let (options, arguments) ← optionsOf "HSatfdscmlpnvwr" arguments
  if arguments.isEmpty ∧ ¬ options.any (·.1 == 'a') then say "unlimited\n" else return 0

/-- No time has passed. -/
def showTimes : Utility := fun _ =>
  say "0m0.000000s 0m0.000000s\n0m0.000000s 0m0.000000s\n"

def noJob : Utility := fun _ => fail "No current job" 2

/-! Names of commands -/

/-- The utilities that are built in, beside the special ones. -/
def ordinaryUtilities : List String :=
  ["[", "alias", "bg", "cd", "chdir", "command", "echo", "false", "fg", "getopts", "hash", "jobs",
    "kill", "printf", "pwd", "read", "test", "true", "type", "ulimit", "umask", "unalias", "wait"]

def isUtility (name : String) : Bool :=
  name ∈ specialUtilities || name ∈ ordinaryUtilities

/-- Where a program is. -/
inductive Search where
  | found (path : String)
  | missing
  /-- Something is there that cannot be run. -/
  | denied
  deriving DecidableEq, Repr

/-- What is at a path, to be run. -/
def State.program (s : State) (path : String) : Search :=
  match s.resolve path with
  | .error .permissionDenied => .denied
  | .error _ => .missing
  | .ok location => if isProgram location then .found path else .denied

/-- Looks for a program in the directories that are listed. -/
def State.search (s : State) (name : String) : Search :=
  match s.session.found.lookup name with
  | some path => .found path
  | none =>
    let found := (listed s.session "PATH").map fun d => s.program (inDirectory d name)
    match found.find? fun
      | .found _ => true
      | _ => false with
    | some f => f
    | none => if found.contains .denied then .denied else .missing

/-- Looks for a program and keeps where it was found. -/
def searchAndKeep (name : String) : Act Search := do
  let result := (← get).search name
  match result with
  | .found path =>
    modifySession fun s =>
      if s.found.any (·.1 == name) then s else { s with found := (name, path) :: s.found }
  | _ => pure ()
  return result

/-- What a name stands for where a command begins. -/
inductive Meaning where
  | keyword
  | shorthand (value : String)
  | function
  | utility (isSpecial : Bool)
  | program (path : String)
  /-- A program that has been looked for before. -/
  | knownProgram (path : String)
  | nothing
  deriving DecidableEq, Repr

def State.meaning (s : State) (name : String) : Meaning :=
  if name ∈ keywords then .keyword
  else
    match s.session.aliases.lookup name with
    | some value => .shorthand value
    | none =>
      if s.session.functions.any (·.1 == name) then .function
      else if isUtility name then .utility (name ∈ specialUtilities)
      else if name.toList.contains '/' then
        match s.resolve name with
        | .ok _ => .program name
        | .error _ => .nothing
      else
        match s.session.found.lookup name, s.search name with
        | some path, _ => .knownProgram path
        | none, .found path => .program path
        | none, _ => .nothing

/-- What is said of a name at length. -/
def Meaning.description (name : String) : Meaning → String
  | keyword => name ++ " is a shell keyword"
  | shorthand value => name ++ " is an alias for " ++ value
  | function => name ++ " is a shell function"
  | utility true => name ++ " is a special shell builtin"
  | utility false => name ++ " is a shell builtin"
  | program path => name ++ " is " ++ path
  | knownProgram path => name ++ " is a tracked alias for " ++ path
  | nothing => name ++ ": not found"

/-- What is said of a name in short. -/
def Meaning.summary? (name : String) : Meaning → Option String
  | shorthand value => some ("alias " ++ name ++ "=" ++ quotedValue value)
  | program path => some path
  | knownProgram path => some path
  | nothing => none
  | _ => some name

def describeAll : Utility := fun names => do
  let s ← get
  let found := names.map fun name => (name, s.meaning name)
  let status ← say (String.join (found.map fun (name, m) => m.description name ++ "\n"))
  return if found.any (·.2 == .nothing) then 127 else status

/-- Says in short or at length what a name stands for. -/
def describe (isLong : Bool) (name : String) : Act Nat := do
  let m := (← get).meaning name
  let status ← match if isLong then some (m.description name) else m.summary? name with
    | some text => say (text ++ "\n")
    | none => pure 0
  return if m = .nothing then 127 else status

/-- Looks programs up and keeps where they are, or shows what is kept. -/
def lookUp : Utility := fun arguments => do
  let (options, names) ← optionsOf "rv" arguments
  if options.any (·.1 == 'r') then
    modifySession fun s => { s with found := [] }
    return 0
  if names.isEmpty then
    return ← say (String.join ((← session).found.reverse.map fun (_, path) => path ++ "\n"))
  let mut status := 0
  for name in names do
    let m := (← get).meaning name
    if m = .nothing then
      complain (name ++ ": not found")
      status := 1
    else if !isUtility name then
      let _ ← searchAndKeep name
  return status

def setAliases : Utility := fun arguments => do
  let s ← session
  let shown (name value : String) : String := name ++ "=" ++ quotedValue value ++ "\n"
  if arguments.isEmpty then
    let all := s.aliases.mergeSort fun a b => decide (a.1 ≤ b.1)
    say (String.join (all.map fun (name, value) => shown name value))
  else
    let mut status := 0
    for a in arguments do
      match nameAndValue a with
      | (name, some value) =>
        modifySession fun s =>
          { s with aliases := (name, value) :: s.aliases.filter (·.1 != name) }
      | (name, none) =>
        match (← session).aliases.lookup name with
        | some value => status := max status (← say (shown name value))
        | none =>
          sayAside ("alias: " ++ name ++ " not found\n")
          status := 1
    return status

def dropAliases : Utility := fun arguments => do
  let (options, names) ← optionsOf "a" arguments
  if !options.isEmpty then
    modifySession fun s => { s with aliases := [] }
    return 0
  let mut status := 0
  for name in names do
    if ((← session).aliases.lookup name).isNone then
      sayAside ("unalias: " ++ name ++ " not found\n")
      status := 1
    modifySession fun s => { s with aliases := s.aliases.filter (·.1 != name) }
  return status

end LoweringAudit.Shell
