import LoweringAudit.Shell.Place
import LoweringAudit.Shell.Printf
import LoweringAudit.Shell.Utility.Signals
import LoweringAudit.Shell.Utility.Surroundings
/-!
Programs beside the shell. A program is told the name by which it was called, takes arguments, reads
and writes descriptors and gives a status. Here is what programs have in common, and the smallest of
them.
-/
namespace LoweringAudit.Shell

abbrev Tool := String → Utility

namespace Tool

open Act

/-- Says what is wrong after the name of the program; the status is one. -/
def blame (caller message : String) : Act Nat := do
  sayAside (caller ++ ": " ++ message ++ "\n")
  return 1

/-- Says what is wrong and where help is. -/
def refuse (caller message : String) : Act Nat :=
  blame caller (message ++ "\nTry '" ++ caller ++ " --help' for more information.")

/-- Writes to the output; the status is that of the program unless nothing can be written. -/
def emit (caller : String) (text : List Char) (status : Nat) : Act Nat := do
  if text.isEmpty then return status
  if ← write 1 text then return status
  match ← stream? 1 with
  | some (_, .full) => blame caller "write error: No space left on device"
  | _ => blame caller "write error: Bad file descriptor"

/-- What a program reads at a descriptor. -/
def readAll (descriptor : Nat) : Act (List Char) := do
  let text ← unread descriptor
  consume descriptor text.length
  return text

/-- The text of a file, or of the input for a dash. -/
def fileOrInput (path : String) : Act (Except Fault (List Char)) := do
  if path = "-" then
    match ← stream? 0 with
    | none => return .error (.other "Bad file descriptor")
    | some (_, .file location _ _) =>
      if (← get).world.tree.get? location = some .directory then return .error .isDirectory
      return .ok (← readAll 0)
    | some _ => return .ok (← readAll 0)
  else
    match (← get).resolve path with
    | .error f => return .error f
    | .ok location =>
      match (← get).world.tree.get? location with
      | some (.device (.descriptor n)) => return .ok (← readAll n)
      | some (.device .terminal) => return .error .noDevice
      | some (.device _) => return .ok []
      | some .directory => return .error .isDirectory
      | _ => return .ok (← fileText location)

/-- The texts of files, or of the input if there are none, by name; files that cannot be read are
told of. -/
def readFiles (caller : String) (paths : List String) : Act (List (String × List Char) × Nat) := do
  let mut texts := []
  let mut status := 0
  for path in if paths.isEmpty then ["-"] else paths do
    match ← fileOrInput path with
    | .ok text => texts := texts ++ [(path, text)]
    | .error f =>
      status ← blame caller (path ++ ": " ++ f.reason.1)
  return (texts, status)

/-- What the flags of a program can be: letters, with a colon after those that have a value, and
long names for letters. -/
structure Flags where
  letters : String
  long : List (String × Char) := []

/-- Whether a letter stands for a flag, and whether that has a value. -/
def Flags.kind? (f : Flags) (c : Char) : Option Bool :=
  if c = ':' then none
  else
    match f.letters.toList.dropWhile (· != c) with
    | [] => none
    | _ :: rest => some (rest.head? == some ':')

/-- Flags that have been read, latest first, and the operands among them, latest first. -/
structure Chosen where
  flags : List (Char × String) := []
  operands : List String := []

def Chosen.has (c : Chosen) (flag : Char) : Bool :=
  c.flags.any (·.1 == flag)

/-- The last value of a flag. -/
def Chosen.value? (c : Chosen) (flag : Char) : Option String :=
  (c.flags.find? (·.1 == flag)).map (·.2)

/-- The long flag that a name is the start of. -/
def Flags.named (f : Flags) (name : String) : Except String (String × Char) :=
  match f.long.find? (·.1 == name) with
  | some found => .ok found
  | none =>
    match f.long.filter fun (full, _) => name.toList.isPrefixOf full.toList with
    | [found] => .ok found
    | [] => .error ("unrecognized option '--" ++ name ++ "'")
    | several => .error ("option '--" ++ name ++ "' is ambiguous; possibilities:" ++
        String.join (several.map fun (full, _) => " '--" ++ full ++ "'"))

/-- A long flag, with its value after an equals sign or in the next argument. -/
def Flags.readLong (f : Flags) (text : String) (rest : List String) :
    Except String ((Char × String) × List String) := do
  let (name, value) := nameAndValue text
  let (full, c) ← f.named name
  match value, f.kind? c == some true, rest with
  | some value, true, rest => return ((c, value), rest)
  | some _, false, _ => throw ("option '--" ++ full ++ "' doesn't allow an argument")
  | none, false, rest => return ((c, ""), rest)
  | none, true, value :: rest => return ((c, value), rest)
  | none, true, [] => throw ("option '--" ++ full ++ "' requires an argument")

/-- The flags of one argument. -/
def Flags.readShort (f : Flags) : List Char → List String →
    Except String (List (Char × String) × List String)
  | [], rest => return ([], rest)
  | c :: more, rest => do
    match f.kind? c with
    | none => throw ("invalid option -- '" ++ String.singleton c ++ "'")
    | some false =>
      let (others, rest) ← f.readShort more rest
      return ((c, "") :: others, rest)
    | some true =>
      match more, rest with
      | [], [] => throw ("option requires an argument -- '" ++ String.singleton c ++ "'")
      | [], value :: rest => return ([(c, value)], rest)
      | more, rest => return ([(c, String.ofList more)], rest)

/-- Reads flags, wherever they stand among the operands. -/
def Flags.read (f : Flags) : Nat → List String → Chosen → Except String Chosen
  | 0, _, chosen => return chosen
  | _, [], chosen => return chosen
  | bound + 1, a :: rest, chosen => do
    match a.toList with
    | ['-', '-'] => return { chosen with operands := rest.reverse ++ chosen.operands }
    | '-' :: '-' :: name =>
      let (flag, rest) ← f.readLong (String.ofList name) rest
      f.read bound rest { chosen with flags := flag :: chosen.flags }
    | '-' :: c :: more =>
      let (flags, rest) ← f.readShort (c :: more) rest
      f.read bound rest { chosen with flags := flags.reverse ++ chosen.flags }
    | _ => f.read bound rest { chosen with operands := a :: chosen.operands }

/-- Reads the flags of a program and goes on with them and the operands. -/
def withFlags (f : Flags) (goOn : String → Chosen → List String → Act Nat) : Tool :=
  fun caller arguments =>
    match f.read (arguments.length + 1) arguments {} with
    | .error message => refuse caller message
    | .ok chosen => goOn caller chosen chosen.operands.reverse

/-- The lines of a text without their ends. What stands after the last end is a line if there is
anything. -/
def lines (text : List Char) : List (List Char) :=
  let all := text.splitOn '\n'
  if all.getLast? = some [] then all.dropLast else all

def unlines (all : List (List Char)) : List Char :=
  all.flatMap (· ++ ['\n'])

/-! The smallest programs -/

def succeed (status : Nat) : Tool := fun _ _ => return status

/-- Writes its arguments; escapes count only if they are asked for. -/
def echo : Tool := fun caller arguments => do
  let isFlag (a : String) : Bool :=
    match a.toList with
    | '-' :: c :: more => (c :: more).all (· ∈ ['n', 'e', 'E'])
    | _ => false
  let flags := (arguments.takeWhile isFlag).flatMap fun a => a.toList.tail
  let text := (" ".intercalate (arguments.dropWhile isFlag)).toList
  let escapes := (flags.filter (· != 'n')).getLast? == some 'e'
  let w := if escapes then (Escapes.mk true true true).written text else ⟨text, none⟩
  emit caller (w.text ++ if flags.contains 'n' || w.halt.isSome then [] else ['\n']) 0

/-- What `printf` says comes where it arises. -/
def printf : Tool := fun caller arguments => do
  match if arguments.head? = some "--" then arguments.tail else arguments with
  | [] => refuse caller "missing operand"
  | form :: rest =>
    let p := Printf.program.run form rest
    let mut status := p.status
    for u in p.uttered.reverse do
      match u with
      | .text s => status ← emit caller s status
      | .complaint m => let _ ← blame caller m
    return status

def test (isBracketed : Bool) : Tool := fun caller arguments => do
  let words := if isBracketed then arguments.dropLast else arguments
  if isBracketed ∧ arguments.getLast? ≠ some "]" then
    let _ ← blame caller "missing ']'"
    return 2
  match Test.answer (← get).fileFacts words with
  | .ok true => return 0
  | .ok false => return 1
  | .error f =>
    let _ ← blame caller f.message
    return 2

def sleep : Tool := fun caller arguments => do
  if arguments.isEmpty then refuse caller "missing operand"
  else
    let isInterval (a : String) : Bool :=
      match Floating.read? .extended a.toList with
      | some r => !r.number.isNegative && r.rest ∈ [[], ['s'], ['m'], ['h'], ['d']]
      | none => false
    match arguments.filter (!isInterval ·) with
    | [] => return 0
    | bad =>
      refuse caller ("\n".intercalate ((bad.zipIdx).map fun (a, i) =>
        (if i = 0 then "" else caller ++ ": ") ++ "invalid time interval " ++ quotedText a))

/-- The directory, for a program that shows it. -/
def directory : Tool := fun caller _ => do
  emit caller (pathOf (← session).directory ++ "\n").toList 0

/-- The variables that programs are given, latest last. -/
def environment (s : Session) : List (String × String) :=
  s.bindings.reverse.filterMap fun (name, v) =>
    match v with
    | ⟨some value, true, _⟩ => some (name, value)
    | _ => none

/-- Shows the values of variables, or all of them with their names. -/
def showVariables : Tool := fun caller arguments => do
  let all := environment (← session)
  if arguments.isEmpty then
    emit caller (String.join (all.map fun (name, value) => name ++ "=" ++ value ++ "\n")).toList 0
  else
    let found := arguments.filterMap fun name => all.lookup name
    emit caller (String.join (found.map (· ++ "\n"))).toList
      (if found.length = arguments.length then 0 else 1)

/-- Writes the same whatever its arguments are. -/
def constant (text : String) : Tool := fun caller _ => emit caller text.toList 0

end Tool

end LoweringAudit.Shell
