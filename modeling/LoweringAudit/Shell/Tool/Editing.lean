import LoweringAudit.Shell.Editor.Parse
import LoweringAudit.Shell.Editor.Run
import LoweringAudit.Shell.Tool.Basic
/-!
The line editor as a program. Its script is an argument, or comes from flags; all other arguments
are files, which are read one after the other.
-/
namespace LoweringAudit.Shell.Tool

open Act
open Editor (Line Origin Outlet)

/-- Says what is wrong and gives a status. -/
def stop (caller message : String) (status : Nat) : Act Nat := do
  let _ ← blame caller message
  return status

/-- The pieces of a script that flags give, in order; a file of them may be missing. -/
def scriptPieces (flags : List (Char × String)) :
    Act (Except (String × Fault) (List (Origin × List Char))) := do
  let mut pieces := []
  let mut count := 0
  for (c, value) in flags do
    if c = 'e' then
      count := count + 1
      pieces := pieces ++ [(Origin.argument count, value.toList)]
    else if c = 'f' then
      match ← fileOrInput value with
      | .ok text => pieces := pieces ++ [(Origin.file value, text)]
      | .error f => return .error (value, f)
  return .ok pieces

/-- The lines of a text without their ends, each with whether it has one. -/
def linesEnding (delimiter : Char) (text : List Char) : List Line :=
  let all := text.splitOn delimiter
  all.dropLast.map (⟨·, true⟩) ++
    match all.getLast? with
    | some (c :: rest) => [⟨c :: rest, false⟩]
    | _ => []

/-- The lines of files. A file that is missing is told of; at a directory reading ends. -/
def editedLines (caller : String) (delimiter : Char) (inPlace : Bool) (paths : List String) :
    Act (List Editor.Item × Nat × Option String) := do
  let mut items := []
  let mut status := 0
  for (path, i) in paths.zipIdx do
    match ← fileOrInput path with
    | .ok text => items := items ++ (linesEnding delimiter text).map fun l => Editor.Item.mk l i path
    | .error .isDirectory =>
      if inPlace then
        status ← stop caller ("couldn't edit " ++ path ++ ": not a regular file") 4
      else
        return (items, status, some ("read error on " ++ path ++ ": Is a directory"))
    | .error f => status ← stop caller ("can't read " ++ path ++ ": " ++ f.reason.1) 2
  return (items, status, none)

/-- The files that commands write. -/
def writtenFiles (p : Editor.Program) : List String :=
  p.commands.toList.filterMap fun c =>
    match c.action with
    | .write (.file path) => some path
    | .writeFirst (.file path) => some path
    | .substitute ⟨_, _, _, _, _, some (.file path)⟩ => some path
    | _ => none

/-- The files of which commands put something in. -/
def readFilesOf (p : Editor.Program) : List String :=
  p.commands.toList.filterMap fun c =>
    match c.action with
    | .appendFile path => some path
    | .appendLine path => some path
    | _ => none

/-- Writes a file anew. -/
def rewrite (path : String) (text : List Char) : Act (Option Fault) := do
  match ← openToWrite path true false false with
  | .error f => return some f
  | .ok stream =>
    modifySession fun s => { s with descriptors := (1000, stream) :: s.descriptors }
    let _ ← write 1000 text
    modifySession fun s => { s with descriptors := s.descriptors.filter (·.1 != 1000) }
    return none

/-- What has been written at some outlets. -/
def writtenAt (os : List Outlet) (e : Editor.Editing) : List Char :=
  (e.written.reverse.filter fun (o, _) => os.contains o).flatMap (·.2)

/-- Runs a program over files and writes what comes of it. What goes aside is there before what is
shown, which waits for the end. -/
def edit (caller : String) (c : Editor.Setting) (p : Editor.Program) (scripts : Nat)
    (paths : List String) : Act Nat := do
  for path in writtenFiles p do
    match ← rewrite path [] with
    | some f => return ← stop caller ("couldn't open file " ++ path ++ ": " ++ f.reason.1) 4
    | none => pure ()
  let mut texts := []
  for path in readFilesOf p do
    match ← fileOrInput path with
    | .ok text => texts := (path, text) :: texts
    | .error _ => pure ()
  let (items, status, broken) ← editedLines caller c.delimiter c.inPlace paths
  let known := texts
  let (result, e) := Editor.run { c with files := fun path => (known.lookup path).getD [] } p items
  sayAside (String.ofList (writtenAt [.aside] e))
  let outputs := writtenFiles p ++ if c.inPlace then items.map (·.name) else []
  for path in outputs.eraseDups do
    let _ ← rewrite path (writtenAt [.file path] e)
  let status ← emit caller (writtenAt [.shown, .output] e) status
  match result, broken with
  | .error f, _ =>
    stop caller ("-e expression #" ++ toString scripts ++ ", char 0: " ++ f.message) 1
  | .ok 0, some message => stop caller message 4
  | .ok 0, none => return status
  | .ok n, _ => return n

def editLines : Tool :=
  withFlags
    { letters := "bsniEre:f:l:uz",
      long := [("expression", 'e'), ("file", 'f'), ("quiet", 'n'), ("silent", 'n'),
        ("regexp-extended", 'E'), ("separate", 's'), ("in-place", 'i'), ("line-length", 'l'),
        ("null-data", 'z'), ("unbuffered", 'u'), ("posix", 'b')] }
    fun caller chosen operands => do
      let isScript (flag : Char × String) : Bool := flag.1 == 'e' || flag.1 == 'f'
      let flags := chosen.flags.reverse.filter isScript
      match flags, operands with
      | [], [] =>
        sayAside ("Usage: " ++ caller ++
          " [OPTION]... {script-only-if-no-other-script} [input-file]...\n")
        return 1
      | flags, operands =>
        let (flags, paths) := match flags, operands with
          | [], script :: rest => ([('e', script)], rest)
          | flags, rest => (flags, rest)
        match ← scriptPieces flags with
        | .error (path, f) =>
          stop caller ("couldn't open file " ++ path ++ ": " ++ f.reason.1) 4
        | .ok pieces =>
          match Editor.read (chosen.has 'E' || chosen.has 'r') (!chosen.has 'z') pieces with
          | .error (f, mark) => stop caller (mark.label ++ ": " ++ f.message) 1
          | .ok p =>
            match p.lost? with
            | some name => stop caller ("can't find label for jump to \x60" ++ name ++ "'") 4
            | none =>
              let c : Editor.Setting :=
                { isQuiet := chosen.has 'n'
                  separates := chosen.has 's' || chosen.has 'i'
                  inPlace := chosen.has 'i'
                  delimiter := if chosen.has 'z' then '\x00' else '\n'
                  width := ((chosen.value? 'l').bind fun n => n.toNat?).getD 70 }
              edit caller c p (flags.filter (·.1 == 'e')).length
                (if paths.isEmpty then ["-"] else paths)

end LoweringAudit.Shell.Tool
