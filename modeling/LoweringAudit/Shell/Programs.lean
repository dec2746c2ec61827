import LoweringAudit.Engine.Command
import LoweringAudit.Shell.Run
import LoweringAudit.Shell.Tool.Columns
import LoweringAudit.Shell.Tool.Editing
import LoweringAudit.Shell.Tool.Letters
import LoweringAudit.Shell.Tool.Order
import LoweringAudit.Shell.Tool.Paths
import LoweringAudit.Shell.Tool.Reckoning
import LoweringAudit.Shell.Tool.Search
import LoweringAudit.Shell.Tool.Sequence
import LoweringAudit.Shell.Tool.Text
/-!
The programs that an engine can run: the shell, and those that are beside it in every system. They
are functions from arguments to how they end; no process is started. Other names name nothing, and a
file of the working tree is never executable.
-/
namespace LoweringAudit.Shell

open Act

/-- How a shell has been asked to run. -/
structure Invocation where
  /-- The script is an argument. -/
  isText : Bool := false
  arguments : List String

/-- The letters of one argument of a shell; a letter may take the next argument. -/
def invocationLetters (isOn : Bool) : List Char → Invocation → Act Invocation
  | [], i => return i
  | 'c' :: more, i => invocationLetters isOn more { i with isText := true }
  | 'l' :: more, i => invocationLetters isOn more i
  | 'o' :: more, i => do
    let rest ← applyLetters isOn ['o'] i.arguments
    invocationLetters isOn more { i with arguments := rest }
  | c :: more, i => do
    setLetter c isOn
    invocationLetters isOn more i

/-- Reads the options of a shell. -/
def readInvocation : Nat → Invocation → Act Invocation
  | 0, i => return i
  | bound + 1, i => do
    match i.arguments with
    | [] => return i
    | first :: rest =>
      match first.toList with
      | ['-'] => return { i with arguments := rest }
      | ['-', '-'] => return { i with arguments := rest }
      | '-' :: letters =>
        readInvocation bound (← invocationLetters true letters { i with arguments := rest })
      | '+' :: letters =>
        readInvocation bound (← invocationLetters false letters { i with arguments := rest })
      | _ => return i

/-- The variables that a shell starts with beside those that it is given. -/
def startingVariables (s : Session) : Variables :=
  let own : Variables :=
    [("IFS", ⟨some " \t\n", false, false⟩), ("OPTIND", ⟨some "1", false, false⟩),
      ("PPID", ⟨some "1", false, false⟩), ("PS1", ⟨some "# ", false, false⟩),
      ("PS2", ⟨some "> ", false, false⟩), ("PS4", ⟨some "+ ", false, false⟩),
      ("PWD", ⟨some (pathOf s.directory), true, false⟩)]
  own ++ s.bindings.filter fun (name, _) => (own.lookup name).isNone

/-- The script that a shell is asked to run, with its name and arguments set. -/
def scriptText (i : Invocation) : Act (List Char) := do
  let isFromInput := (← session).isOn "stdin"
  match i.isText, i.arguments with
  | true, [] => fail "-c requires an argument" 2
  | true, [text] => do
    modifySession fun s => { s with arguments := [] }
    return text.toList
  | true, text :: name :: rest => do
    modifySession fun s => { s with name := name, arguments := rest }
    return text.toList
  | false, [] =>
    setOption "stdin" true
    modifySession fun s => { s with arguments := [] }
    Tool.readAll 0
  | false, file :: rest =>
    if isFromInput then
      modifySession fun s => { s with arguments := file :: rest }
      Tool.readAll 0
    else
      match (← get).resolve file with
      | .error f => fail (cannotOpen false file f) 2
      | .ok place =>
        let text ← fileText place
        modifySession fun s => { s with name := file, arguments := rest }
        return text

/-- The shell as a program. -/
def shell (run : Runner) : Tool := fun caller arguments => do
  modifySession fun s =>
    { s with name := caller, line := 0, bindings := startingVariables s, lastStatus := 0 }
  let r ← outcome do
    let i ← readInvocation (arguments.length + 1) { arguments := arguments }
    let text ← scriptText i
    modifySession fun s => { s with line := 1 }
    runLines run false (text.length + 2) { rest := text }
  runLast run (← statusOf r)

/-- Runs a program with variables set, or shows the variables. -/
def withEnvironment (run : Runner) (others : String → Option Tool) : Tool :=
  fun caller arguments => do
    let isSetting (a : String) : Bool := a.toList.contains '='
    let arguments ← match arguments with
      | "-i" :: rest =>
        modifySession fun s => { s with bindings := [] }
        pure rest
      | arguments => pure arguments
    for a in arguments.takeWhile isSetting do
      let (name, value) := nameAndValue a
      modifySession fun s => s.put name (some ⟨value, true, false⟩)
    match arguments.dropWhile isSetting with
    | [] =>
      let shown := (Tool.environment (← session)).map fun (name, value) =>
        name ++ "=" ++ value ++ "\n"
      Tool.emit caller (String.join shown).toList 0
    | name :: rest =>
      match (← get).search name, if name = "sh" then some (shell run) else others name with
      | .found _, some tool => start tool name rest
      | _, _ =>
        let _ ← Tool.blame caller ("'" ++ name ++ "': No such file or directory")
        return 127

/-- The programs that run no others, by name. -/
def plainTools : List (String × Tool) :=
  [("true", Tool.succeed 0), ("false", Tool.succeed 1), ("echo", Tool.echo),
    ("printf", Tool.printf), ("test", Tool.test false), ("[", Tool.test true),
    ("sleep", Tool.sleep), ("pwd", Tool.directory), ("cat", Tool.cat), ("tac", Tool.tac),
    ("rev", Tool.rev), ("tee", Tool.tee), ("head", Tool.partly '-' Tool.firstPart),
    ("tail", Tool.partly '+' Tool.lastPart), ("wc", Tool.countText), ("uniq", Tool.unique),
    ("tr", Tool.translate), ("cut", Tool.cutColumns), ("sort", Tool.sortLines),
    ("basename", Tool.baseName), ("dirname", Tool.directoryName), ("seq", Tool.sequence),
    ("expr", Tool.reckon), ("grep", Tool.searchLines []), ("egrep", Tool.searchLines ['E']),
    ("fgrep", Tool.searchLines ['F']), ("sed", Tool.editLines), ("printenv", Tool.showVariables),
    ("whoami", Tool.constant "root\n"), ("uname", Tool.constant "Linux\n")]

def plainTool? (name : String) : Option Tool :=
  plainTools.lookup name

def toolNames : List String :=
  ["sh", "env"] ++ plainTools.map (·.1)

/-- The program of a name. -/
def tools : Tools := fun run name =>
  if name = "sh" then some (shell run)
  else if name = "env" then some (withEnvironment run plainTool?)
  else plainTool? name

def runner : Runner :=
  runCommand tools maxNesting

/-- The state in which a program starts: it has nothing to read, and what it writes is kept. -/
def startingState (t : FileTree) : State where
  world :=
    { streams := #[.void, .sink [], .sink []]
      tree := furnish toolNames t
      nextProcess := 3 }
  session :=
    { name := ""
      arguments := []
      bindings :=
        [("HOME", ⟨some "/root", true, false⟩),
          ("PATH", ⟨some "/usr/local/sbin:/usr/local/bin:/usr/sbin:/usr/bin:/sbin:/bin", true,
            false⟩)]
      descriptors := [(0, 0), (1, 1), (2, 2)]
      directory := t.workingDirectory
      process := 2 }

/-- The name of a signal in full, if it has one. -/
def fullSignalName (n : Nat) : String :=
  match if n < 32 then signalNames.lookup n else none with
  | some name => "SIG" ++ name
  | none => if n = 16 then "SIGSTKFLT" else ""

/-- How something that has been run ended. -/
def exitStatusOf : Except Stop Nat → ExitStatus
  | .ok n => .code (n % 256)
  | .error (.exit n) => .code (n % 256)
  | .error (.fault n) => .code (n % 256)
  | .error (.comeBack n) => .code (n % 256)
  | .error (.leave ..) => .code 0
  | .error (.killed n) => .signal n (fullSignalName n)

def written (s : State) (n : Nat) : List UInt8 :=
  match s.world.streams[n]? with
  | some stream => toOctets stream.written
  | none => []

/-- Runs a program to its end. -/
def runTool (t : FileTree) (tool : Tool) (name : String) (arguments : List String) : Exit :=
  let (r, s) := ((tool name arguments).run).run (startingState t)
  ⟨exitStatusOf r, written s 1, written s 2⟩

/-- The program that a name stands for, or why it cannot be started. -/
def spawn (t : FileTree) (name : String) : Except Fault Tool :=
  let s := startingState t
  let last := ((FileTree.bareNames name).getLast?).getD ""
  match if name.toList.contains '/' then s.resolve (inside name)
    else if name = "" then .error .notFound
    else if 255 < name.utf8ByteSize then .error .nameTooLong
    else
      match s.search (inside name) with
      | .found path => s.resolve path
      | .denied => .error .permissionDenied
      | .missing => .error .notFound with
  | .error cause => .error cause
  | .ok location =>
    match if isProgram location then tools runner last else none with
    | some tool => .ok tool
    | none => .error .permissionDenied

/-- How many octets one argument of a program may have, and how many all of them. -/
def maxArgument : Nat := 0x1FFFF
def maxArguments : Nat := 0x200000

/-- Whether a program can be handed these arguments. A word takes an octet for its end, and room for
its address. -/
def canTake (arguments : List String) : Bool :=
  arguments.all (fun a => decide (a.utf8ByteSize ≤ maxArgument)) &&
    decide (arguments.foldl (fun size a => size + (a.utf8ByteSize + 9)) 0 ≤ maxArguments)

/-- The programs there are, beside the files of a tree. -/
def programs (t : FileTree) : Programs := fun name arguments =>
  if (name :: arguments).any (·.toList.contains '\x00') then .error .nulInArgument
  else
    match spawn t name with
    | .error cause => .error cause
    | .ok tool =>
      if canTake (name :: arguments) then .ok (runTool t tool (inside name) (arguments.map inside))
      else .error .tooManyArguments

end LoweringAudit.Shell
