import LoweringAudit.Files.Tree
import LoweringAudit.Shell.Number
import LoweringAudit.Shell.Source
/-!
The state in which a shell runs. A part of it is the shell's own and is lost when the shell ends:
variables, functions, options, descriptors. The other part is the world it shares with the shells
that it starts: files and streams. What a shell does changes the state, and may stop what goes on
around it.
-/
namespace LoweringAudit.Shell

/-- What a descriptor stands for. -/
inductive Stream where
  /-- Takes what is written to it, latest first. -/
  | sink (written : List (List Char))
  | source (rest : List Char)
  /-- A place in a file. -/
  | file (location : Location) (offset : Nat) (appends : Bool)
  /-- Takes everything and gives nothing. -/
  | void
  /-- Takes and gives nothing. -/
  | full
  deriving Repr

namespace Stream

/-- All that has been written to a sink. -/
def written : Stream → List Char
  | sink chunks => chunks.reverse.flatten
  | _ => []

def push (s : Stream) (text : List Char) : Stream :=
  match s with
  | sink chunks => sink (text :: chunks)
  | s => s

end Stream

structure World where
  streams : Array Stream
  tree : FileTree
  documents : Documents := []
  nextDocument : Nat := 0
  /-- The number of the next process. -/
  nextProcess : Nat := 2

structure Variable where
  /-- A variable can be marked without having a value. -/
  value : Option String
  isExported : Bool := false
  isReadOnly : Bool := false
  deriving DecidableEq, Repr

abbrev Variables := List (String × Variable)

/-- What belongs to one shell. -/
structure Session where
  name : String
  arguments : List String
  bindings : Variables
  functions : List (String × Command) := []
  /-- The options that are on, by name. -/
  options : List String := []
  lastStatus : Nat := 0
  /-- The status of the last command whose output was put in. -/
  outputStatus : Nat := 0
  /-- The line that is blamed for what goes wrong. -/
  line : Nat := 1
  /-- The utility that is at work. -/
  speaker : Option String := none
  /-- The number of the stream of each open descriptor. -/
  descriptors : List (Nat × Nat)
  directory : Location
  /-- What is run when a signal comes, by the number of the signal; zero is the end. -/
  traps : List (Nat × String) := []
  /-- What the shell around this one runs when a signal comes, which goes there. -/
  outerTraps : Option (List (Nat × String)) := none
  /-- How many loops are around, in the function at work. -/
  loopDepth : Nat := 0
  /-- How many functions are at work. -/
  callDepth : Nat := 0
  /-- What functions have to put back when they end, innermost first. -/
  shadowed : List (List (String × Option Variable)) := []
  process : Nat
  lastBackground : Option Nat := none
  /-- Processes in the background that have ended, and how. -/
  jobs : List (Nat × Nat) := []
  aliases : List (String × String) := []
  /-- Programs that have been looked for and found, latest first. -/
  found : List (String × String) := []
  /-- The next argument of the search for options, and how far it is into the one before. -/
  optionPlace : Nat × Nat := (1, 0)
  /-- Signals that have come and wait for the command at work to end. -/
  pending : List Nat := []
  /-- What new files and directories do not allow. -/
  mask : Nat := 18

structure State where
  session : Session
  world : World

/-- What stops a shell from going on as written. -/
inductive Stop where
  /-- The shell ends. -/
  | exit (status : Nat)
  /-- Something is wrong; the shell ends unless an ordinary utility was at work. -/
  | fault (status : Nat)
  /-- Loops are left, the outermost of them perhaps for its next turn only. -/
  | leave (goesOn : Bool) (levels : Nat)
  /-- A function ends. -/
  | comeBack (status : Nat)
  | killed (signal : Nat)
  deriving DecidableEq, Repr

/-- What a shell does: it changes the state, whether it stops or not. -/
abbrev Act := ExceptT Stop (StateM State)

namespace Act

def session : Act Session := do
  return (← get).session

def modifySession (f : Session → Session) : Act Unit :=
  modify fun s => { s with session := f s.session }

def modifyWorld (f : World → World) : Act Unit :=
  modify fun s => { s with world := f s.world }

/-- Does something, and afterwards something else even if the first was stopped. -/
def ensuring (body : Act α) (after : Act Unit) : Act α :=
  ExceptT.mk do
    let r ← body.run
    let _ ← after.run
    return r

/-- Does something and tells how it was stopped. -/
def outcome (body : Act α) : Act (Except Stop α) :=
  ExceptT.mk do
    let r ← body.run
    return .ok r

def setStatus (n : Nat) : Act Unit :=
  modifySession fun s => { s with lastStatus := n }

/-- The stream of a descriptor. -/
def stream? (descriptor : Nat) : Act (Option (Nat × Stream)) := do
  let s ← get
  match s.session.descriptors.lookup descriptor with
  | some n => return (s.world.streams[n]?).map fun stream => (n, stream)
  | none => return none

def setStream (n : Nat) (stream : Stream) : Act Unit :=
  modifyWorld fun w => { w with streams := w.streams.set! n stream }

/-- A new stream and its number. -/
def newStream (stream : Stream) : Act Nat := do
  let w := (← get).world
  modifyWorld fun w => { w with streams := w.streams.push stream }
  return w.streams.size

/-- The octets of a file at a location. -/
def fileText (location : Location) : Act (List Char) := do
  match (← get).world.tree.get? location with
  | some (.file octets) => return ofOctets octets
  | _ => return []

/-- Writes to a descriptor; the answer is whether it takes anything. -/
def write (descriptor : Nat) (text : List Char) : Act Bool := do
  match ← stream? descriptor with
  | none => return false
  | some (_, .source _) => return false
  | some (_, .void) => return true
  | some (_, .full) => return text.isEmpty
  | some (n, .sink chunks) =>
    setStream n ((Stream.sink chunks).push text)
    return true
  | some (n, .file location offset appends) =>
    let held ← fileText location
    let start := if appends then held.length else offset
    let gap := List.replicate (start - held.length) '\x00'
    let all := held.take start ++ gap ++ text ++ held.drop (start + text.length)
    modifyWorld fun w => { w with tree := w.tree.put location (.file (toOctets all)) }
    setStream n (.file location (start + text.length) appends)
    return true

/-- What is left to read at a descriptor. -/
def unread (descriptor : Nat) : Act (List Char) := do
  match ← stream? descriptor with
  | some (_, .source rest) => return rest
  | some (_, .file location offset _) => return (← fileText location).drop offset
  | _ => return []

/-- Goes past some of what is left to read. -/
def consume (descriptor count : Nat) : Act Unit := do
  match ← stream? descriptor with
  | some (n, .source rest) => setStream n (.source (rest.drop count))
  | some (n, .file location offset appends) => setStream n (.file location (offset + count) appends)
  | _ => return ()

/-- Says what is wrong, after the names of the script, the line and the utility at work. -/
def complain (message : String) : Act Unit := do
  let s ← session
  let speaker := match s.speaker with
    | some u => u ++ ": "
    | none => ""
  let _ ← write 2 (s.name ++ ": " ++ toString s.line ++ ": " ++ speaker ++ message ++ "\n").toList

/-- Says what is wrong and stops. -/
def fail (message : String) (status : Nat) : Act α := do
  complain message
  throw (.fault status)

end Act

namespace Session

def isOn (s : Session) (option : String) : Bool :=
  s.options.contains option

def get? (s : Session) (name : String) : Option Variable :=
  s.bindings.lookup name

def value? (s : Session) (name : String) : Option String :=
  (s.get? name).bind (·.value)

/-- The characters at which values are cut into fields. -/
def separators (s : Session) : List Char :=
  ((s.value? "IFS").getD " \t\n").toList

def put (s : Session) (name : String) (v : Option Variable) : Session :=
  let others := s.bindings.filter (·.1 != name)
  match v with
  | some v => { s with bindings := (name, v) :: others }
  | none => { s with bindings := others }

end Session

namespace Act

/-- Gives a variable a value. -/
def assign (name value : String) : Act Unit := do
  let s ← session
  let v := (s.get? name).getD ⟨none, false, false⟩
  if v.isReadOnly then fail (name ++ ": is read only") 2
  let isExported := v.isExported || s.isOn "allexport"
  modifySession fun s => s.put name (some { v with value := some value, isExported := isExported })

/-- What an option's name or letter stands for. -/
def optionNames : List (String × Option Char) :=
  [("errexit", some 'e'), ("noglob", some 'f'), ("ignoreeof", some 'I'),
    ("interactive", some 'i'), ("monitor", some 'm'), ("noexec", some 'n'), ("stdin", some 's'),
    ("xtrace", some 'x'), ("verbose", some 'v'), ("vi", some 'V'), ("emacs", some 'E'),
    ("noclobber", some 'C'), ("allexport", some 'a'), ("notify", some 'b'),
    ("nounset", some 'u'), ("privileged", some 'p'), ("nolog", none), ("debug", none)]

/-- The letters of the options that are on, the last of the table first. -/
def optionLetters (s : Session) : String :=
  String.ofList (optionNames.reverse.filterMap fun (name, letter) =>
    if s.isOn name then letter else none)

/-- The text of a parameter that has one. Arguments are joined by what separates fields. -/
def parameterText (p : Parameter) : Act (Option String) := do
  let s ← session
  match p with
  | .position 0 => return some s.name
  | .position (n + 1) => return s.arguments[n]?
  | .each | .joined =>
    let separator := match s.value? "IFS" with
      | some text => String.ofList (text.toList.take 1)
      | none => " "
    return some (separator.intercalate s.arguments)
  | .count => return some (toString s.arguments.length)
  | .process => return some (toString s.process)
  | .background => return s.lastBackground.map toString
  | .status => return some (toString s.lastStatus)
  | .options => return some (optionLetters s)
  | .named name => return s.value? name

/-- A parameter as faults name it. -/
def parameterName : Parameter → String
  | .position n => toString n
  | .each => "@"
  | .joined => "*"
  | .count => "#"
  | .process => "$"
  | .background => "!"
  | .status => "?"
  | .options => "-"
  | .named name => name

end Act

end LoweringAudit.Shell
