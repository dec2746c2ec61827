import LoweringAudit.Shell.Redirection
import LoweringAudit.Shell.Tool.Basic
import LoweringAudit.Shell.Utility.Permission
import LoweringAudit.Shell.Utility.Variables
import LoweringAudit.Shell.Utility.Writing
/-!
Running commands. Each kind of command has a function that is given how commands are run, so that
commands in commands go through one function with a bound on nesting. Programs are given from
outside.
-/
namespace LoweringAudit.Shell

open Act

/-- Runs a command, which is tested if it stands where failure is no reason to end. -/
abbrev Runner := Bool → Command → Act Unit

/-- The programs beside the shell, given how commands are run. -/
abbrev Tools := Runner → String → Option Tool

def runAll (run : Runner) (tested : Bool) (body : Script) : Act Unit :=
  body.forM (run tested)

/-- Ends a shell whose commands must not fail. -/
def endIfFailed (tested : Bool) : Act Unit := do
  let s ← session
  if !tested ∧ s.lastStatus ≠ 0 ∧ s.isOn "errexit" then throw (.exit s.lastStatus)

/-! Texts that are run -/

/-- Says what is wrong with a script. -/
def refuseScript (f : SyntaxFault) (line : Nat) : Act α := do
  modifySession fun s => { s with line := line }
  fail ("Syntax error: " ++ f.message) 2

/-- Runs the lines of a source one after the other. -/
def runLines (run : Runner) (tested : Bool) : Nat → Source → Act Unit
  | 0, _ => return ()
  | n + 1, source => do
    let source :=
      { source with
        nextDocument := (← get).world.nextDocument
        aliases := (← session).aliases }
    match source.nextLine with
    | .error (f, line) => refuseScript f line
    | .ok (none, _) => return ()
    | .ok (some body, source) =>
      modifyWorld fun w =>
        { w with
          documents := source.documents ++ w.documents
          nextDocument := source.nextDocument }
      runAll run tested body
      runLines run tested n { source with documents := [] }

/-- How many lines the texts of short names may have, all together. -/
def maxFurtherLines : Nat := 0x10000

/-- Runs a text. One without commands succeeds. -/
def runText (run : Runner) (tested : Bool) (text : String) : Act Unit := do
  if text.toList.all isBlank then setStatus 0
  runLines run tested (text.length + 2 + maxFurtherLines) { rest := text.toList }

/-- Runs what waits for signals that have come. -/
def answerSignals (run : Runner) : Act Unit := do
  let s ← session
  if s.outerTraps.isSome then return ()
  let pending := s.pending
  modifySession fun s => { s with pending := [] }
  for n in pending do
    match (← session).traps.lookup n with
    | some text =>
      let status := (← session).lastStatus
      runText run false text
      setStatus status
    | none => pure ()

/-! Shells within shells -/

/-- The status that something has come to, which ended in some way. -/
def statusOf (r : Except Stop Unit) : Act Nat := do
  match r with
  | .ok () => return (← session).lastStatus
  | .error (.exit n) => return n
  | .error (.fault n) => return n
  | .error (.comeBack n) => return n
  | .error (.leave ..) => return 0
  | .error (.killed n) => throw (.killed n)

/-- Runs what is to be run when the shell ends with a status; the status may become another. -/
def runLast (run : Runner) (status : Nat) : Act Nat := do
  match (← session).traps.lookup 0 with
  | none => return status
  | some text =>
    modifySession fun s => { s with traps := s.traps.filter (·.1 != 0), lastStatus := status }
    match ← outcome (runText run false text) with
    | .error (.exit n) => return n
    | .error (.killed n) => throw (.killed n)
    | _ => return status

/-- Ends a shell of its own: the one around it goes on, and has the signals that have come. -/
def backTo (around : Session) (r : Except Stop Nat) : Act Nat := do
  let pending := (← session).pending
  modifySession fun _ => { around with pending := pending }
  match r with
  | .ok status => return status % 256
  | .error e => throw e

/-- Runs something in a shell of its own, which ends with it. -/
def apart (run : Runner) (body : Act Unit) : Act Nat := do
  let kept ← session
  modifySession fun s =>
    { s with
      traps := s.traps.filter (·.2 == "")
      outerTraps := some (s.outerTraps.getD s.traps)
      jobs := []
      loopDepth := 0 }
  backTo kept (← outcome do
    let status ← statusOf (← outcome body)
    runLast run status)

/-- What a script writes in a shell of its own. -/
def capture (run : Runner) : Capture := fun body => do
  let n ← newStream (.sink [])
  let status ← apart run do
    setDescriptor 1 (some n)
    runAll run false body
  modifySession fun s => { s with outputStatus := status, lastStatus := s.lastStatus }
  match (← get).world.streams[n]? with
  | some stream => return stream.written
  | none => return []

/-! Simple commands -/

/-- What a name stands for when it is run. -/
inductive Target where
  | nothing
  | utility (name : String) (isSpecial : Bool)
  | function (body : Command)
  | program (name : String)

/-- The fields of the command that is meant, past `command` and its options. No field is left if
the options ask for something else. -/
def pastPrefix : Nat → List String → Option (List String)
  | 0, fields => some fields
  | n + 1, fields =>
    match fields with
    | [] => some []
    | first :: rest =>
      match first.toList with
      | ['-', '-'] => some rest
      | '-' :: c :: more => if (c :: more).all (· == 'p') then pastPrefix n rest else none
      | _ => some (first :: rest)

/-- The fields of a command, whether functions count, and whether `command` stands before it. -/
def withoutPrefix : Nat → List String → List String × Bool
  | 0, fields => (fields, false)
  | n + 1, fields =>
    match fields with
    | "command" :: rest =>
      match pastPrefix rest.length rest with
      | some (first :: rest) => ((withoutPrefix n (first :: rest)).1, true)
      | _ => (fields, false)
    | _ => (fields, false)

def targetOf (s : Session) (isPlain : Bool) : List String → Target
  | [] => .nothing
  | name :: _ =>
    match if isPlain then s.functions.lookup name else none with
    | some body => .function body
    | none =>
      if isUtility name then .utility name (name ∈ specialUtilities)
      else .program name

/-- The utilities whose arguments can be assignments. -/
def assigningUtilities : List String :=
  ["export", "readonly", "local", "alias"]

/-- The fields of the words of a command. -/
def commandFields (capture : Capture) : List Word → List String → Act (List String)
  | [], fields => return fields
  | w :: rest, fields => do
    let assigns := match withoutPrefix fields.length fields with
      | (name :: _, _) => decide (name ∈ assigningUtilities)
      | _ => false
    match if assigns then assignment? w else none with
    | some (name, value) =>
      let value ← assignedText capture value
      commandFields capture rest (fields ++ [name ++ "=" ++ value])
    | none => commandFields capture rest (fields ++ (← wordFields capture w))

/-- Writes what is run before it is run. -/
def trace (capture : Capture) (before : List (Nat × Nat)) (shown : List String) : Act Unit := do
  let s ← session
  if s.isOn "xtrace" then
    let now := s.descriptors
    let sign := (s.value? "PS4").getD ""
    let sign ← match Source.document sign with
      | some w =>
        setOption "xtrace" false
        let text ← pieces capture maxDepth false false w
        setOption "xtrace" true
        pure (String.ofList (Piece.text text))
      | none => pure sign
    modifySession fun s => { s with descriptors := before }
    sayAside (sign ++ " ".intercalate shown ++ "\n")
    modifySession fun s => { s with descriptors := now }

/-- How deep functions may call functions. -/
def maxCalls : Nat := 1000

/-- Runs a function. -/
def callFunction (run : Runner) (tested : Bool) (body : Command) (arguments : List String) :
    Act Unit := do
  let kept ← session
  if maxCalls ≤ kept.callDepth then
    fail ("Maximum function recursion depth (" ++ toString maxCalls ++ ") reached") 2
  modifySession fun s =>
    { s with
      arguments := arguments
      optionPlace := (1, 0)
      loopDepth := 0
      callDepth := s.callDepth + 1 }
  let r ← outcome (run tested body)
  modifySession fun s =>
    { s with
      arguments := kept.arguments
      optionPlace := kept.optionPlace
      loopDepth := kept.loopDepth
      callDepth := kept.callDepth }
  match r with
  | .error (.comeBack n) => setStatus n
  | .error e => throw e
  | .ok () => return ()

/-- Leaves loops. -/
def leave (goesOn : Bool) : Utility := fun arguments => do
  let n ← match arguments with
    | [] => pure 1
    | n :: _ =>
      let count ← countOf n
      if count = 0 then fail ("Illegal number: " ++ n) 2
      pure count
  let depth := (← session).loopDepth
  if depth = 0 then return 0
  setStatus 0
  throw (.leave goesOn (min n depth))

/-- The status that is asked for, or the last one. -/
def askedStatus (arguments : List String) : Act Nat := do
  match arguments with
  | [] => return (← session).lastStatus
  | n :: _ => countOf n

/-- The place of a script that is run by name: a path, or a name in a directory of scripts. -/
def scriptPlace (name : String) : Act Location := do
  let s ← get
  if name.toList.contains '/' then
    match s.resolve name with
    | .ok place => return place
    | .error f => fail (cannotOpen false name f) 2
  else
    let isFile (path : String) : Option Location :=
      match s.resolve path with
      | .ok place => if s.holdsAt 'f' place then some place else none
      | .error _ => none
    match (listed s.session "PATH").findSome? fun d => isFile (inDirectory d name) with
    | some place => return place
    | none => fail (name ++ ": not found") 2

/-- Runs a script in the same shell. -/
def runFile (run : Runner) (tested : Bool) : Utility := fun arguments => do
  match (← optionsOf "" arguments).2 with
  | [] => return 0
  | name :: _ =>
    let place ← scriptPlace name
    let text ← fileText place
    setStatus 0
    match ← outcome (runLines run tested (text.length + 2) { rest := text }) with
    | .error (.comeBack n) => return n
    | .error e => throw e
    | .ok () => return (← session).lastStatus

/-- What a signal that ended a program is told by. -/
def tellSignal (n : Nat) : Act Unit := do
  match signalWords.lookup n with
  | some words => sayAside (words ++ "\n")
  | none => pure ()

/-- The environment that a program starts in: variables that are exported, and ignored signals. -/
def Session.forProgram (s : Session) (process : Nat) : Session :=
  { s with
    bindings := s.bindings.filter fun (_, v) => v.isExported && v.value.isSome
    functions := []
    options := []
    traps := s.traps.filter (·.2 == "")
    outerTraps := none
    pending := []
    loopDepth := 0
    callDepth := 0
    shadowed := []
    speaker := none
    process := process
    lastBackground := none
    jobs := []
    aliases := []
    found := [] }

/-- Runs a program in a process of its own. -/
def start (tool : Tool) (name : String) (arguments : List String) : Act Nat := do
  let kept ← session
  let process := (← get).world.nextProcess
  modifyWorld fun w => { w with nextProcess := process + 1 }
  modifySession fun s => s.forProgram process
  let r ← outcome (tool name arguments)
  modifySession fun _ => kept
  match r with
  | .ok status => return status % 256
  | .error (.killed n) =>
    tellSignal n
    return 128 + n
  | .error (.exit n) => return n % 256
  | .error (.fault n) => return n % 256
  | .error _ => return 0

/-- Runs the program that a name stands for. -/
def runProgram (tools : String → Option Tool) (name : String) (arguments : List String) :
    Act Nat := do
  let s ← get
  let isPath := name.toList.contains '/'
  let last := String.ofList ((name.toList.splitOn '/').getLast?.getD [])
  let result ← if isPath then pure (s.program name) else searchAndKeep name
  match result, tools (outside last) with
  | .found _, some tool => start tool name arguments
  | .denied, _ =>
    complain (name ++ ": Permission denied")
    return if isPath then 126 else 127
  | _, _ =>
    complain (name ++ ": not found")
    return 127

/-- Runs a program in the place of the shell. -/
def replaceShell (tools : String → Option Tool) : Utility := fun arguments => do
  match arguments with
  | [] => return 0
  | name :: rest =>
    let traps := (← session).traps
    modifySession fun s => { s with traps := s.traps.filter (·.1 != 0) }
    let status ← runProgram tools name rest
    if 126 ≤ status then modifySession fun s => { s with traps := traps }
    throw (.exit status)

/-- What a utility does, by its name. -/
def utility (run : Runner) (tools : String → Option Tool) (tested : Bool) (name : String) :
    Utility := fun arguments =>
  match name with
  | ":" => return 0
  | "true" => return 0
  | "false" => return 1
  | "echo" => echo arguments
  | "printf" => printf arguments
  | "test" => testWords arguments
  | "[" => testBracketed arguments
  | "kill" => kill arguments
  | "trap" => trap arguments
  | "wait" => wait arguments
  | "cd" => changeDirectory arguments
  | "chdir" => changeDirectory arguments
  | "pwd" => showDirectory arguments
  | "umask" => setMask arguments
  | "ulimit" => showLimits arguments
  | "times" => showTimes arguments
  | "jobs" => return 0
  | "fg" => noJob arguments
  | "bg" => noJob arguments
  | "type" => describeAll arguments
  | "hash" => lookUp arguments
  | "alias" => setAliases arguments
  | "unalias" => dropAliases arguments
  | "export" => exportVariables arguments
  | "readonly" => protectVariables arguments
  | "unset" => unset arguments
  | "local" => makeLocal arguments
  | "set" => setShell arguments
  | "shift" => shift arguments
  | "read" => readLine arguments
  | "getopts" => getOptions arguments
  | "break" => leave false arguments
  | "continue" => leave true arguments
  | "exit" => do throw (.exit (← askedStatus arguments))
  | "return" => do throw (.comeBack (← askedStatus arguments))
  | "exec" => replaceShell tools arguments
  | "." => runFile run tested arguments
  | "eval" => do
    runText run tested (" ".intercalate arguments)
    return (← session).lastStatus
  | "command" => do
    let (options, names) ← optionsOf "pvV" arguments
    match options.find? (·.1 != 'p'), names with
    | some (c, _), name :: _ => describe (c == 'V') name
    | _, _ => return 0
  | _ => return 127

/-- Runs a utility. What goes wrong in an ordinary one does not end the shell. -/
def callUtility (isSpecial : Bool) (name : String) (body : Act Nat) : Act Unit := do
  let speaker := (← session).speaker
  modifySession fun s => { s with speaker := some name }
  let r ← outcome body
  modifySession fun s => { s with speaker := speaker }
  match r with
  | .ok n => setStatus n
  | .error (.fault n) =>
    setStatus n
    if isSpecial then throw (.fault n)
  | .error e => throw e

/-- Gives variables their values and tells how that looks. -/
def assignAll (capture : Capture) (isKept isExported : Bool) :
    List (String × Word) → Act (List String)
  | [] => return []
  | (name, w) :: rest => do
    let value ← assignedText capture w
    if !isKept then shadow name
    assign name value
    if !isKept ∨ isExported then
      modifySession fun s =>
        s.put name ((s.get? name).map fun v => { v with isExported := true })
    return (name ++ "=" ++ value) :: (← assignAll capture isKept isExported rest)

/-- Runs a target whose descriptors and variables are set. -/
def runTarget (run : Runner) (tools : String → Option Tool) (tested isSpecial : Bool)
    (fields : List String) : Target → Act Unit
  | .nothing => do setStatus (← session).outputStatus
  | .function body => callFunction run tested body fields.tail
  | .utility name _ => callUtility isSpecial name (utility run tools tested name fields.tail)
  | .program name => do
    let status ← runProgram tools name fields.tail
    setStatus status
    if status = 127 ∧ isSpecial then throw (.fault status)

def simple (run : Runner) (tools : String → Option Tool) (tested : Bool) (line : Nat)
    (assignments : List (String × Word)) (words : List Word) (redirects : List Redirect) :
    Act Unit := do
  modifySession fun s => { s with line := line, outputStatus := 0 }
  let all ← commandFields (capture run) words []
  let (fields, isPlain) : List String × Bool := match withoutPrefix all.length all with
    | (fields, hasPrefix) => (fields, !hasPrefix)
  let target := targetOf (← session) isPlain fields
  let isSpecial := match target with
    | .utility _ isSpecial => isSpecial && isPlain
    | _ => false
  let keepsAssignments := all.isEmpty || isSpecial
  let before := (← session).descriptors
  let wanted ← redirects.mapM (Redirect.wanted (capture run))
  let keepsDescriptors := match target with
    | .utility "exec" _ => fields.length == 1
    | _ => false
  let putBack : Act Unit := putBackDescriptors before (redirects.map Redirect.descriptor)
  match ← outcome (redirect true wanted) with
  | .error e =>
    putBack
    match e with
    | .fault n =>
      setStatus n
      if isSpecial then throw (.fault n)
    | e => throw e
  | .ok () =>
    if !keepsAssignments then openFrame
    let body : Act Unit := do
      let isExec := match target with
        | .utility "exec" _ => decide (1 < fields.length)
        | _ => false
      let set ← assignAll (capture run) keepsAssignments isExec assignments
      trace (capture run) before (set ++ all)
      runTarget run tools tested isSpecial fields target
    ensuring body do
      if !keepsDescriptors then putBack
      if !keepsAssignments then closeFrame

/-! Compound commands -/

/-- Runs the parts of a loop with one more loop around. -/
def inLoop (body : Act Unit) : Act Unit := do
  let depth := (← session).loopDepth
  modifySession fun s => { s with loopDepth := depth + 1 }
  ensuring body (modifySession fun s => { s with loopDepth := depth })

/-- Does a turn of a loop; the answer is whether another one may follow. -/
def turn (body : Act Unit) : Act Bool := do
  match ← outcome body with
  | .ok () => return true
  | .error (.leave goesOn levels) =>
    if 1 < levels then throw (.leave goesOn (levels - 1))
    return goesOn
  | .error e => throw e

/-- How many turns a loop may take. -/
def maxTurns : Nat := 1000000

def loopWhile (run : Runner) (tested isUntil : Bool) (test body : Script) : Nat → Nat → Act Nat
  | 0, status => return status
  | n + 1, status => do
    let mut holds := false
    let r ← outcome do
      runAll run true test
    match r with
    | .ok () => holds := ((← session).lastStatus == 0) != isUntil
    | .error (.leave goesOn levels) =>
      if 1 < levels then throw (.leave goesOn (levels - 1))
      if goesOn then return ← loopWhile run tested isUntil test body n status
      return status
    | .error e => throw e
    if !holds then return status
    let more ← turn (runAll run tested body)
    let status := (← session).lastStatus
    if more then loopWhile run tested isUntil test body n status else return status

def loopOver (run : Runner) (tested : Bool) (name : String) (body : Script) :
    List String → Act Unit
  | [] => return ()
  | value :: rest => do
    assign name value
    if ← turn (runAll run tested body) then loopOver run tested name body rest

/-- The first arm of which a pattern fits. -/
def chosenArm (capture : Capture) (subject : List Char) : List Arm → Act Script
  | [] => return []
  | .mk patterns body :: rest => do
    let rec fitsAny : List Word → Act Bool
      | [] => return false
      | w :: more => do
        if Pattern.fits (← wordPattern capture w) subject then return true
        fitsAny more
    if ← fitsAny patterns then return body else chosenArm capture subject rest

/-- Looks for the program that a stage runs. -/
def prepareStage : Command → Act Unit
  | .simple _ _ (w :: _) _ => do
    match Word.bare? w with
    | some name =>
      if !isUtility (String.ofList name) then
        let _ ← searchAndKeep (String.ofList name)
    | none => return ()
  | _ => return ()

/-- Runs stages, each of which reads what the one before it has written. -/
def runStages (run : Runner) (tested : Bool) (first : Option (List Char)) : List Command → Act Nat
  | [] => return 0
  | [last] => do
    prepareStage last
    apart run do
      enter first
      run tested last
  | stage :: rest => do
    prepareStage stage
    let n ← newStream (.sink [])
    let _ ← apart run do
      enter first
      setDescriptor 1 (some n)
      run tested stage
    let written := match (← get).world.streams[n]? with
      | some stream => stream.written
      | none => []
    runStages run tested (some written) rest
where
  enter (input : Option (List Char)) : Act Unit := do
    match input with
    | some text => setDescriptor 0 (some (← newStream (.source text)))
    | none => return ()

/-- Runs something in the background, which is over before anything else goes on. -/
def runAside (run : Runner) (body : Act Unit) : Act Unit := do
  let process := (← get).world.nextProcess
  modifyWorld fun w => { w with nextProcess := process + 1 }
  let status ← apart run do
    setDescriptor 0 (some (← newStream .void))
    body
  modifySession fun s =>
    { s with
      lastBackground := some process
      jobs := (process, status) :: s.jobs
      lastStatus := 0 }

/-- Runs a command. -/
def runCommand (tools : Tools) : Nat → Runner
  | 0 => fun _ _ => throw (.killed 11)
  | n + 1 => fun tested cmd => do
    let run := runCommand tools n
    answerSignals run
    if (← session).isOn "noexec" then return ()
    match cmd with
    | .simple line assignments words redirects =>
      simple run (tools run) tested line assignments words redirects
      answerSignals run
      endIfFailed tested
    | .redirected line body redirects =>
      modifySession fun s => { s with line := line }
      let before := (← session).descriptors
      let wanted ← redirects.mapM (Redirect.wanted (capture run))
      let putBack : Act Unit := putBackDescriptors before (redirects.map Redirect.descriptor)
      match ← outcome (redirect true wanted) with
      | .ok () => ensuring (run tested body) putBack
      | .error e =>
        putBack
        match e with
        | .fault n => setStatus n
        | e => throw e
    | .group body => runAll run tested body
    | .apart line body redirects =>
      modifySession fun s => { s with line := line }
      let wanted ← redirects.mapM (Redirect.wanted (capture run))
      setStatus (← apart run do
        redirect false wanted
        runAll run tested body)
      answerSignals run
      endIfFailed tested
    | .branch test yes no =>
      runAll run true test
      if (← session).lastStatus = 0 then runAll run tested yes
      else
        if no.isEmpty then setStatus 0
        runAll run tested no
    | .loop isUntil test body =>
      inLoop do
        let status ← loopWhile run tested isUntil test body maxTurns 0
        setStatus status
    | .each line name values body =>
      modifySession fun s => { s with line := line }
      let values ← allFields (capture run) values
      if values.isEmpty then setStatus 0
      inLoop (loopOver run tested name body values)
    | .choice line subject arms =>
      modifySession fun s => { s with line := line }
      let subject ← wordText (capture run) subject
      let body ← chosenArm (capture run) subject arms
      if body.isEmpty then setStatus 0
      runAll run tested body
    | .define name body =>
      modifySession fun s =>
        { s with
          functions := (name, body) :: s.functions.filter (·.1 != name)
          lastStatus := 0 }
    | .pipeline stages =>
      setStatus (← runStages run tested none stages)
      answerSignals run
      endIfFailed tested
    | .negated body =>
      run true body
      setStatus (if (← session).lastStatus = 0 then 1 else 0)
    | .both a b =>
      run true a
      if (← session).lastStatus = 0 then run tested b
    | .either a b =>
      run true a
      if (← session).lastStatus ≠ 0 then run tested b
    | .background body => runAside run (run false body)

/-- How deep commands may stand in commands. -/
def maxNesting : Nat := 100000

end LoweringAudit.Shell
