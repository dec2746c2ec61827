import LoweringAudit.Shell.Editor.Reader
/-!
The commands of scripts of the line editor. Each begins with the lines to which it applies, and most
of them end at a semicolon or with the line.
-/
namespace LoweringAudit.Shell.Editor

open Tool (Form Writing)

namespace Reader

/-- An expression with its flags; a script may have asked for the extended writing. An empty one is
the one used last. -/
def expression (s : List Char) (ignoresCase hasLines : Bool) (groups : Nat) :
    Reader (Option Form) := do
  if s.isEmpty then
    if ignoresCase ∨ hasLines then fail .flagsWithoutExpression
    return none
  let script ← get
  let w : Writing :=
    { isExtended := script.isExtended
      ignoresCase := ignoresCase
      isStrict := true
      hasLines := hasLines && script.hasTextLines
      keepsLines := hasLines }
  match w.read (withSpecials s.length s) with
  | .error message => fail (.badExpression message)
  | .ok f =>
    if f.groupCount < groups then fail (.noGroup groups)
    return some f

/-- The flags of an expression that is an address. -/
def addressFlags : Nat → Bool × Bool → Reader (Bool × Bool)
  | 0, flags => return flags
  | n + 1, (ignoresCase, hasLines) => do
    skipBlanks
    match ← peek with
    | some 'I' =>
      skip 1
      addressFlags n (true, hasLines)
    | some 'M' =>
      skip 1
      addressFlags n (ignoresCase, true)
    | _ => return (ignoresCase, hasLines)

def expressionAddress (delimiter : Char) : Reader Address := do
  let s ← delimited delimiter true .openAddress
  let (ignoresCase, hasLines) ← addressFlags ((← get).rest.length + 1) (false, false)
  return .found (← expression s ignoresCase hasLines 0)

/-- The address of a line, or how a range ends, if one of them is written here. -/
def address? : Reader (Option Finish) := do
  match ← peek with
  | some '/' =>
    skip 1
    return some (.address (← expressionAddress '/'))
  | some '\\' =>
    skip 1
    match ← next with
    | some c => return some (.address (← expressionAddress c))
    | none => fail .openAddress
  | some '$' =>
    skip 1
    return some (.address .last)
  | some '+' =>
    skip 1
    skipBlanks
    return some (.further (← number))
  | some '~' =>
    skip 1
    skipBlanks
    return some (.multiple (← number))
  | some c =>
    if !c.isDigit then return none
    let first ← number
    skipBlanks
    if (← peek) ≠ some '~' then return some (.address (.line first))
    skip 1
    skipBlanks
    let step ← number
    return some (.address (if step = 0 then .line first else .every first step))
  | none => return none

/-- The lines to which a command applies. -/
def place : Reader Place := do
  let p ← match ← address? with
    | none => pure {}
    | some (.address a) =>
      skipBlanks
      let finish ← if (← peek) = some ',' then
          skip 1
          skipBlanks
          match ← address? with
          | some f =>
            skipBlanks
            pure (some f)
          | none =>
            let _ ← next
            fail .unexpectedComma
        else pure none
      let mayBeZero := match finish with
        | some (.address (.found _)) => true
        | _ => false
      if a = .line 0 ∧ mayBeZero = false then
        let _ ← next
        fail .lineZero
      pure { start := some a, finish := finish }
    | some _ => fail .relativeStart
  if (← peek) = some '!' then
    skip 1
    skipBlanks
    if (← peek) = some '!' then
      skip 1
      fail .negatedTwice
    return { p with isNegated := true }
  return p

/-- Goes on to the next piece of the script, if there is one. -/
def turnPage : Reader Bool := do
  match (← get).further with
  | [] => return false
  | (origin, text) :: further =>
    modify fun s =>
      { s with rest := text, mark := ⟨origin, 0, 1⟩, further := further, isFirst := false }
    return true

/-- A line as it is written and how far it goes; a backslash keeps the end of a line from being its
own. Without an end it is told whether a backslash is last. -/
def rawLine : List Char → List Char → Nat → List Char × Nat × Option Bool
  | taken, [], n => (taken, n, some false)
  | taken, ['\\'], n => (taken, n + 1, some true)
  | taken, '\\' :: c :: rest, n => rawLine (c :: '\\' :: taken) rest (n + 2)
  | taken, c :: rest, n =>
    if c = '\n' then (taken, n + 1, none) else rawLine (c :: taken) rest (n + 1)

/-- Lines that are put in, which may go on in further pieces. -/
def rawLines : Nat → List Char → Reader (List Char)
  | 0, taken => return taken.reverse
  | bound + 1, taken => do
    let (taken, n, isOpen) := rawLine taken (← get).rest 0
    skip n
    if isOpen = some true then
      if ← turnPage then return (← rawLines bound ('\n' :: '\\' :: taken))
    return taken.reverse

/-- The text of a command that puts lines in. -/
def lineText : Reader (List Char) := do
  skipBlanks
  let read : Reader (List Char) := do
    let raw ← rawLines ((← get).further.length + 1) []
    return unescaped raw.length raw ++ ['\n']
  match ← peek with
  | none => fail .noText
  | some '\\' =>
    skip 1
    match ← peek with
    | none => if ← turnPage then read else return []
    | some c =>
      if c = '\n' then skip 1
      read
  | some _ => read

/-- The name of a label, which a space, a semicolon or a brace ends. -/
def labelName : Reader String := do
  skipBlanks
  return String.ofList (← gather fun c => !isSpace c && c != '\n' && c != ';' && c != '}')

/-- The path of a file, up to the end of the line. -/
def filePath : Reader String := do
  skipBlanks
  match ← gather (· != '\n') with
  | [] => fail .noFile
  | path =>
    skip 1
    return String.ofList path

def outlet : Reader Outlet := do
  match ← filePath with
  | "/dev/stdout" => return .output
  | "/dev/stderr" => return .aside
  | path => return .file path

/-- The flags of a substitution. -/
structure Flags where
  number : Option Nat := none
  isGlobal : Bool := false
  prints : Bool := false
  ignoresCase : Bool := false
  hasLines : Bool := false
  outlet : Option Outlet := none

def flagsFrom : Nat → Flags → Reader Flags
  | 0, f => return f
  | n + 1, f => do
    match ← peek with
    | none => return f
    | some c =>
      if c = '}' ∨ c = '#' then return f
      else if c.isDigit then
        if f.number.isSome then
          skip 1
          fail .numberedTwice
        let k ← number
        if k = 0 then fail .numberZero
        flagsFrom n { f with number := some k }
      else
        skip 1
        match c with
        | '\n' => return f
        | ';' => return f
        | ' ' => flagsFrom n f
        | 'i' => flagsFrom n { f with ignoresCase := true }
        | 'I' => flagsFrom n { f with ignoresCase := true }
        | 'm' => flagsFrom n { f with hasLines := true }
        | 'M' => flagsFrom n { f with hasLines := true }
        | 'p' =>
          if f.prints then fail .printsTwice
          flagsFrom n { f with prints := true }
        | 'g' =>
          if f.isGlobal then fail .globalTwice
          flagsFrom n { f with isGlobal := true }
        | 'w' => return { f with outlet := some (← outlet) }
        | _ => fail .unknownFlag

/-- The greatest number of a group that is put in. -/
def greatestGroup (parts : List Part) : Nat :=
  parts.foldl (fun n p => match p with | .group k => max n k | _ => n) 0

def substitution : Reader Action := do
  match ← next with
  | none => fail .openSubstitution
  | some delimiter =>
    let s ← delimited delimiter true .openSubstitution
    let written ← delimited delimiter false .openSubstitution
    let parts := partsFrom written.length written
    let f ← flagsFrom ((← get).rest.length + 1) {}
    let sought ← expression s f.ignoresCase f.hasLines (greatestGroup parts)
    return .substitute ⟨sought, parts, f.number.getD 1, f.isGlobal, f.prints, f.outlet⟩

def letterExchange : Reader Action := do
  match ← next with
  | none => fail .openExchange
  | some delimiter =>
    let s ← delimited delimiter false .openExchange
    let t ← delimited delimiter false .openExchange
    let s := unescaped s.length s
    let t := unescaped t.length t
    if s.length ≠ t.length then fail .unevenExchange
    finish
    return .exchangeLetters (s.zip t)

def push (p : Place) (a : Action) : Reader Unit :=
  modify fun s =>
    { s with program := { s.program with commands := s.program.commands.push ⟨p, a⟩ } }

/-- Closes the innermost block, which now knows where it ends. -/
def closeBlock : Reader Unit := do
  match (← get).blocks with
  | [] => fail .unexpectedBrace
  | (i, _) :: blocks =>
    modify fun s =>
      let commands := s.program.commands
      let stop := commands.size
      { s with
        blocks := blocks
        program := { s.program with
          commands := commands.modify i fun c => { c with action := .opening stop } } }

/-- A comment. The first two characters of a script may ask for quiet. -/
def comment (isFirst : Bool) : Reader Unit := do
  let text ← gather (· != '\n')
  if isFirst ∧ text = ['n'] then
    modify fun s => { s with program := { s.program with isQuiet := true } }

/-- The actions that are written as a single letter. -/
def plainActions : List (Char × Action) :=
  [('=', .lineNumber), ('d', .delete), ('D', .deleteFirst), ('F', .fileName), ('g', .recall), ('G', .recallMore),
    ('h', .hold), ('H', .holdMore), ('n', .next), ('N', .join), ('p', .print), ('P', .printFirst),
    ('x', .exchange), ('z', .clear)]

/-- A number that may follow a letter. -/
def numberOrNone : Reader (Option Nat) := do
  skipBlanks
  match ← peek with
  | some c => if c.isDigit then return some (← number) else return none
  | none => return none

/-- The action of a letter, with all that belongs to it. -/
def action (p : Place) (c : Char) : Reader Action := do
  match plainActions.lookup c with
  | some a =>
    finish
    return a
  | none =>
    match c with
    | 's' => substitution
    | 'y' => letterExchange
    | 'a' => return .append (← lineText)
    | 'i' => return .insert (← lineText)
    | 'c' => return .change (← lineText)
    | 'r' => return .appendFile (← filePath)
    | 'R' => return .appendLine (← filePath)
    | 'w' => return .write (← outlet)
    | 'W' => return .writeFirst (← outlet)
    | 'b' => return .jump (← labelName)
    | 't' => return .jumpIf true (← labelName)
    | 'T' => return .jumpIf false (← labelName)
    | 'l' =>
      let width ← numberOrNone
      finish
      return .showAll width
    | _ =>
      if c = 'q' ∨ c = 'Q' then
        if p.finish.isSome then fail .oneAddressOnly
        let status := (← numberOrNone).getD 0
        finish
        return .quit status (c = 'q')
      else fail (.unknownCommand c)

/-- A command, of which the place has been read. -/
def command (isFirst : Bool) (p : Place) : Reader Unit := do
  match ← next with
  | none => fail .missingCommand
  | some c =>
    match c with
    | '#' =>
      if p.start.isSome then fail .addressBeforeComment
      comment isFirst
    | ':' =>
      if p.start.isSome then fail .addressBeforeLabel
      let name ← labelName
      if name.isEmpty then fail .noLabel
      push p (.label name)
    | '{' =>
      let s ← get
      set { s with blocks := (s.program.commands.size, s.mark) :: s.blocks }
      push p (.opening 0)
    | '}' =>
      if (← get).blocks.isEmpty then fail .unexpectedBrace
      if p.start.isSome then fail .addressBeforeBrace
      finish
      closeBlock
      push p .closing
    | 'v' =>
      let wanted ← labelName
      if wanted.toList.head?.any (fun d => '5' ≤ d ∧ d ≤ '9') then fail .newerWanted
    | c => push p (← action p c)

/-- The commands of all pieces. -/
def commands : Nat → Reader Unit
  | 0 => return ()
  | bound + 1 => do
    let _ ← gather fun c => c == ';' || Shell.isSpace c
    if (← get).rest.isEmpty then
      if ← turnPage then commands bound
    else
      let s ← get
      command (s.isFirst && s.mark.taken = 0) (← place)
      commands bound

end Reader

/-- The program of a script that comes in pieces, or what is wrong with it and where. -/
def read (isExtended hasTextLines : Bool) (pieces : List (Origin × List Char)) :
    Except (Flaw × Mark) Program := do
  match pieces with
  | [] => return {}
  | (origin, text) :: further =>
    let start : Script :=
      { rest := text
        mark := ⟨origin, 0, 1⟩
        further := further
        isExtended := isExtended
        hasTextLines := hasTextLines }
    let bound := pieces.foldl (fun bound p => bound + (p.2.length + 1)) 1
    let ((), s) ← (Reader.commands bound).run start
    match s.blocks with
    | [] => return s.program
    | (_, mark) :: _ => throw (.openBrace, { mark with taken := 0 })

end LoweringAudit.Shell.Editor
