import LoweringAudit.Shell.Expansion
import LoweringAudit.Shell.Utility.Basic
/-!
Utilities on variables, arguments and options of the shell.
-/
namespace LoweringAudit.Shell

open Act

/-- Variables by name, in order. -/
def Session.sorted (s : Session) : Variables :=
  s.bindings.mergeSort fun a b => decide (a.1 ≤ b.1)

/-- Marks variables, and gives them values, or shows those that are marked. -/
def markVariables (word : String) (isMarked : Variable → Bool) (mark : Variable → Variable) :
    Utility := fun arguments => do
  let (shown, arguments) ← optionsOf "p" arguments
  if shown.isEmpty ∧ ¬ arguments.isEmpty then
    for a in arguments do
      let (name, value) := nameAndValue a
      demandName name
      match value with
      | some value => assign name value
      | none => pure ()
      modifySession fun s =>
        s.put name (some (mark ((s.get? name).getD ⟨none, false, false⟩)))
    return 0
  else
    let marked := (← session).sorted.filter (isMarked ·.2)
    say (String.join (marked.map fun (name, v) =>
      word ++ " " ++ name ++ (match v.value with
        | some value => "=" ++ quotedValue value
        | none => "") ++ "\n"))

def exportVariables : Utility :=
  markVariables "export" (·.isExported) fun v => { v with isExported := true }

def protectVariables : Utility :=
  markVariables "readonly" (·.isReadOnly) fun v => { v with isReadOnly := true }

def unset : Utility := fun arguments => do
  let (options, names) ← optionsOf "fv" arguments
  for a in names do
    let name := (nameAndValue a).1
    if (options.getLast?.map (·.1)) = some 'f' then
      modifySession fun s => { s with functions := s.functions.filter (·.1 != name) }
    else
      demandName name
      if ((← session).get? name).any (·.isReadOnly) then fail (name ++ ": is read only") 2
      modifySession fun s => s.put name none
  return 0

/-- Keeps a variable in the innermost frame, from which it is put back. -/
def shadow (name : String) : Act Unit :=
  modifySession fun s =>
    match s.shadowed with
    | [] => s
    | frame :: outer =>
      if frame.any (·.1 == name) then s
      else { s with shadowed := ((name, s.get? name) :: frame) :: outer }

/-- The name under which a frame keeps the options. -/
def optionsName : String := "-"

/-- Makes variables local to the function at work; a dash stands for the options. -/
def makeLocal : Utility := fun arguments => do
  if (← session).shadowed.isEmpty then fail "not in a function" 2
  for a in arguments do
    if a = optionsName then
      modifySession fun s =>
        match s.shadowed with
        | [] => s
        | frame :: outer =>
          let kept : Variable := ⟨some ("\n".intercalate s.options), false, false⟩
          { s with shadowed := ((optionsName, some kept) :: frame) :: outer }
    else
      let (name, value) := nameAndValue a
      demandName name
      shadow name
      match value with
      | some value => assign name value
      | none => pure ()
  return 0

/-- Opens a frame. -/
def openFrame : Act Unit :=
  modifySession fun s => { s with shadowed := [] :: s.shadowed }

/-- Closes the innermost frame and puts back what it keeps. -/
def closeFrame : Act Unit :=
  modifySession fun s =>
    match s.shadowed with
    | [] => s
    | frame :: outer =>
      frame.foldl
        (fun s (name, v) =>
          if name = optionsName then
            let kept := ((v.bind (·.value)).getD "").toList.splitOn '\n'
            { s with options := (kept.filter (· ≠ [])).map String.ofList }
          else s.put name v)
        { s with shadowed := outer }

/-- Drops arguments from the front. -/
def shift : Utility := fun arguments => do
  let n ← match arguments with
    | [] => pure 1
    | n :: _ => countOf n
  if (← session).arguments.length < n then fail "can't shift that many" 2
  modifySession fun s => { s with arguments := s.arguments.drop n, optionPlace := (1, 0) }
  return 0

/-- Turns an option on or off. -/
def setOption (name : String) (isOn : Bool) : Act Unit :=
  modifySession fun s =>
    let others := s.options.filter (· != name)
    { s with options := if isOn then name :: others else others }

/-- Turns the option of a letter on or off. -/
def setLetter (letter : Char) (isOn : Bool) : Act Unit := do
  match optionNames.find? (·.2 == some letter) with
  | some (name, _) => setOption name isOn
  | none => fail ("Illegal option -" ++ String.singleton letter) 2

/-- Turns an option with a long name on or off. -/
def setNamed (name : String) (isOn : Bool) : Act Unit := do
  if optionNames.any (·.1 == name) then setOption name isOn
  else fail ("Illegal option -o " ++ name) 2

/-- All options and whether they are on, as a table or as commands. -/
def optionTable (s : Session) (asCommands : Bool) : String :=
  if asCommands then
    String.join (optionNames.map fun (name, _) =>
      "set " ++ (if s.isOn name then "-o " else "+o ") ++ name ++ "\n")
  else
    "Current option settings\n" ++ String.join (optionNames.map fun (name, _) =>
      name ++ String.ofList (List.replicate (16 - name.length) ' ') ++
        (if s.isOn name then "on" else "off") ++ "\n")

/-- The letters of one argument that sets options; a letter may take the next argument. -/
def applyLetters (isOn : Bool) : List Char → List String → Act (List String)
  | [], rest => return rest
  | 'o' :: more, rest => do
    match rest with
    | [] =>
      let _ ← say (optionTable (← session) (!isOn))
      applyLetters isOn more []
    | name :: rest => do
      setNamed name isOn
      applyLetters isOn more rest
  | c :: more, rest => do
    setLetter c isOn
    applyLetters isOn more rest

/-- Sets options and then arguments. What is left is none if the arguments stay as they are. -/
def applyOptions : Nat → List String → Act (Option (List String))
  | 0, _ => return none
  | bound + 1, arguments => do
    match arguments with
    | [] => return none
    | first :: rest =>
      match first.toList with
      | ['-'] =>
        setOption "xtrace" false
        setOption "verbose" false
        return if rest.isEmpty then none else some rest
      | ['-', '-'] => return some rest
      | '-' :: letters => applyOptions bound (← applyLetters true letters rest)
      | '+' :: letters => applyOptions bound (← applyLetters false letters rest)
      | _ => return some (first :: rest)

def setShell : Utility := fun arguments => do
  if arguments.isEmpty then
    let set := (← session).sorted.filterMap fun (name, v) =>
      v.value.map fun value => name ++ "=" ++ quotedValue value ++ "\n"
    say (String.join set)
  else
    match ← applyOptions (arguments.length + 1) arguments with
    | some rest => modifySession fun s => { s with arguments := rest, optionPlace := (1, 0) }
    | none => pure ()
    return 0

/-- A line of input: its characters, each with whether a backslash keeps it, and whether the line
has an end. Also how many characters were read. -/
def inputLine (isRaw : Bool) : List Char → List (Char × Bool) × Bool × Nat
  | [] => ([], false, 0)
  | ['\\'] => if isRaw then ([('\\', false)], false, 1) else ([], false, 1)
  | '\\' :: c :: rest =>
    if isRaw then
      let (line, ended, n) := inputLine isRaw (c :: rest)
      (('\\', false) :: line, ended, n + 1)
    else
      let (line, ended, n) := inputLine isRaw rest
      (if c = '\n' then line else (c, true) :: line, ended, n + 2)
  | c :: rest =>
    if c = '\n' then ([], true, 1)
    else
      let (line, ended, n) := inputLine isRaw rest
      (if c = '\x00' then line else (c, false) :: line, ended, n + 1)

/-- The pieces of a line: what a backslash keeps is not cut. -/
def linePieces (line : List (Char × Bool)) : List Piece :=
  (line.splitBy fun a b => a.2 == b.2).map fun run =>
    let gs := run.map fun (c, isKept) => if isKept then Glyph.kept c else Glyph.plain c
    if run.head?.any (·.2) then .fixed gs else .loose gs

/-- Reads a line and gives its fields to variables, the last of which takes all that is left. -/
def readLine : Utility := fun arguments => do
  let (options, names) ← optionsOf "p:r" arguments
  if names.isEmpty then fail "arg count" 2
  let (line, ended, count) := inputLine (options.any (·.1 == 'r')) (← unread 0)
  consume 0 count
  let fields := cutFields (← session).separators (some names.length) (linePieces line)
  for (name, i) in names.zipIdx do
    demandName name
    assign name (String.ofList (Glyph.text ((fields[i]?).getD [])))
  return if ended then 0 else 1

/-- What the search for options has come to. -/
structure OptionSearch where
  letter : Char
  /-- The value of the option, if it is set. -/
  value : Option String
  complaint : Option String
  isDone : Bool
  /-- The next argument, and how far into the one before the search is. -/
  place : Nat × Nat

/-- The next option among arguments. -/
def nextOption (letters : List Char) (arguments : List String) (place : Nat × Nat) :
    OptionSearch :=
  let within : List Char :=
    if place.1 ≤ 1 ∨ place.2 = 0 then []
    else ((arguments[place.1 - 2]?).getD "").toList.drop place.2
  let finished (next : Nat) : OptionSearch := ⟨'?', none, none, true, (next, 0)⟩
  let isQuiet := letters.head? = some ':'
  let go (rest : List Char) (next : Nat) : OptionSearch :=
    match rest with
    | [] => finished next
    | c :: more =>
      let offset := ((arguments[next - 2]?).getD "").length - more.length
      let after : Nat × Nat := (next, if more = [] then 0 else offset)
      let isKnown := c ≠ ':' ∧ c ∈ letters
      if ¬ isKnown then
        if isQuiet then ⟨'?', some (String.singleton c), none, false, after⟩
        else ⟨'?', none, some ("Illegal option -" ++ String.singleton c ++ "\n"), false, after⟩
      else if (letters.dropWhile (· != c)).tail.head? = some ':' then
        if more ≠ [] then ⟨c, some (String.ofList more), none, false, (next, 0)⟩
        else
          match arguments[next - 1]? with
          | some value => ⟨c, some value, none, false, (next + 1, 0)⟩
          | none =>
            if isQuiet then ⟨':', some (String.singleton c), none, false, (next, 0)⟩
            else ⟨'?', none, some ("No arg for -" ++ String.singleton c ++ " option\n"), false,
              (next, 0)⟩
      else ⟨c, some "", none, false, after⟩
  if within ≠ [] then go within place.1
  else
    match arguments[place.1 - 1]? with
    | none => finished place.1
    | some a =>
      match a.toList with
      | ['-', '-'] => finished (place.1 + 1)
      | '-' :: c :: more => go (c :: more) (place.1 + 1)
      | _ => finished place.1

def getOptions : Utility := fun arguments => do
  match arguments with
  | letters :: name :: others =>
    let s ← session
    let among := if others.isEmpty then s.arguments else others
    let shown := ((s.value? "OPTIND").bind fun text => countNumber? text.toList).getD 1
    let place := if shown = s.optionPlace.1 then s.optionPlace else (shown, 0)
    let place := if among.length + 1 < place.1 ∨ place.1 = 0 then (1, 0) else place
    let found := nextOption letters.toList among place
    match found.complaint with
    | some text => sayAside text
    | none => pure ()
    if !found.isDone then
      match found.value with
      | some value => assign "OPTARG" value
      | none => modifySession fun s => s.put "OPTARG" none
    assign "OPTIND" (toString found.place.1)
    modifySession fun s => { s with optionPlace := found.place }
    demandName name
    assign name (String.singleton found.letter)
    return if found.isDone then 1 else 0
  | _ => fail "Usage: getopts optstring var [arg...]" 2

end LoweringAudit.Shell
