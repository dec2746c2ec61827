import LoweringAudit.Shell.Editor.Replacement
import LoweringAudit.Shell.Octet
/-!
Running scripts of the line editor. Line after line is taken up, the script is gone through, and
what has become of the line is shown. Texts that a command puts after a line wait until the line is
done with.
-/
namespace LoweringAudit.Shell.Editor

open Tool (Form)

/-- How an editor works. -/
structure Setting where
  isQuiet : Bool := false
  /-- Each file has lines of its own numbers and a last line. -/
  separates : Bool := false
  /-- What would be shown goes to the file that is read. -/
  inPlace : Bool := false
  /-- What ends a line. -/
  delimiter : Char := '\n'
  /-- How wide lines are that show all characters; zero is without bound. -/
  width : Nat := 70
  /-- What can be put in from a file. -/
  files : String → List Char := fun _ => []

/-- A text and whether the end of a line follows it. -/
structure Line where
  text : List Char := []
  hasEnd : Bool := true
  deriving DecidableEq, Repr

/-- Two lines as one. -/
def Line.append (c : Setting) (l m : Line) : Line :=
  ⟨l.text ++ c.delimiter :: m.text, m.hasEnd⟩

/-- Lines that are put in, with the end that lines have. -/
def Setting.ended (c : Setting) (text : List Char) : List Char :=
  if text.getLast? = some '\n' then text.dropLast ++ [c.delimiter] else text

/-- A line that is still to be read, with the number and the name of its file. -/
structure Item where
  line : Line
  file : Nat
  name : String
  deriving DecidableEq, Repr

/-- How a range ends that has begun. -/
inductive Ending where
  /-- It has ended and does not begin again. -/
  | over
  /-- At a line; a later one is in the range if it is the first that is seen. -/
  | line (n : Nat) (takesLater : Bool)
  | address (a : Address)
  deriving DecidableEq, Repr

/-- Where an editor has got to. -/
structure Editing where
  space : Line := {}
  held : Line := {}
  number : Nat := 0
  file : Nat := 0
  name : String := "-"
  rest : List Item
  /-- What is put after the line. -/
  waiting : List (List Char) := []
  /-- The ranges that have begun, by the place of their command. -/
  ranges : List (Nat × Ending)
  lastForm : Option Form := none
  hasReplaced : Bool := false
  /-- Where the last line that was written has no end. -/
  endless : List Outlet := []
  /-- What has been written, latest first. -/
  written : List (Outlet × List Char) := []
  /-- The files of which lines have been put in, and what is left of them. -/
  opened : List (String × List Char) := []

/-- What an editor does: it changes its state, or finds that an expression is missing. -/
abbrev Edit := ExceptT Flaw (StateM Editing)

/-! Writing -/

def mainOutlet (c : Setting) (e : Editing) : Outlet :=
  if c.inPlace then .file e.name else .shown

/-- Writes a text as it is, once the line before has its end. -/
def Editing.say (c : Setting) (e : Editing) (o : Outlet) (text : List Char) : Editing :=
  if o ∈ e.endless then
    { e with
      endless := e.endless.filter (· != o)
      written := (o, c.delimiter :: text) :: e.written }
  else { e with written := (o, text) :: e.written }

def Editing.sayLine (c : Setting) (e : Editing) (o : Outlet) (l : Line) : Editing :=
  if l.hasEnd then e.say c o (l.text ++ [c.delimiter])
  else
    let e := e.say c o l.text
    { e with endless := o :: e.endless }

/-- Shows the line. -/
def Editing.show (c : Setting) (e : Editing) : Editing :=
  e.sayLine c (mainOutlet c e) e.space

/-- Writes what has waited for the line to be done with. -/
def Editing.settle (c : Setting) (e : Editing) : Editing :=
  { e.waiting.foldl (fun e text => e.say c (mainOutlet c e) text) e with waiting := [] }

/-- Ends the last line that has been shown. -/
def Editing.finishLine (c : Setting) (e : Editing) : Editing :=
  if c.inPlace then e else e.say c .shown []

/-- A character with all of it visible. -/
def visible (c : Char) : List Char :=
  match c with
  | '\\' => ['\\', '\\']
  | '\x07' => ['\\', 'a']
  | '\x08' => ['\\', 'b']
  | '\x0c' => ['\\', 'f']
  | '\n' => ['\\', 'n']
  | '\r' => ['\\', 'r']
  | '\t' => ['\\', 't']
  | '\x0b' => ['\\', 'v']
  | c =>
    if ' ' ≤ c ∧ c ≤ '~' then [c]
    else
      let digits := Nat.toDigits 8 c.toNat
      '\\' :: List.replicate (3 - digits.length) '0' ++ digits

/-- Characters in lines of a width, which backslashes cut; `used` is how much of a line is. -/
def foldLine (width : Nat) : Nat → List (List Char) → List Char
  | _, [] => ['$']
  | used, c :: rest =>
    if width ≠ 0 ∧ width - 1 < used + c.length then
      '\\' :: '\n' :: c ++ foldLine width c.length rest
    else c ++ foldLine width (used + c.length) rest

/-! Addresses -/

/-- The expression that is meant, which is now the one used last. -/
def meant (f : Option Form) : Edit Form := do
  match f, (← get).lastForm with
  | some f, _ =>
    modify fun e => { e with lastForm := some f }
    return f
  | none, some f => return f
  | none, none => throw .noExpression

/-- Whether no line follows that belongs to the same lines. -/
def Editing.isLast (c : Setting) (e : Editing) : Bool :=
  match e.rest with
  | [] => true
  | item :: _ => c.separates && item.file != e.file

/-- Looks for the next line. That the next file is begun for it shows in its name. -/
def lookAhead (c : Setting) : Edit Bool := do
  let e ← get
  match e.rest with
  | item :: _ => if !c.separates then set { e with name := item.name }
  | [] => pure ()
  return e.isLast c

def Address.holds (c : Setting) : Address → Edit Bool
  | line n => return (← get).number == n
  | every first step => do
    let n := (← get).number
    return decide (first ≤ n) && (n - first) % step == 0
  | last => lookAhead c
  | found f => do
    let f ← meant f
    return f.occursIn (← get).space.text.toArray

/-- How a range ends that begins at the line, unless it ends there. An expression is looked for from
the next line on. -/
def Finish.ending? (c : Setting) (f : Finish) : Edit (Option Ending) := do
  let n := (← get).number
  match f with
  | address (.line m) => return if m ≤ n then none else some (.line m false)
  | address (.found f) => return some (.address (.found f))
  | address a => return if ← a.holds c then none else some (.address a)
  | further k => return if k = 0 then none else some (.line (n + k) true)
  | multiple k => return if k = 0 then none else some (.line (n + (k - n % k)) true)

/-- Remembers how the range of a command ends. One from a line on begins only once. -/
def setRange (i : Nat) (start : Address) (ending : Option Ending) : Edit Unit :=
  modify fun e =>
    let others := e.ranges.filter (·.1 != i)
    match start, ending with
    | _, some ending => { e with ranges := (i, ending) :: others }
    | .line _, none => { e with ranges := (i, .over) :: others }
    | _, none => { e with ranges := others }

/-- Whether the line is in a range that has begun before. -/
def Ending.holds (c : Setting) (i : Nat) (start : Address) : Ending → Edit Bool
  | .over => return false
  | line m takesLater => do
    let n := (← get).number
    if m ≤ n then setRange i start none
    return takesLater || decide (n ≤ m)
  | address a => do
    if ← a.holds c then setRange i start none
    return true

/-- Whether a range begins at the line. If the line of its start has gone by, it begins at the next
one unless it would have ended. -/
def startsRange (c : Setting) (start : Address) (finish : Finish) : Edit Bool := do
  let n := (← get).number
  match start, finish with
  | .line m, .address (.line k) => return decide (m ≤ n) && (n == m || decide (n ≤ k))
  | .line m, _ => return decide (m ≤ n)
  | a, _ => a.holds c

/-- Whether a command applies to the line. -/
def Place.holds (c : Setting) (i : Nat) (p : Place) : Edit Bool := do
  let isIn ← match p.start, p.finish, (← get).ranges.lookup i with
    | none, _, _ => pure true
    | some a, none, _ => a.holds c
    | some a, some _, some ending => ending.holds c i a
    | some a, some f, none =>
      if ← startsRange c a f then
        setRange i a (← f.ending? c)
        pure true
      else pure false
  return isIn != p.isNegated

/-- Whether the range of a command goes on after the line. -/
def Editing.isWithin (e : Editing) (i : Nat) : Bool :=
  match e.ranges.lookup i with
  | none => false
  | some .over => false
  | some _ => true

/-- The ranges that have begun before any line: those from line zero on. -/
def Program.openRanges (p : Program) : List (Nat × Ending) :=
  p.commands.toList.zipIdx.filterMap fun (c, i) =>
    match c.place.start, c.place.finish with
    | some (.line 0), some (.address a) => some (i, .address a)
    | _, _ => none

/-! Commands -/

/-- How the script goes on after a command. -/
inductive Next where
  | goOn
  | jump (i : Nat)
  /-- The line is done with. -/
  | done (isShown : Bool)
  /-- The script begins again with what is left of the line. -/
  | again
  | quit (status : Nat)
  deriving DecidableEq, Repr

/-- Takes up the next line, if there is one. What has waited is written before. -/
def Editing.advance? (c : Setting) (p : Program) (joins : Bool) (e : Editing) : Option Editing :=
  match e.rest with
  | [] => none
  | item :: rest =>
    let e := e.settle c
    let isNew := c.separates && item.file != e.file
    let e := if isNew then { e with held := { e.held with text := [] }, opened := [] } else e
    let text := if joins then e.space.text ++ c.delimiter :: item.line.text else item.line.text
    some { e with
      space := ⟨text, item.line.hasEnd⟩
      number := if isNew then 1 else e.number + 1
      ranges := if isNew then p.openRanges else e.ranges
      file := item.file
      name := item.name
      rest := rest
      hasReplaced := false }

/-- The first line of what may be several. -/
def Editing.firstLine (c : Setting) (e : Editing) : Line :=
  let first := e.space.text.takeWhile (· != c.delimiter)
  ⟨first, e.space.hasEnd || decide (first.length < e.space.text.length)⟩

/-- The place after a label; the end of the script if the label is empty. -/
def Program.target (p : Program) (name : String) : Nat :=
  if name.isEmpty then p.commands.size else (p.find? name).getD p.commands.size

/-- Takes up a line within the script. After the last one the script is left. -/
def takeUp (c : Setting) (p : Program) (joins : Bool) : Edit Next := do
  let e ← get
  match if e.isLast c then none else e.advance? c p joins with
  | some e =>
    set e
    return .goOn
  | none =>
    if !c.isQuiet then modify (·.show c)
    return .done false

/-- The next line of a file as it is there; an end of a line may be missing. -/
def nextLine (c : Setting) (path : String) : Edit (List Char) := do
  let e ← get
  let left := (e.opened.lookup path).getD (c.files path)
  let line := left.takeWhile (· != c.delimiter) ++ (left.dropWhile (· != c.delimiter)).take 1
  let opened := e.opened.filter (·.1 != path)
  set { e with opened := (path, left.drop line.length) :: opened }
  return line

def substitute (c : Setting) (s : Substitution) : Edit Unit := do
  let f ← meant s.sought
  match s.result? f (← get).space.text with
  | none => return ()
  | some text =>
    modify fun e => { e with space := { e.space with text := text }, hasReplaced := true }
    if s.prints then modify (·.show c)
    match s.outlet with
    | some o => modify fun e => e.sayLine c o e.space
    | none => return ()

/-- What a command does to a line to which it applies. -/
def Action.perform (c : Setting) (p : Program) (i : Nat) (a : Action) : Edit Next := do
  let e ← get
  let out := mainOutlet c e
  match a with
  | opening _ => return .goOn
  | closing => return .goOn
  | label _ => return .goOn
  | jump name => return .jump (p.target name)
  | jumpIf hasReplaced name =>
    set { e with hasReplaced := false }
    return if e.hasReplaced = hasReplaced then .jump (p.target name) else .goOn
  | insert text =>
    set (e.say c out (c.ended text))
    return .goOn
  | append text =>
    set { e with waiting := e.waiting ++ [text] }
    return .goOn
  | change text =>
    if !e.isWithin i then set (e.say c out (c.ended text))
    return .done false
  | appendFile path =>
    set { e with waiting := e.waiting ++ [c.files path] }
    return .goOn
  | appendLine path =>
    let line ← nextLine c path
    if !line.isEmpty then modify fun e => { e with waiting := e.waiting ++ [line] }
    return .goOn
  | write o =>
    set (e.sayLine c o e.space)
    return .goOn
  | writeFirst o =>
    set (e.sayLine c o (e.firstLine c))
    return .goOn
  | print =>
    set (e.show c)
    return .goOn
  | printFirst =>
    set (e.sayLine c out (e.firstLine c))
    return .goOn
  | delete => return .done false
  | deleteFirst =>
    match e.space.text.dropWhile (· != c.delimiter) with
    | [] => return .done false
    | _ :: rest =>
      set { e with space := { e.space with text := rest } }
      return .again
  | next =>
    if !e.isLast c ∧ !c.isQuiet then set (e.show c)
    takeUp c p false
  | join => takeUp c p true
  | hold =>
    set { e with held := e.space }
    return .goOn
  | holdMore =>
    set { e with held := e.held.append c e.space }
    return .goOn
  | .recall =>
    set { e with space := e.held }
    return .goOn
  | recallMore =>
    set { e with space := e.space.append c e.held }
    return .goOn
  | exchange =>
    set { e with space := e.held, held := e.space }
    return .goOn
  | clear =>
    set { e with space := { e.space with text := [] } }
    return .goOn
  | lineNumber =>
    set (e.say c out (Nat.toDigits 10 e.number ++ [c.delimiter]))
    return .goOn
  | fileName =>
    set (e.say c out (e.name.toList ++ [c.delimiter]))
    return .goOn
  | showAll width =>
    set (e.say c out (foldLine (width.getD c.width) 0 (e.space.text.map visible) ++
      [c.delimiter]))
    return .goOn
  | quit status isShown =>
    if isShown then
      if !c.isQuiet then modify (·.show c)
      modify fun e => (e.settle c).finishLine c
    return .quit status
  | substitute s =>
    Editor.substitute c s
    return .goOn
  | exchangeLetters pairs =>
    let text := e.space.text.map fun c => (pairs.lookup c).getD c
    set { e with space := { e.space with text := text } }
    return .goOn

/-- One command of the script, or its end. -/
def Program.step (c : Setting) (p : Program) (i : Nat) : Edit Next := do
  match p.commands[i]? with
  | none => return .done true
  | some command =>
    if ← command.place.holds c i then command.action.perform c p i
    else
      match command.action with
      | .opening stop => return .jump stop
      | _ => return .goOn

/-- Runs a script from one of its commands on; the answer is a status. The bound is on the number
of commands that are carried out. -/
def runFrom (c : Setting) (p : Program) : Nat → Nat → Editing → Except Flaw Nat × Editing
  | 0, _, e => (.ok 0, e)
  | n + 1, i, e =>
    match ((p.step c i).run).run e with
    | (.error f, e) => (.error f, e)
    | (.ok .goOn, e) => runFrom c p n (i + 1) e
    | (.ok (.jump j), e) => runFrom c p n j e
    | (.ok .again, e) => runFrom c p n 0 (e.settle c)
    | (.ok (.quit status), e) => (.ok status, e)
    | (.ok (.done isShown), e) =>
      let e := (if isShown ∧ !c.isQuiet then e.show c else e)
      match e.advance? c p false with
      | some e => runFrom c p n 0 e
      | none => (.ok 0, e.settle c)

/-- How many commands a run may carry out. -/
def maxSteps : Nat := 0x100000

/-- Runs a script over lines. -/
def run (c : Setting) (p : Program) (items : List Item) : Except Flaw Nat × Editing :=
  let c := { c with isQuiet := c.isQuiet || p.isQuiet }
  let start : Editing := { rest := items, ranges := p.openRanges }
  match start.advance? c p false with
  | some e => runFrom c p maxSteps 0 e
  | none => (.ok 0, start)

end LoweringAudit.Shell.Editor
