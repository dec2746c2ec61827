import LoweringAudit.Shell.Utility.Basic
import LoweringAudit.Text.Ascii
/-!
Signals, and the utilities on them and on processes in the background.
-/
namespace LoweringAudit.Shell

open Act

/-- The names of the signals that have one, by number. -/
def signalNames : List (Nat × String) :=
  [(1, "HUP"), (2, "INT"), (3, "QUIT"), (4, "ILL"), (5, "TRAP"), (6, "ABRT"), (7, "BUS"),
    (8, "FPE"), (9, "KILL"), (10, "USR1"), (11, "SEGV"), (12, "USR2"), (13, "PIPE"), (14, "ALRM"),
    (15, "TERM"), (17, "CHLD"), (18, "CONT"), (19, "STOP"), (20, "TSTP"), (21, "TTIN"),
    (22, "TTOU"), (23, "URG"), (24, "XCPU"), (25, "XFSZ"), (26, "VTALRM"), (27, "PROF"),
    (28, "WINCH"), (29, "IO"), (30, "PWR"), (31, "SYS"), (34, "RTMIN"), (64, "RTMAX")]

/-- The number after the last signal. -/
def signalCount : Nat := 65

/-- A signal as it is listed. -/
def signalLabel (n : Nat) : String :=
  match signalNames.lookup n with
  | some name => name
  | none =>
    if 34 < n ∧ n < 50 then "RTMIN+" ++ toString (n - 34)
    else if 50 ≤ n ∧ n < 64 then "RTMAX-" ++ toString (64 - n)
    else toString n

/-- What is said of a process that a signal has ended. -/
def signalWords : List (Nat × String) :=
  [(1, "Hangup"), (3, "Quit"), (4, "Illegal instruction"), (5, "Trace/breakpoint trap"),
    (6, "Aborted"), (7, "Bus error"), (8, "Floating point exception"), (9, "Killed"),
    (10, "User defined signal 1"), (11, "Segmentation fault"), (12, "User defined signal 2"),
    (14, "Alarm clock"), (15, "Terminated"), (16, "Stack fault"), (24, "CPU time limit exceeded"),
    (25, "File size limit exceeded"), (26, "Virtual timer expired"),
    (27, "Profiling timer expired"), (29, "I/O possible"), (30, "Power failure"),
    (31, "Bad system call")]

/-- The signal of a number or a name in any letter case; the word for number zero is given. -/
def signal? (zeroth s : String) : Option Nat :=
  match countNumber? s.toList with
  | some n => if n < signalCount then some n else none
  | none =>
    (List.range signalCount).find? fun n =>
      Text.sameLetters s.toList (if n = 0 then zeroth else signalLabel n).toList

/-- The signals that do nothing unless a shell asks for them. -/
def idleSignals : List Nat := [17, 18, 23, 28]

/-- A signal to the shell itself. -/
def receive (n : Nat) : Act Unit := do
  let s ← session
  if n = 0 then return ()
  match if n = 9 ∨ n = 19 then none else (s.outerTraps.getD s.traps).lookup n with
  | some "" => return ()
  | some _ => modifySession fun s => { s with pending := s.pending ++ [n] }
  | none => if n ∉ idleSignals then throw (.killed n)

/-- Sends a signal to processes; the status is that of the last one. -/
def send (n : Nat) (processes : List String) : Act Nat := do
  if processes.isEmpty then
    fail ("Usage: kill [-s sigspec | -signum | -sigspec] [pid | job]... or\n" ++
      "kill -l [exitstatus]") 2
  let mut status := 0
  for p in processes do
    if p.toList.head? = some '%' then fail ("No such job: " ++ p) 2
    let number ← countOf p
    if number = (← session).process then receive n
    else
      complain "No such process\n"
      status := 1
  return status

/-- Names of signals by number or by the status that they give. -/
def listSignals (arguments : List String) : Act Nat := do
  match arguments with
  | [] => say (String.join ((List.range signalCount).map fun n => signalLabel n ++ "\n"))
  | n :: _ =>
    let number ← countOf n
    let signal := if 128 < number then number - 128 else number
    if 0 < signal ∧ signal < signalCount then say (signalLabel signal ++ "\n")
    else fail ("invalid signal number or exit status: " ++ n) 2

def kill : Utility := fun arguments => do
  match arguments with
  | [] => send 15 []
  | first :: rest =>
    match first.toList with
    | ['-', '-'] => send 15 rest
    | ['-', 'l'] => listSignals rest
    | '-' :: 's' :: name =>
      match signal? "0" (String.ofList ('s' :: name)), name with
      | some n, _ => send n rest
      | none, [] =>
        match rest with
        | [] => fail "No arg for -s option" 2
        | name :: rest => named name rest
      | none, name => named (String.ofList name) rest
    | '-' :: c :: more =>
      match signal? "0" (String.ofList (c :: more)) with
      | some n => send n rest
      | none => fail ("Illegal option -" ++ String.singleton c) 2
    | _ => send 15 arguments
where
  named (name : String) (processes : List String) : Act Nat := do
    match signal? "0" name with
    | some n => send n processes
    | none => fail ("invalid signal number or name: " ++ name) 2

/-- What is run when a signal comes. -/
def trap : Utility := fun arguments => do
  let (_, arguments) ← optionsOf "" arguments
  match arguments with
  | [] =>
    let set := (← session).traps.mergeSort fun a b => decide (a.1 ≤ b.1)
    say (String.join (set.map fun (n, text) =>
      "trap -- " ++ quotedValue text ++ " " ++ (if n = 0 then "EXIT" else signalLabel n) ++ "\n"))
  | first :: rest =>
    let isReset := rest.isEmpty || (countNumber? first.toList).any (· < signalCount)
    let (action, names) : Option String × List String :=
      if isReset then (none, first :: rest)
      else (if first = "-" then none else some first, rest)
    for name in names do
      match signal? "EXIT" name with
      | some n =>
        modifySession fun s =>
          let others := s.traps.filter (·.1 != n)
          { s with traps := others ++ (action.map fun text => (n, text)).toList }
      | none =>
        sayAside ("trap: " ++ name ++ ": bad trap\n")
        return 1
    return 0

/-- The status of a process in the background; all of them have ended. -/
def wait : Utility := fun arguments => do
  let (_, arguments) ← optionsOf "" arguments
  let mut status := 0
  for p in arguments do
    if p.toList.head? = some '%' then fail ("No such job: " ++ p) 2
    let number ← countOf p
    status := ((← session).jobs.lookup number).getD 127
  return status

end LoweringAudit.Shell
