import LoweringAudit.Shell.Tool.Basic
import LoweringAudit.Shell.Tool.Matching
/-!
The program that shows the lines in which an expression occurs.
-/
namespace LoweringAudit.Shell.Tool

open Act

/-- What is searched for under some flags. -/
def searchFor (chosen : Chosen) (text : String) : Except String Form := do
  let w : Writing := { isExtended := chosen.has 'E', ignoresCase := chosen.has 'i' }
  let forms ← (text.toList.splitOn '\n').mapM fun s =>
    if chosen.has 'F' then pure (w.literals s) else w.read s
  let any := forms.foldr Form.alt (.plain (.one .empty))
  let between (start stop : Anchor) : Form :=
    .seq (.plain (.anchor start)) (.seq any (.plain (.anchor stop)))
  if chosen.has 'x' then return between .textStart .textEnd
  else if chosen.has 'w' then
    return between (.word .noneBefore .asciiWord) (.word .noneAfter .asciiWord)
  else return any

/-- What is shown of a file: text, and whether a line was found. -/
def shownLines (chosen : Chosen) (f : Form) (name : Option String) (text : List Char) :
    List Char × Bool :=
  let found := (lines text).zipIdx.filter fun (l, _) =>
    f.occursIn l.toArray != chosen.has 'v'
  let found := match (chosen.value? 'm').bind fun n => countNumber? n.toList with
    | some n => found.take n
    | none => found
  let label := match name with
    | some name => name.toList ++ [':']
    | none => []
  let front (i : Nat) : List Char :=
    label ++ if chosen.has 'n' then Nat.toDigits 10 (i + 1) ++ [':'] else []
  let shown :=
    if chosen.has 'q' then []
    else if chosen.has 'l' then
      if found.isEmpty then [] else label.dropLast ++ ['\n']
    else if chosen.has 'c' then label ++ Nat.toDigits 10 found.length ++ ['\n']
    else if chosen.has 'o' then
      if chosen.has 'v' then []
      else found.flatMap fun (l, i) =>
        let text := l.toArray
        ((f.all text).filter fun m => m.start < m.stop).flatMap fun m =>
          front i ++ m.group text 0 ++ ['\n']
    else found.flatMap fun (l, i) => front i ++ l ++ ['\n']
  (shown, !found.isEmpty)

def searchLines (fixed : List Char) : Tool := fun caller arguments =>
  withFlags
    { letters := "ce:EFGhHiylm:noqsvwxa",
      long := [("extended-regexp", 'E'), ("fixed-strings", 'F'), ("regexp", 'e'),
        ("ignore-case", 'i'), ("invert-match", 'v'), ("word-regexp", 'w'), ("line-regexp", 'x'),
        ("count", 'c'), ("quiet", 'q'), ("silent", 'q'), ("only-matching", 'o'),
        ("line-number", 'n'), ("no-filename", 'h'), ("with-filename", 'H'),
        ("files-with-matches", 'l'), ("no-messages", 's'), ("max-count", 'm')] }
    (fun caller chosen operands => do
      let chosen := { chosen with flags := chosen.flags ++ fixed.map fun c => (c, "") }
      let chosen := if chosen.has 'y' then { chosen with flags := ('i', "") :: chosen.flags }
        else chosen
      let written := (chosen.flags.reverse.filter (·.1 == 'e')).map (·.2)
      match written, operands with
      | [], [] =>
        sayAside ("Usage: " ++ caller ++ " [OPTION]... PATTERNS [FILE]...\nTry '" ++ caller ++
          " --help' for more information.\n")
        return 2
      | written, operands =>
        let (text, paths) := match written, operands with
          | [], first :: rest => (first, rest)
          | written, rest => ("\n".intercalate written, rest)
        match searchFor chosen text with
        | .error message =>
          let _ ← blame caller message
          return 2
        | .ok form =>
          let isNamed := (1 < paths.length ∨ chosen.has 'H') ∧ ¬ chosen.has 'h'
          let mut isFound := false
          let mut hasFailed := false
          for path in if paths.isEmpty then ["-"] else paths do
            match ← fileOrInput path with
            | .error f =>
              hasFailed := true
              if !chosen.has 's' then
                let _ ← blame caller (path ++ ": " ++ f.reason.1)
            | .ok text =>
              let name := if path = "-" then "(standard input)" else path
              let label := if isNamed ∨ chosen.has 'l' then some name else none
              let (shown, found) := shownLines chosen form label text
              let _ ← emit caller shown 0
              isFound := isFound || found
          return if hasFailed ∧ ¬ (isFound ∧ chosen.has 'q') then 2 else if isFound then 0 else 1)
    caller arguments

end LoweringAudit.Shell.Tool
