import LoweringAudit.Shell.Tool.Basic
/-!
Programs that write what they read with some of it left out, marked or counted. Most of them are
functions on texts, with a thin part that reads flags and files.
-/
namespace LoweringAudit.Shell.Tool

open Act

/-- A text at the right end of a field. -/
def right (width : Nat) (s : List Char) : List Char :=
  List.replicate (width - s.length) ' ' ++ s

def digits (n : Nat) : List Char :=
  Nat.toDigits 10 n

/-- The lines of a text with their ends; only the last one may lack it. -/
def lineChunks (text : List Char) : List (List Char) :=
  text.splitBy fun a _ => a != '\n'

/-! Whole files -/

/-- A character by what can be shown. -/
def visible (showsTabs : Bool) (c : Char) : List Char :=
  let plain (c : Char) : List Char :=
    if c = '\t' then (if showsTabs then ['^', 'I'] else [c])
    else if c = '\n' then [c]
    else if c < ' ' then ['^', Char.ofNat (c.toNat + 64)]
    else if c = '\x7f' then ['^', '?']
    else [c]
  if c.toNat < 128 then plain c
  else
    let low := Char.ofNat (c.toNat - 128)
    ['M', '-'] ++ if low = '\t' then ['^', 'I'] else if low = '\n' then ['^', 'J'] else plain low

/-- Whether a line is the second empty one in a row. -/
def squeeze : Bool → List (List Char) → List (List Char)
  | _, [] => []
  | wasEmpty, line :: rest =>
    if line = ['\n'] then
      if wasEmpty then squeeze true rest else line :: squeeze true rest
    else line :: squeeze false rest

/-- Lines with numbers before them, which empty lines may lack. -/
def numberLines (skipsEmpty : Bool) : Nat → List (List Char) → List (List Char)
  | _, [] => []
  | n, line :: rest =>
    if skipsEmpty ∧ line = ['\n'] then line :: numberLines skipsEmpty n rest
    else (right 6 (digits n) ++ '\t' :: line) :: numberLines skipsEmpty (n + 1) rest

def catFlags : Flags where
  letters := "AbeEnstTuv"
  long := [("show-all", 'A'), ("number-nonblank", 'b'), ("show-ends", 'E'), ("number", 'n'),
    ("squeeze-blank", 's'), ("show-tabs", 'T'), ("show-nonprinting", 'v')]

/-- How a text is shown under some flags. -/
def showText (c : Chosen) (text : List Char) : List Char :=
  let marksEnds := c.has 'A' || c.has 'e' || c.has 'E'
  let showsTabs := c.has 'A' || c.has 't' || c.has 'T'
  let showsAll := c.has 'A' || c.has 'e' || c.has 't' || c.has 'v'
  let shown (line : List Char) : List Char := line.flatMap fun ch =>
    if ch = '\n' then (if marksEnds then ['$', '\n'] else ['\n'])
    else if showsAll then visible showsTabs ch
    else if ch = '\t' ∧ showsTabs then ['^', 'I']
    else [ch]
  let chunks := lineChunks text
  let chunks := if c.has 's' then squeeze false chunks else chunks
  let chunks := if c.has 'b' || c.has 'n' then numberLines (c.has 'b') 1 (chunks.map shown)
    else chunks.map shown
  chunks.flatten

def cat : Tool := withFlags catFlags fun caller chosen paths => do
  if chosen.flags.all (·.1 == 'u') then
    let mut status := 0
    for path in if paths.isEmpty then ["-"] else paths do
      match ← fileOrInput path with
      | .ok text => status ← emit caller text status
      | .error f =>
        status ← blame caller (path ++ ": " ++ f.reason.1)
        if f = .other "Bad file descriptor" then
          status ← blame caller ("closing standard input: " ++ f.reason.1)
    return status
  else
    let (texts, status) ← readFiles caller paths
    emit caller (showText chosen (texts.flatMap (·.2))) status

def reverseLines (text : List Char) : List Char :=
  (lineChunks text).reverse.flatten

def tac : Tool := withFlags { letters := "brs:" } fun caller _ paths => do
  let (texts, status) ← readFiles caller paths
  emit caller (texts.flatMap fun (_, text) => reverseLines text) status

def rev : Tool := withFlags { letters := "" } fun caller _ paths => do
  let (texts, status) ← readFiles caller paths
  let turned (line : List Char) : List Char :=
    if line.getLast? = some '\n' then line.dropLast.reverse ++ ['\n'] else line.reverse
  emit caller (texts.flatMap fun (_, text) => (lineChunks text).flatMap turned) status

/-- Writes what it reads to the output and to files. -/
def tee : Tool := withFlags { letters := "ai", long := [("append", 'a')] }
    fun caller chosen paths => do
  let text ← readAll 0
  let mut status ← emit caller text 0
  for path in paths do
    match ← openToWrite path (!chosen.has 'a') false (chosen.has 'a') with
    | .error f => status ← blame caller (path ++ ": " ++ f.reason.1)
    | .ok stream =>
      modifySession fun s => { s with descriptors := (1000, stream) :: s.descriptors }
      let _ ← write 1000 text
      modifySession fun s => { s with descriptors := s.descriptors.filter (·.1 != 1000) }
  return status

/-! Starts and ends -/

/-- Which part of a text is kept. -/
structure Share where
  /-- Lines are counted, not characters. -/
  ofLines : Bool
  count : Nat
  /-- The count is of what is left out. -/
  isRest : Bool
  deriving DecidableEq, Repr

/-- A count with the letter for its unit. -/
def sized? (s : List Char) : Option Nat :=
  let number := s.takeWhile Char.isDigit
  if number = [] then none
  else
    (match s.drop number.length with
      | [] => some 1
      | ['b'] => some 512
      | ['K'] => some 1024
      | ['k'] => some 1024
      | ['k', 'B'] => some 1000
      | ['M'] => some (1024 * 1024)
      | _ => none).map (· * Text.natOfDigits 10 number)

/-- The share that a count writes; a sign before it can be what makes it a rest. -/
def share? (ofLines : Bool) (sign : Char) (s : String) : Option Share :=
  let cs := match s.toList with
    | '+' :: rest => (decide (sign = '+'), rest)
    | '-' :: rest => (decide (sign = '-'), rest)
    | cs => (false, cs)
  (sized? cs.2).map fun n => ⟨ofLines, n, cs.1⟩

/-- The share that flags ask for. -/
def chosenShare (sign : Char) (chosen : Chosen) : Except String Share :=
  match chosen.flags.find? fun (c, _) => c == 'n' || c == 'c' with
  | none => .ok ⟨true, 10, false⟩
  | some (c, value) =>
    match share? (c == 'n') sign value with
    | some share => .ok share
    | none => .error ("invalid number of " ++ (if c = 'n' then "lines" else "bytes") ++ ": " ++
        quotedText value)

def firstPart (s : Share) (text : List Char) : List Char :=
  let cut {α : Type} (all : List α) : List α :=
    all.take (if s.isRest then all.length - s.count else s.count)
  if s.ofLines then (cut (lineChunks text)).flatten else cut text

def lastPart (s : Share) (text : List Char) : List Char :=
  let cut {α : Type} (all : List α) : List α :=
    all.drop (if s.isRest then s.count - 1 else all.length - s.count)
  if s.ofLines then (cut (lineChunks text)).flatten else cut text

/-- A count after a dash as a flag of its own. -/
def withCountFlag (arguments : List String) : List String :=
  match arguments with
  | first :: rest =>
    match first.toList with
    | '-' :: d :: more =>
      if d.isDigit then ("-n" ++ String.ofList (d :: more)) :: rest else arguments
    | '+' :: d :: more =>
      if d.isDigit then ("-n+" ++ String.ofList (d :: more)) :: rest else arguments
    | _ => arguments
  | [] => []

/-- Writes a part of each file, with the names of files if there are several. -/
def partly (sign : Char) (part : Share → List Char → List Char) : Tool := fun caller arguments =>
  withFlags
    { letters := "n:c:qvfz",
      long := [("lines", 'n'), ("bytes", 'c'), ("quiet", 'q'), ("silent", 'q'), ("verbose", 'v')] }
    (fun caller chosen paths => do
      match chosenShare sign chosen with
      | .error message => blame caller message
      | .ok share =>
        let paths := if paths.isEmpty then ["-"] else paths
        let style := (chosen.flags.find? fun (c, _) => c == 'q' || c == 'v').map (·.1)
        let isNamed := style = some 'v' ∨ (1 < paths.length ∧ style ≠ some 'q')
        let mut status := 0
        let mut isFirst := true
        for path in paths do
          match ← fileOrInput path with
          | .error f =>
            status ← blame caller (
              if f = .isDirectory then "error reading '" ++ path ++ "': Is a directory"
              else "cannot open '" ++ path ++ "' for reading: " ++ f.reason.1)
          | .ok text =>
            let name := if path = "-" then "standard input" else path
            let head := if isNamed
              then ((if isFirst then "" else "\n") ++ "==> " ++ name ++ " <==\n").toList
              else []
            isFirst := false
            status ← emit caller (head ++ part share text) status
        return status)
    caller (withCountFlag arguments)

/-! Counts -/

/-- Runs of characters that are no space. -/
def words (text : List Char) : List (List Char) :=
  ((text.map fun c => if isSpace c then ' ' else c).splitOn ' ').filter (· ≠ [])

/-- The length of the longest line. -/
def longest (text : List Char) : Nat :=
  ((text.splitOn '\n').map List.length).foldl max 0

/-- The counts of lines, words, characters and so on, by the letters of their flags. -/
def counts (text : List Char) : List (Char × Nat) :=
  [('l', text.count '\n'), ('w', (words text).length), ('m', text.length), ('c', text.length),
    ('L', longest text)]

def countText : Tool :=
  withFlags
    { letters := "lwcmL",
      long := [("lines", 'l'), ("words", 'w'), ("bytes", 'c'), ("chars", 'm'),
        ("max-line-length", 'L')] }
    fun caller chosen paths => do
      let s ← get
      let isWanted (c : Char) : Bool :=
        if chosen.flags.isEmpty then c ∈ ['l', 'w', 'c'] else chosen.has c
      let (texts, status) ← readFiles caller paths
      let isRegular (path : String) : Act Bool := do
        if path = "-" then
          match ← stream? 0 with
          | some (_, .file ..) => return true
          | _ => return false
        else return s.fileFacts.holds 'f' path
      let mut isPlain := true
      for (path, _) in texts do
        if !(← isRegular path) then isPlain := false
      let rows := texts.map fun (path, text) =>
        ((counts text).filter fun (c, _) => isWanted c, if paths.isEmpty then "" else path)
      let total := (counts []).filterMap fun (c, _) =>
        if isWanted c then
          let all := rows.map fun (row, _) => (row.lookup c).getD 0
          some (c, if c = 'L' then all.foldl max 0 else all.foldl (· + ·) 0)
        else none
      let size := (texts.map fun (_, text) => text.length).foldl (· + ·) 0
      let isSingle : Bool := paths.length ≤ 1 ∧ total.length = 1
      let width := if isSingle then 1
        else if isPlain then (digits size).length else 7
      let line (row : List (Char × Nat)) (name : String) : List Char :=
        [' '].intercalate (row.map fun (_, n) => right width (digits n)) ++
          (if name = "" then [] else ' ' :: name.toList) ++ ['\n']
      let all := rows.flatMap fun (row, name) => line row name
      emit caller (all ++ if 1 < paths.length then line total "total" else []) status

/-! Repeated lines -/

/-- Runs of lines that are alike. -/
def runs (key : List Char → List Char) (all : List (List Char)) : List (List (List Char)) :=
  all.splitBy fun a b => key a == key b

def unique : Tool :=
  withFlags
    { letters := "cdiuf:s:w:z",
      long := [("count", 'c'), ("repeated", 'd'), ("ignore-case", 'i'), ("unique", 'u')] }
    fun caller chosen paths => do
      match ← fileOrInput (paths.headD "-") with
      | .error f => blame caller (paths.headD "-" ++ ": " ++ f.reason.1)
      | .ok text =>
        let key (l : List Char) : List Char := if chosen.has 'i' then Text.lower l else l
        let found := (runs key (lines text)).filter fun run =>
          (!chosen.has 'd' || 1 < run.length) && (!chosen.has 'u' || run.length == 1)
        let shown := found.map fun run =>
          (if chosen.has 'c' then right 7 (digits run.length) ++ [' '] else []) ++ run.headD []
        match paths with
        | [_, target] =>
          match ← openToWrite target true false false with
          | .error f => blame caller (target ++ ": " ++ f.reason.1)
          | .ok stream =>
            modifySession fun s => { s with descriptors := (1, stream) :: s.descriptors }
            emit caller (unlines shown) 0
        | _ => emit caller (unlines shown) 0

end LoweringAudit.Shell.Tool
