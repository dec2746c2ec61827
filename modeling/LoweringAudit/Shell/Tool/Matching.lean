import LoweringAudit.Shell.Pattern
import LoweringAudit.Text.Digits
import LoweringAudit.Text.Search
/-!
Regular expressions with groups, in the basic and the extended writing of line tools. Of all parts
of a text that an expression describes the first is meant, and of those the longest; each group has
the longest part that leaves the others theirs.
-/
namespace LoweringAudit.Shell.Tool

/-- An expression whose groups are numbered. -/
inductive Form where
  | plain (r : Regex)
  | seq (a b : Form)
  | alt (a b : Form)
  | repeated (a : Form) (least : Nat) (most : Option Nat)
  | group (n : Nat) (a : Form)
  /-- The text that a group has. -/
  | same (n : Nat)
  deriving DecidableEq, Repr

/-- The number of a group, its start and its end. -/
abbrev Groups := List (Nat × Nat × Nat)

/-- A part of a text that a form describes. -/
structure Found where
  start : Nat
  stop : Nat
  groups : Groups
  deriving DecidableEq, Repr

/-- The part of a text from one position to another. -/
def between (text : Array Char) (start stop : Nat) : List Char :=
  (text.extract start stop).toList

/-- What a group has; the whole is group zero. -/
def Found.group (f : Found) (text : Array Char) (n : Nat) : List Char :=
  if n = 0 then between text f.start f.stop
  else
    match f.groups.lookup n with
    | some (start, stop) => between text start stop
    | none => []

namespace Form

/-- What a form describes whatever its groups have: at least what it describes. -/
def regex : Form → Regex
  | plain r => r
  | seq a b => .seq a.regex b.regex
  | alt a b => .alt a.regex b.regex
  | repeated a least most => .repeated a.regex least most
  | group _ a => a.regex
  | same _ => .repeated (.one .all) 0 none

/-- Whether a form is a condition on a position, which no loop repeats. -/
def isAnchor : Form → Bool
  | plain (.anchor _) => true
  | _ => false

/-- How many groups there are. -/
def groupCount : Form → Nat
  | seq a b => a.groupCount + b.groupCount
  | alt a b => a.groupCount + b.groupCount
  | repeated a _ _ => a.groupCount
  | group _ a => a.groupCount + 1
  | _ => 0

/-- Whether a form asks for what a group has. -/
def refersBack : Form → Bool
  | seq a b => a.refersBack || b.refersBack
  | alt a b => a.refersBack || b.refersBack
  | repeated a _ _ => a.refersBack
  | group _ a => a.refersBack
  | same _ => true
  | plain _ => false

/-- Where the last turn of a loop begins that leads from one position to another. -/
def lastTurn (r : Regex) (text : Array Char) (goal : Nat) : Nat → Nat → Nat
  | 0, i => i
  | n + 1, i =>
    let next := (r.reach text [i]).filter fun k =>
      i < k && ((Regex.repeated r 0 none).reach text [k]).contains goal
    match next.max? with
    | some k => if k = goal then i else lastTurn r text goal n k
    | none => i

/-- What the groups have when an expression leads from one position to another. -/
def spans (text : Array Char) : Form → Nat → Nat → Groups
  | plain _, _, _ => []
  | same _, _, _ => []
  | group n a, i, j => (n, i, j) :: a.spans text i j
  | seq a b, i, j =>
    let middle := (a.regex.reach text [i]).filter fun k => (b.regex.reach text [k]).contains j
    match middle.max? with
    | some k => a.spans text i k ++ b.spans text k j
    | none => []
  | alt a b, i, j =>
    if (a.regex.reach text [i]).contains j then a.spans text i j else b.spans text i j
  | repeated a _ _, i, j =>
    if i = j then a.spans text i j else a.spans text (lastTurn a.regex text j text.size i) j

/-- A position, and what the groups have there, latest first. -/
abbrev Way := Nat × Groups

/-- The ways of a loop, those of more turns first. A turn that leads nowhere counts only while
turns are lacking. -/
def turns (step : Way → List Way) (least : Nat) (most : Option Nat) : Nat → Nat → Way → List Way
  | 0, _, w => [w]
  | n + 1, done, w =>
    let further :=
      if most.all (done < ·) then
        ((step w).filter fun v => decide (w.1 < v.1) || decide (done < least)).flatMap
          (turns step least most n (done + 1))
      else []
    if least ≤ done then further ++ [w] else further

/-- The ways in which a form leads on. -/
def ways (text : Array Char) : Form → Way → List Way
  | plain r, (i, g) => (r.reach text [i]).reverse.map fun j => (j, g)
  | seq a b, w => (a.ways text w).flatMap (b.ways text)
  | alt a b, w => a.ways text w ++ b.ways text w
  | group n a, (i, g) => (a.ways text (i, g)).map fun (j, h) => (j, (n, i, j) :: h)
  | repeated a least most, w => turns (a.ways text) least most (text.size + least + 1) 0 w
  | same n, (i, g) =>
    match g.lookup n with
    | some (start, stop) =>
      let j := i + (stop - start)
      if between text i j = between text start stop ∧ j ≤ text.size then [(j, g)] else []
    | none => []

/-- The longest part of a text from a position on that a form describes. -/
def foundAt? (f : Form) (text : Array Char) (i : Nat) : Option Found :=
  if f.refersBack then
    let all := f.ways text (i, [])
    (all.map (·.1)).max?.bind fun j =>
      (all.find? (·.1 == j)).map fun (_, groups) => ⟨i, j, groups⟩
  else ((f.regex.reach text [i]).max?).map fun j => ⟨i, j, f.spans text i j⟩

/-- The first part of a text, from a position on, that a form describes. -/
def find? (f : Form) (text : Array Char) (start : Nat) : Option Found :=
  (List.range (text.size + 1)).findSome? fun i => if i < start then none else f.foundAt? text i

/-- All parts that a form describes, none of which overlap. An empty one does not follow another
directly. -/
def findAll (f : Form) (text : Array Char) : Nat → Nat → Option Nat → List Found
  | 0, _, _ => []
  | n + 1, start, before =>
    match f.find? text start with
    | none => []
    | some m =>
      if m.start = m.stop then
        if before = some m.start then findAll f text n (m.start + 1) none
        else m :: findAll f text n (m.start + 1) none
      else m :: findAll f text n m.stop (some m.stop)

/-- Whether a form describes some part of a text. -/
def occursIn (f : Form) (text : Array Char) : Bool :=
  if f.refersBack then (f.find? text 0).isSome
  else !(f.regex.reach text (List.range (text.size + 1))).isEmpty

/-- All parts of a text that a form describes. -/
def all (f : Form) (text : Array Char) : List Found :=
  f.findAll text (text.size + 2) 0 none

end Form

/-- How expressions are written. -/
structure Writing where
  /-- Groups, loops and choices need no backslash. -/
  isExtended : Bool := false
  ignoresCase : Bool := false
  /-- A loop needs something before it, and a brace the bounds of a loop after it. -/
  isStrict : Bool := false
  /-- Lines within a text have a start and an end. -/
  hasLines : Bool := false
  /-- The end of a line is no character unless it is named. -/
  keepsLines : Bool := false
  deriving DecidableEq, Repr

namespace Writing

/-- What an expression is made of. -/
inductive Lexeme where
  | form (r : Regex)
  | same (n : Nat)
  | opening | closing | bar
  /-- A loop. Where there is nothing to repeat it may stand for characters. -/
  | repeated (least : Nat) (most : Option Nat) (label : List Char)
  /-- These count only in some places. -/
  | caret | dollar
  deriving DecidableEq, Repr

def set (w : Writing) (s : CharSet) : Regex :=
  .one (if w.ignoresCase then s.folded else s)

def literal (w : Writing) (c : Char) : Regex :=
  w.set (.single c)

/-- All that is not in a set, in the sense of the writing. -/
def others (w : Writing) (s : CharSet) : CharSet :=
  (if w.keepsLines then s.join (.single '\n') else s).complement

def spaceSet : CharSet :=
  .ofRanges [('\t', '\r'), (' ', ' ')]

/-- What a letter after a backslash stands for. -/
def escape (w : Writing) (c : Char) : Regex :=
  match c with
  | 'w' => w.set .asciiWord
  | 'W' => w.set CharSet.asciiWord.complement
  | 's' => w.set spaceSet
  | 'S' => w.set spaceSet.complement
  | 'b' => .anchor (.word .edge .asciiWord)
  | 'B' => .anchor (.word .noEdge .asciiWord)
  | '<' => .anchor (.word .start .asciiWord)
  | '>' => .anchor (.word .stop .asciiWord)
  | '\x60' => .anchor .textStart
  | '\'' => .anchor .textEnd
  | 'n' => w.literal '\n'
  | 't' => w.literal '\t'
  | c => w.literal c

/-- The most turns that bounds can ask for. -/
def maxTurns : Nat := 32767

/-- The bounds of a loop, and what follows the brace that closes them. There are none if what
follows the opening brace is no loop. -/
def bounds (w : Writing) (s : List Char) : Except String (Option (Lexeme × List Char)) := do
  let closing : List Char := if w.isExtended then ['}'] else ['\\', '}']
  let least := s.takeWhile Char.isDigit
  let rest := s.drop least.length
  let (hasMost, rest) := match rest with
    | ',' :: rest => (true, rest)
    | rest => (false, rest)
  let digits := if hasMost then rest.takeWhile Char.isDigit else []
  let rest := rest.drop digits.length
  if closing.isPrefixOf rest ∧ (hasMost = true ∨ least ≠ []) then
    let low := Text.natOfDigits 10 least
    let high := if hasMost then (if digits = [] then none else some (Text.natOfDigits 10 digits))
      else some low
    if high.any (· < low) then throw "Invalid content of \\\x7b\\\x7d"
    if maxTurns < high.getD low then throw "Regular expression too big"
    let label := '{' :: s.takeWhile (fun c => c.isDigit || c == ',') ++ ['}']
    return some (.repeated low high label, rest.drop closing.length)
  else if w.isExtended ∧ ¬ w.isStrict then return none
  else if Text.contains closing s then throw "Invalid content of \\\x7b\\\x7d"
  else throw "Unmatched \\\x7b"

/-- A member of the set in brackets. -/
inductive Member where
  | char (c : Char)
  | named (s : CharSet)

/-- The next member of the set in brackets, and what follows it. -/
def member (s : List Char) : Except String (Member × List Char) :=
  let unmatched := "Unmatched [, [^, [:, [., or [="
  match s with
  | [] => .error unmatched
  | '[' :: mark :: rest =>
    if mark = ':' ∨ mark = '.' ∨ mark = '=' then
      match Text.cutAt? [mark, ']'] rest with
      | none => .error unmatched
      | some (name, after) =>
        if mark = ':' then
          match Pattern.classes.lookup (String.ofList name) with
          | some ranges => .ok (.named (.ofRanges ranges), after)
          | none => .error "Invalid character class name"
        else
          match name with
          | [c] => .ok (.char c, after)
          | _ => .error "Invalid collation character"
    else .ok (.char '[', mark :: rest)
  | c :: rest => .ok (.char c, rest)

/-- The members of a set up to its closing bracket, which may itself be the first member; the bound
is the length of the text. -/
def members (isFirst : Bool) (found : CharSet) :
    Nat → List Char → Except String (CharSet × List Char)
  | 0, _ => .error "Unmatched [, [^, [:, [., or [="
  | n + 1, s => do
    match s with
    | ']' :: rest =>
      if !isFirst then return (found, rest)
    | '-' :: c :: _ =>
      if !isFirst ∧ c ≠ ']' then throw "Invalid range end"
    | _ => pure ()
    let (first, rest) ← member s
    match first, rest with
    | .char low, '-' :: after =>
      if after.head? = some ']' then members false (.join found (.single low)) n rest
      else
        match ← member after with
        | (.char high, rest) =>
          if high < low then throw "Invalid range end"
          members false (.join found (.range low high)) n rest
        | _ => throw "Invalid range end"
    | .char c, rest => members false (.join found (.single c)) n rest
    | .named named, rest =>
      match rest with
      | '-' :: c :: _ => if c ≠ ']' then throw "Invalid range end"
      | _ => pure ()
      members false (.join found named) n rest

/-- The set in brackets, and what follows it. -/
def bracket (w : Writing) (s : List Char) : Except String (CharSet × List Char) := do
  let (isNegated, s) := match s with
    | '^' :: rest => (true, rest)
    | s => (false, s)
  if s.isEmpty then throw "Invalid regular expression"
  let (found, rest) ← members true .empty (s.length + 1) s
  let found := if w.ignoresCase then found.folded else found
  return (if isNegated then w.others found else found, rest)

/-- The lexemes of an expression; the bound is its length. -/
def lexemes (w : Writing) : Nat → List Char → Except String (List Lexeme)
  | 0, _ => return []
  | _, [] => return []
  | _, ['\\'] => throw "Trailing backslash"
  | n + 1, '\\' :: c :: rest => do
    let basic (l : Lexeme) : Except String (List Lexeme) := do
      return (if w.isExtended then .form (w.literal c) else l) :: (← lexemes w n rest)
    match c with
    | '(' => basic .opening
    | ')' => basic .closing
    | '|' => basic .bar
    | '+' => basic (.repeated 1 none ['+'])
    | '?' => basic (.repeated 0 (some 1) ['?'])
    | '{' =>
      if w.isExtended then return .form (w.literal c) :: (← lexemes w n rest)
      match ← w.bounds rest with
      | some (l, rest) => return l :: (← lexemes w n rest)
      | none => return .form (w.literal c) :: (← lexemes w n rest)
    | c =>
      let l := if '1' ≤ c ∧ c ≤ '9' then Lexeme.same (c.toNat - '0'.toNat) else .form (w.escape c)
      return l :: (← lexemes w n rest)
  | n + 1, c :: rest => do
    let extended (l : Lexeme) : Except String (List Lexeme) := do
      return (if w.isExtended then l else .form (w.literal c)) :: (← lexemes w n rest)
    match c with
    | '.' => return .form (.one (w.others .empty)) :: (← lexemes w n rest)
    | '*' => return .repeated 0 none ['*'] :: (← lexemes w n rest)
    | '^' => return .caret :: (← lexemes w n rest)
    | '$' => return .dollar :: (← lexemes w n rest)
    | '(' => extended .opening
    | ')' => extended .closing
    | '|' => extended .bar
    | '+' => extended (.repeated 1 none ['+'])
    | '?' => extended (.repeated 0 (some 1) ['?'])
    | '{' =>
      let found ← if w.isExtended then w.bounds rest else pure none
      match found with
      | some (l, rest) => return l :: (← lexemes w n rest)
      | none => return .form (w.literal c) :: (← lexemes w n rest)
    | '[' =>
      let (s, rest) ← bracket w rest
      return .form (.one s) :: (← lexemes w n rest)
    | c => return .form (w.literal c) :: (← lexemes w n rest)

/-- Whether a lexeme ends what stands before it. -/
def Lexeme.isEnd : Lexeme → Bool
  | closing => true
  | bar => true
  | _ => false

/-- What is left of the lexemes, and the number of the next group. -/
abbrev Remaining := List Lexeme × Nat

/-- A form with the loops that stand after it. In the strict basic writing only some loops can be
repeated themselves. -/
def looped (w : Writing) (f : Form) : List Lexeme → Except String (Form × List Lexeme)
  | .repeated least most _ :: rest =>
    match rest with
    | .repeated _ _ label :: _ =>
      if w.isStrict ∧ ¬ w.isExtended ∧ label ≠ ['+'] ∧ label ≠ ['?'] then
        .error "Invalid preceding regular expression"
      else looped w (.repeated f least most) rest
    | _ => .ok (.repeated f least most, rest)
  | rest => .ok (f, rest)

/-- Characters that stand for themselves. -/
def literals (w : Writing) (s : List Char) : Form :=
  s.foldr (fun c f => .seq (.plain (w.literal c)) f) (.plain .empty)

def startAnchor (w : Writing) : Form :=
  .plain (.anchor (if w.hasLines then .lineStart else .textStart))

def endAnchor (w : Writing) : Form :=
  .plain (.anchor (if w.hasLines then .lineEnd else .textEnd))

/-- Parts one after the other. What is no loop or anchor in its place stands for itself. -/
def sequenceFrom (w : Writing) (choice : Remaining → Except String (Form × Remaining)) :
    Nat → Bool → Remaining → Except String (Form × Remaining)
  | 0, _, r => return (.plain .empty, r)
  | n + 1, isFirst, (ls, next) => do
    let goOn (f : Form) (rest : List Lexeme) (next : Nat) : Except String (Form × Remaining) := do
      let (f, rest) ← if f.isAnchor then pure (f, rest) else looped w f rest
      let (more, r) ← sequenceFrom w choice n false (rest, next)
      return (.seq f more, r)
    match ls with
    | [] => return (.plain .empty, ([], next))
    | l :: rest =>
      match l with
      | .closing => return (.plain .empty, (ls, next))
      | .bar => return (.plain .empty, (ls, next))
      | .form r => goOn (.plain r) rest next
      | .same k =>
        if next ≤ k then throw "Invalid back reference"
        goOn (.same k) rest next
      | .repeated _ _ label =>
        if w.isStrict ∧ (w.isExtended = true ∨ 1 < label.length) then
          throw "Invalid preceding regular expression"
        if w.isExtended then sequenceFrom w choice n isFirst (rest, next)
        else goOn (w.literals label) rest next
      | .caret =>
        if w.isExtended ∨ isFirst then
          let (more, r) ← sequenceFrom w choice n w.isExtended (rest, next)
          return (.seq w.startAnchor more, r)
        else goOn (.plain (w.literal '^')) rest next
      | .dollar =>
        if w.isExtended ∨ rest.head?.all Lexeme.isEnd then goOn w.endAnchor rest next
        else goOn (.plain (w.literal '$')) rest next
      | .opening =>
        let (inner, rest, after) ← choice (rest, next + 1)
        match rest with
        | .closing :: rest => goOn (.group next inner) rest after
        | _ => throw "Unmatched ( or \\("

/-- Choices between bars; groups stand no deeper than a bound. -/
def choiceFrom (w : Writing) : Nat → Remaining → Except String (Form × Remaining)
  | 0, r => return (.plain .empty, r)
  | n + 1, (ls, next) => do
    let (first, rest, next) ← sequenceFrom w (choiceFrom w n) (ls.length + 1) true (ls, next)
    match rest with
    | .bar :: rest =>
      let (more, r) ← choiceFrom w n (rest, next)
      return (.alt first more, r)
    | rest => return (first, rest, next)

/-- Reads an expression. -/
def read (w : Writing) (s : List Char) : Except String Form := do
  let ls ← w.lexemes (s.length + 1) s
  let (f, rest, _) ← w.choiceFrom (ls.length + 2) (ls, 1)
  if rest.isEmpty then return f else throw "Unmatched ) or \\)"

end Writing

end LoweringAudit.Shell.Tool
