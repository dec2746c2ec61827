import LoweringAudit.Regex.Written
import LoweringAudit.Text.Blank
import LoweringAudit.Text.Digits
import LoweringAudit.Unicode.Binary
/-!
Reading regular expressions. A reader moves a cursor over the expression; what is wrong first ends
the reading. Of the flags only the one that passes over blanks matters here; it holds from where it
is set up to the end of the group around it.
-/
namespace LoweringAudit.Regex

structure Cursor where
  rest : List Char
  position : Nat := 0
  /-- Blanks and comments have no say. -/
  isSpaced : Bool := false
  /-- The names of groups, and where they stand. -/
  names : List (List Char × Span) := []

abbrev Reading := StateT Cursor (Except Fault)

namespace Reading

def fail (flaw : Flaw) (start stop : Nat) : Reading α :=
  throw ⟨flaw, ⟨start, stop⟩, none⟩

def here : Reading Nat := do
  return (← get).position

def peek : Reading (Option Char) := do
  return (← get).rest.head?

/-- Fails at the cursor, below one character or where one is missing. -/
def failHere (flaw : Flaw) (width : Nat) : Reading α := do
  fail flaw (← here) ((← here) + width)

/-- Moves past some characters. -/
def advance (n : Nat) : Reading Unit :=
  modify fun c => { c with rest := c.rest.drop n, position := c.position + n }

/-- How many characters blanks and comments take at the front of a text; `inComment` within one. -/
def spaceWidth (inComment : Bool) : List Char → Nat
  | [] => 0
  | c :: rest =>
    if inComment then 1 + spaceWidth (c != '\n') rest
    else if Text.isBlank c then 1 + spaceWidth false rest
    else if c = '#' then 1 + spaceWidth true rest
    else 0

def skipSpace : Reading Unit := do
  let c ← get
  if c.isSpaced then advance (spaceWidth false c.rest)

/-- Moves past a character and the space after it; the answer is whether anything follows. -/
def next : Reading Bool := do
  advance 1
  skipSpace
  return (← peek).isSome

/-- What follows the character at the cursor, but for space. -/
def peekNext : Reading (Option Char) := do
  let c ← get
  let rest := c.rest.tail
  return (rest.drop (if c.isSpaced then spaceWidth false rest else 0)).head?

/-- Moves past a word that stands at the cursor. -/
def accept (word : String) : Reading Bool := do
  if word.toList.isPrefixOf (← get).rest then
    advance word.toList.length
    return true
  else return false

end Reading

open Reading

/-- The ASCII classes with names. -/
def asciiSets : List (String × List (Char × Char)) :=
  [("alnum", [('0', '9'), ('A', 'Z'), ('a', 'z')]), ("alpha", [('A', 'Z'), ('a', 'z')]),
    ("ascii", [('\x00', '\x7f')]), ("blank", [('\t', '\t'), (' ', ' ')]),
    ("cntrl", [('\x00', '\x1f'), ('\x7f', '\x7f')]), ("digit", [('0', '9')]),
    ("graph", [('!', '~')]), ("lower", [('a', 'z')]), ("print", [(' ', '~')]),
    ("punct", [('!', '/'), (':', '@'), ('[', '\x60'), ('{', '~')]),
    ("space", [('\t', '\r'), (' ', ' ')]), ("upper", [('A', 'Z')]),
    ("word", [('0', '9'), ('A', 'Z'), ('_', '_'), ('a', 'z')]),
    ("xdigit", [('0', '9'), ('A', 'F'), ('a', 'f')])]

/-- The characters that mean something of their own unless a backslash stands before them. -/
def isMeta (c : Char) : Bool :=
  "\\.+*?()|[]{}^$#&-~".toList.contains c

/-- Whether a backslash before the character may stand there without need. -/
def isEscapable (c : Char) : Bool :=
  isMeta c || (decide (c.toNat < 0x80) && !c.isAlphanum && c != '<' && c != '>')

def namedClass? : Char → Option LetterClass
  | 'd' => some .digit
  | 's' => some .space
  | 'w' => some .word
  | _ => none

def scalar? (n : Nat) : Option Char :=
  if n.isValidChar then some (Char.ofNat n) else none

/-- So many hexadecimal digits, or what is left of them. -/
def hexDigits (start : Nat) : Nat → List Char → Reading Char
  | 0, digits => do
    match scalar? (Text.natOfDigits 16 digits) with
    | some c => return c
    | none => fail .hexInvalid start (← here)
  | left + 1, digits => do
    match ← peek with
    | none => failHere .escapeUnfinished 0
    | some d =>
      if !Text.isDigitIn 16 d then failHere .hexDigit 1
      let _ ← next
      hexDigits start left (digits ++ [d])

/-- Characters up to a closing brace, each of which must pass. -/
def braced (passes : Char → Reading Unit) : Nat → List Char → Reading (List Char)
  | 0, taken => return taken
  | bound + 1, taken => do
    match ← peek with
    | none => return taken
    | some '}' => return taken
    | some c =>
      passes c
      let _ ← next
      braced passes bound (taken ++ [c])

/-- A character by its number, after the letter that announces it; the answer tells whether it is
written in braces. -/
def hexEscape (digits : Nat) : Reading (Char × Bool) := do
  if !(← next) then failHere .escapeUnfinished 0
  let brace ← here
  if (← peek) != some '{' then return (← hexDigits brace digits [], false)
  else
    let _ ← next
    let taken ← braced (fun c => if Text.isDigitIn 16 c then pure () else failHere .hexDigit 1)
      (← get).rest.length []
    if (← peek).isNone then fail .escapeUnfinished brace (← here)
    let stop ← here
    let _ ← next
    if taken = [] then fail .hexEmpty brace (← here)
    match if taken.length ≤ 8 then scalar? (Text.natOfDigits 16 taken) else none with
    | some c => return (c, true)
    | none => fail .hexInvalid (brace + 1) stop

/-- The name of a property, after the letter that announces it. -/
def propertyName : Reading (List Char) := do
  if !(← next) then failHere .escapeUnfinished 0
  match ← peek with
  | some '{' => do
    let _ ← next
    let taken ← braced (fun _ => pure ()) (← get).rest.length []
    if (← peek).isNone then failHere .escapeUnfinished 0
    advance 1
    return taken
  | some '\\' => failHere .propertyInvalid 1
  | c => do
    let _ ← next
    return c.toList

/-- The kind of word edge that stands in braces after `\b`, unless they count repetitions. -/
def specialEdge (start : Nat) : Reading (Option WordPlace) := do
  let before ← get
  let isNameChar (c : Char) : Bool := c.isAlpha || c == '-'
  if !(← next) then fail .edgeUnfinished start (← here)
  let inside ← here
  if !(← peek).any isNameChar then
    set before
    return none
  let name := (← get).rest.takeWhile isNameChar
  advance name.length
  if (← peek) != some '}' then fail .edgeUnclosed before.position (← here)
  let stop ← here
  advance 1
  match String.ofList name with
  | "start" => return some .start
  | "end" => return some .stop
  | "start-half" => return some .noneBefore
  | "end-half" => return some .noneAfter
  | _ => fail .edgeUnknown inside stop

/-- The character that an escape of one letter stands for. -/
def letterEscape? : Char → Option Char
  | 'a' => some '\x07'
  | 'f' => some '\x0c'
  | 't' => some '\t'
  | 'n' => some '\n'
  | 'r' => some '\r'
  | 'v' => some '\x0b'
  | _ => none

def conditionEscape? : Char → Option Condition
  | 'A' => some .textStart
  | 'z' => some .textEnd
  | 'B' => some (.word .noEdge)
  | '<' => some (.word .start)
  | '>' => some (.word .stop)
  | _ => none

/-- What a backslash and what follows it stand for. -/
def escape : Reading Written := do
  let start ← here
  advance 1
  let letter (c : Char) (isOctet : Bool) : Reading Written := do
    return .letter ⟨c, isOctet, ⟨start, ← here⟩⟩
  let hex (digits : Nat) : Reading Written := do
    let (c, isBraced) ← hexEscape digits
    letter c (digits = 2 ∧ ¬ isBraced)
  match ← peek with
  | none => fail .escapeUnfinished start (← here)
  | some c =>
    if c.isDigit then fail .backReference start ((← here) + 1)
    if c = 'x' then return ← hex 2
    if c = 'u' then return ← hex 4
    if c = 'U' then return ← hex 8
    if c = 'p' ∨ c = 'P' then
      let name ← propertyName
      return .set (.property ⟨start, ← here⟩ (c = 'P') name)
    advance 1
    if isEscapable c then return ← letter c false
    if let some k := namedClass? c then return .set (.named ⟨start, ← here⟩ false k)
    if let some k := if c.isUpper then namedClass? c.toLower else none then
      return .set (.named ⟨start, ← here⟩ true k)
    if let some d := letterEscape? c then return ← letter d false
    if let some a := conditionEscape? c then return .condition ⟨start, ← here⟩ a
    if c != 'b' then fail .escapeUnknown start (← here)
    let edge ← if (← peek) == some '{' then specialEdge start else pure none
    return .condition ⟨start, ← here⟩ (.word (edge.getD .edge))

/-! Sets in brackets -/

/-- Items side by side; one alone is itself. -/
def SetItem.ofItems (place : Span) : List SetItem → SetItem
  | [] => .empty place
  | [item] => item
  | list => .items place list

/-- What has been read of a set in brackets. -/
structure OpenSet where
  start : Nat
  /-- The place that is blamed if no bracket closes it. -/
  place : Span
  isNegated : Bool
  /-- The items after the last operator, latest first. -/
  items : List SetItem := []
  /-- Where the items began, if there are none yet. -/
  itemsStart : Nat
  pending : Option (SetOperator × SetItem) := none

namespace OpenSet

def add (s : OpenSet) (item : SetItem) : OpenSet :=
  { s with items := item :: s.items }

/-- The items side by side. -/
def joined (s : OpenSet) : SetItem :=
  let list := s.items.reverse
  let place : Span := match list.head?, s.items.head? with
    | some first, some last => ⟨first.place.start, last.place.stop⟩
    | _, _ => ⟨s.itemsStart, s.itemsStart⟩
  .ofItems place list

/-- The items with the operator that waits for its right side. -/
def value (s : OpenSet) : SetItem :=
  match s.pending with
  | none => s.joined
  | some (o, left) => .operation ⟨left.place.start, s.joined.place.stop⟩ o left s.joined

def operator (s : OpenSet) (o : SetOperator) (stop : Nat) : OpenSet :=
  { s with items := [], itemsStart := stop, pending := some (o, s.value) }

def close (s : OpenSet) (stop : Nat) : SetItem :=
  .bracketed ⟨s.start, stop⟩ s.isNegated s.value

end OpenSet

/-- The dashes at the front of a set, which stand for themselves. -/
def leadingDashes (start : Nat) : Nat → List SetItem → Reading (List SetItem)
  | 0, items => return items
  | bound + 1, items => do
    if (← peek) != some '-' then return items
    let place ← here
    if !(← next) then fail .classUnclosed start start
    leadingDashes start bound (.letter ⟨'-', false, ⟨place, place + 1⟩⟩ :: items)

/-- The start of a set. A bracket that would close an empty set stands for itself. -/
def openSet : Reading OpenSet := do
  let start ← here
  if !(← next) then fail .classUnclosed start (← here)
  let isNegated := (← peek) == some '^'
  if isNegated then
    if !(← next) then fail .classUnclosed start (← here)
  let first ← here
  let items ← leadingDashes start (← get).rest.length []
  if items.isEmpty && (← peek) == some ']' then
    if !(← next) then fail .classUnclosed start (← here)
    let bracket : SetItem := .letter ⟨']', false, ⟨first, first + 1⟩⟩
    return ⟨start, ⟨start, ← here⟩, isNegated, [bracket], first, none⟩
  return ⟨start, ⟨start, ← here⟩, isNegated, items, first, none⟩

/-- An ASCII class in brackets and colons, if one stands at the cursor: the set, whether it is
negated, and its width. -/
def asciiClass? (rest : List Char) : Option (CharSet × Bool × Nat) :=
  match rest with
  | '[' :: ':' :: inside =>
    let isNegated := inside.head? == some '^'
    let name := (if isNegated then inside.tail else inside).takeWhile (· != ':')
    let width := 2 + (if isNegated then 1 else 0) + name.length
    if (rest.drop width).take 2 = [':', ']'] then
      (asciiSets.lookup (String.ofList name)).map fun ranges =>
        (.ofRanges ranges, isNegated, width + 2)
    else none
  | _ => none

/-- One end of a range, or an item alone. -/
def setEnd : Reading Written := do
  let start ← here
  match ← peek with
  | some '\\' => escape
  | c => do
    advance 1
    return .letter ⟨c.getD ' ', false, ⟨start, ← here⟩⟩

/-- What has been read, as an item of a set. -/
def itemOf : Written → Reading SetItem
  | .letter l => return .letter l
  | .set s => return s
  | w => fail .classEscape w.place.start w.place.stop

/-- What has been read, as one end of a range. -/
def letterOf : Written → Reading Letter
  | .letter l => return l
  | w => fail .classRangeBound w.place.start w.place.stop

/-- An item or a range of a set that is still open. -/
def setRange (place : Span) : Reading SetItem := do
  let low ← setEnd
  skipSpace
  match ← peek with
  | none => fail .classUnclosed place.start place.stop
  | some c =>
    let following ← peekNext
    if c != '-' || following == some ']' || following == some '-' then itemOf low
    else
      if !(← next) then fail .classUnclosed place.start place.stop
      let high ← setEnd
      let first ← letterOf low
      let last ← letterOf high
      if last.char < first.char then fail .classRange first.place.start last.place.stop
      return .range first last

/-- The rest of a set in brackets. -/
def setItems : Nat → OpenSet → Reading SetItem
  | 0, s => return s.close (← here)
  | bound + 1, s => do
    skipSpace
    let c ← get
    match c.rest with
    | [] => fail .classUnclosed s.place.start s.place.stop
    | '[' :: _ =>
      match asciiClass? c.rest with
      | some (named, isNegated, width) =>
        advance width
        setItems bound (s.add (.ascii ⟨c.position, c.position + width⟩ isNegated named))
      | none =>
        let inner ← setItems bound (← openSet)
        setItems bound (s.add inner)
    | ']' :: _ =>
      advance 1
      return s.close (← here)
    | '&' :: '&' :: _ =>
      advance 2
      setItems bound (s.operator .meet (← here))
    | '-' :: '-' :: _ =>
      advance 2
      setItems bound (s.operator .without (← here))
    | '~' :: '~' :: _ =>
      advance 2
      setItems bound (s.operator .differ (← here))
    | _ =>
      let item ← setRange s.place
      setItems bound (s.add item)

/-- A character, an escape, a point or a condition. -/
def atom : Reading Written := do
  let start ← here
  let place : Span := ⟨start, start + 1⟩
  match ← peek with
  | some '\\' => escape
  | some '.' => advance 1; return .point place
  | some '^' => advance 1; return .condition place .lineStart
  | some '$' => advance 1; return .condition place .lineEnd
  | c => advance 1; return .letter ⟨c.getD ' ', false, place⟩

/-- What a bracket opens: a group, or flags for the group around it. -/
inductive Opening where
  | group (changes : Option FlagChanges)
  | flags (changes : FlagChanges)

/-- The flags before and after a dash, from the letters latest first. -/
def flagChanges (seen : List Char) : FlagChanges :=
  let letters := seen.reverse
  let on := letters.takeWhile (· != '-')
  on.map (·, true) ++ (letters.drop (on.length + 1)).map (·, false)

/-- Flags up to a colon or a closing bracket: the letters and where they stand, latest first. -/
def flagLetters : Nat → List (Char × Nat) → Reading (List (Char × Nat))
  | 0, seen => return seen
  | bound + 1, seen => do
    match ← peek with
    | none => failHere .flagMissing 0
    | some c =>
      if c = ':' ∨ c = ')' then
        match seen.head? with
        | some ('-', place) => fail .flagDangling place (place + 1)
        | _ => return seen
      else
        let place ← here
        if !"imsUuRx-".toList.contains c then failHere .flagUnknown 1
        if let some first := seen.lookup c then
          throw ⟨if c = '-' then .flagNegatedTwice else .flagTwice, ⟨place, place + 1⟩,
            some ⟨first, first + 1⟩⟩
        advance 1
        flagLetters bound ((c, place) :: seen)

/-- The characters with which names of groups begin, and those with which they go on. -/
def isNameStart (c : Char) : Bool :=
  c == '_' || Unicode.alphabetic.contains c

def isNameChar (c : Char) : Bool :=
  isNameStart c || "[].".toList.contains c || (Unicode.categorySet "N").contains c

/-- The name of a group, up to its closing bracket. -/
def groupName : Reading Unit := do
  let start ← here
  let rest := (← get).rest
  let name := match rest with
    | c :: after => if isNameStart c then c :: after.takeWhile isNameChar else []
    | [] => []
  advance name.length
  match ← peek with
  | none => failHere .nameUnclosed 0
  | some '>' =>
    advance 1
    if name = [] then fail .nameEmpty start start
    let place : Span := ⟨start, start + name.length⟩
    if let some first := (← get).names.lookup name then
      throw ⟨.nameTwice, place, some first⟩
    modify fun c => { c with names := (name, place) :: c.names }
  | some _ => failHere .nameInvalid 1

/-- The opening bracket of a group and what belongs to it. -/
def opening : Reading Opening := do
  let start ← here
  advance 1
  skipSpace
  if (← accept "?=") || (← accept "?!") || (← accept "?<=") || (← accept "?<!") then
    fail .lookAround start (← here)
  let inside ← here
  if (← accept "?P<") || (← accept "?<") then
    groupName
    return .group none
  if !(← accept "?") then return .group none
  if (← peek).isNone then fail .groupUnclosed start (start + 1)
  let seen ← flagLetters ((← get).rest.length + 1) []
  let changes := flagChanges (seen.map (·.1))
  let isGroup := (← peek) == some ':'
  advance 1
  if isGroup then return .group (some changes)
  if seen = [] then fail .nothingRepeated inside inside
  return .flags changes

/-- What has been read of a group: the branches before, and the items of the last one, both latest
first. -/
structure OpenGroup where
  branches : List Written := []
  items : List Written := []
  /-- Where the last branch begins. -/
  branchStart : Nat
  start : Nat := branchStart

namespace OpenGroup

/-- The items of the last branch, one after the other. -/
def branch (g : OpenGroup) (stop : Nat) : Written :=
  match g.items with
  | [] => .empty ⟨g.branchStart, stop⟩
  | [a] => a
  | items => .seq ⟨g.branchStart, stop⟩ items.reverse

def close (g : OpenGroup) (stop : Nat) : Written :=
  match g.branches with
  | [] => g.branch stop
  | branches => .alt ⟨g.start, stop⟩ (branches.reverse ++ [g.branch stop])

/-- Goes on after a bar, which stands at a place. -/
def nextBranch (g : OpenGroup) (bar : Nat) : OpenGroup :=
  { g with branches := g.branch bar :: g.branches, items := [], branchStart := bar + 1 }

def add (g : OpenGroup) (w : Written) : OpenGroup :=
  { g with items := w :: g.items }

/-- Repeats the last item, which there must be. -/
def repeatLast (g : OpenGroup) (stop least : Nat) (most : Option Nat) : OpenGroup :=
  match g.items with
  | a :: before =>
    { g with items := .repeated ⟨a.place.start, stop⟩ a least most :: before }
  | [] => g

/-- Whether there is an item that can be repeated. -/
def mayRepeat (g : OpenGroup) : Bool :=
  match g.items with
  | [] => false
  | .flags .. :: _ => false
  | _ => true

end OpenGroup

/-- A number in decimal digits, with blanks around it. -/
def decimal : Reading Nat := do
  let blanks := (← get).rest.takeWhile Text.isBlank
  advance blanks.length
  let start ← here
  let digits := (← get).rest.takeWhile Char.isDigit
  advance digits.length
  let stop ← here
  advance ((← get).rest.takeWhile Text.isBlank).length
  if digits = [] then fail .countEmpty start stop
  if 0x100000000 ≤ Text.natOfDigits 10 digits then fail .decimalInvalid start stop
  return Text.natOfDigits 10 digits

/-- A question mark after a repetition says which match is chosen; that is left open here. -/
def skipChoice : Reading Unit := do
  if (← peek) == some '?' then advance 1

/-- How often the item before the braces is repeated. A number that is missing is a fault only once
the braces go on as if it were there. -/
def counts : Reading (Nat × Option Nat) := do
  let start ← here
  if !(← next) then fail .countUnclosed start (← here)
  let before ← get
  let (first, after) : Except Fault Nat × Cursor :=
    match decimal.run before with
    | .ok (n, c) => (.ok n, c)
    | .error f =>
      let skipped := (before.rest.takeWhile fun c => Text.isBlank c || c.isDigit).length
      (.error f,
        { before with rest := before.rest.drop skipped, position := before.position + skipped })
  set after
  let (least, most) ← match ← peek with
    | none => fail .countUnclosed start (← here)
    | some ',' => do
      if !(← next) then fail .countUnclosed start (← here)
      if (← peek) == some '}' then
        let n ← first
        pure (n, none)
      else
        let n ← first
        let m ← decimal
        pure (n, some m)
    | some _ => do
      let n ← first
      pure (n, some n)
  if (← peek) != some '}' then fail .countUnclosed start (← here)
  let _ ← next
  skipChoice
  if most.any (· < least) then fail .countOrder start (← here)
  return (least, most)

/-- Sets up the flag that matters for reading. -/
def applySpaced (changes : FlagChanges) : Reading Unit :=
  match changes.lookup 'x' with
  | some isSpaced => modify fun c => { c with isSpaced := isSpaced }
  | none => return ()

/-- The rest of a group, which started at a place unless it is the whole expression. -/
def readGroup : Nat → Option Nat → OpenGroup → Reading Written
  | 0, _, g => return g.close (← here)
  | bound + 1, start, g => do
    skipSpace
    let place ← here
    match ← peek with
    | none =>
      match start with
      | none => return g.close place
      | some opened => fail .groupUnclosed opened (opened + 1)
    | some '(' =>
      let outer := (← get).isSpaced
      match ← opening with
      | .flags changes =>
        applySpaced changes
        readGroup bound start (g.add (.flags ⟨place, ← here⟩ changes))
      | .group changes =>
        applySpaced (changes.getD [])
        let inner ← readGroup bound (some place) { branchStart := ← here }
        modify fun c => { c with isSpaced := outer }
        advance 1
        readGroup bound start (g.add (.group ⟨place, ← here⟩ changes inner))
    | some ')' =>
      if start.isNone then failHere .groupUnopened 1
      return g.close place
    | some '|' =>
      advance 1
      readGroup bound start (g.nextBranch place)
    | some '[' =>
      let s ← setItems ((← get).rest.length + 1) (← openSet)
      readGroup bound start (g.add (.set s))
    | some c =>
      if c = '?' ∨ c = '*' ∨ c = '+' then
        if !g.mayRepeat then failHere .nothingRepeated 0
        advance 1
        skipChoice
        readGroup bound start
          (g.repeatLast (← here) (if c = '+' then 1 else 0) (if c = '?' then some 1 else none))
      else if c = '{' then
        if !g.mayRepeat then failHere .nothingRepeated 0
        let (least, most) ← counts
        readGroup bound start (g.repeatLast (← here) least most)
      else
        let a ← atom
        readGroup bound start (g.add a)

/-- Reads what a text writes. -/
def read (pattern : String) : Except Fault Written :=
  ((readGroup (pattern.toList.length + 1) none { branchStart := 0 }).run
    { rest := pattern.toList }).map (·.1)

end LoweringAudit.Regex
