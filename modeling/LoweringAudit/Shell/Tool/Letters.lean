import LoweringAudit.Shell.Pattern
import LoweringAudit.Shell.Tool.Basic
/-!
Sets of characters, and the program that puts the characters of one for those of another.
-/
namespace LoweringAudit.Shell.Tool

open Act

/-- The characters that an array of them writes, with escapes, ranges and classes; a set may be
filled up with a character. -/
inductive SetItem where
  | chars (s : List Char)
  /-- A character as often as is asked for, or as is needed. -/
  | fill (c : Char) (count : Nat)
  | lowerCase
  | upperCase
  deriving DecidableEq, Repr

/-- A character with its escape read. -/
def setChar : List Char → Option (Char × Bool × List Char)
  | [] => none
  | '\\' :: rest =>
    match rest with
    | [] => some ('\\', false, [])
    | c :: after =>
      if Text.isDigitIn 8 c then
        let ds := leadingDigits 8 3 rest
        some (octetOf 8 ds, true, rest.drop ds.length)
      else
        match (if c = 'e' then none else letterEscape? c) with
        | some e => some (e, true, after)
        | none => some (c, true, after)
  | c :: rest => some (c, false, rest)

/-- All octets. -/
def allChars : List Char :=
  (List.range 256).map Char.ofNat

/-- The members of a named class, in order. -/
def classChars? (name : String) : Option (List Char) :=
  (Pattern.classes.lookup name).map fun ranges =>
    allChars.filter fun c => ranges.any fun (a, b) => decide (a ≤ c) && decide (c ≤ b)

/-- The items of a set; the bound is its length. -/
def setItems : Nat → List Char → Except String (List SetItem)
  | 0, _ => return []
  | _, [] => return []
  | n + 1, '[' :: ':' :: rest => do
    let name := rest.takeWhile (· != ':')
    match rest.drop name.length with
    | ':' :: ']' :: after =>
      let more ← setItems n after
      let name := String.ofList name
      if name = "lower" then return .lowerCase :: more
      if name = "upper" then return .upperCase :: more
      match classChars? name with
      | some cs => return .chars cs :: more
      | none => throw ("invalid character class '" ++ name ++ "'")
    | _ => return .chars ['['] :: (← setItems n (':' :: rest))
  | n + 1, '[' :: c :: '*' :: rest => do
    let count := rest.takeWhile Char.isDigit
    match rest.drop count.length with
    | ']' :: after =>
      let base := if count.head? = some '0' then 8 else 10
      return .fill c (Text.natOfDigits base count) :: (← setItems n after)
    | _ => return .chars ['['] :: (← setItems n (c :: '*' :: rest))
  | n + 1, s => do
    match setChar s with
    | none => return []
    | some (c, _, rest) =>
      match rest with
      | '-' :: more =>
        match setChar more with
        | some (d, _, after) =>
          if d < c then
            throw ("range-endpoints of '" ++ String.ofList [c, '-', d] ++
              "' are in reverse collating sequence order")
          let range := (List.range (d.toNat + 1 - c.toNat)).map fun i => Char.ofNat (c.toNat + i)
          return .chars range :: (← setItems n after)
        | none => return [.chars [c, '-']]
      | rest => return .chars [c] :: (← setItems n rest)

def itemChars : SetItem → List Char
  | .chars s => s
  | .fill c n => List.replicate n c
  | .lowerCase => (List.range 26).map fun i => Char.ofNat (97 + i)
  | .upperCase => (List.range 26).map fun i => Char.ofNat (65 + i)

def setChars (items : List SetItem) : List Char :=
  items.flatMap itemChars

/-- The second set, made as long as the first one. -/
def fitted (size : Nat) (cuts : Bool) (items : List SetItem) : List Char :=
  let known := (setChars items).length
  let items := items.map fun
    | .fill c 0 => .fill c (size - known)
    | item => item
  let s := setChars items
  match s.getLast? with
  | some last => if cuts then s else s ++ List.replicate (size - s.length) last
  | none => s

/-- Drops characters of a set that follow themselves. -/
def squeezeChars (set : List Char) : List Char → List Char
  | a :: b :: rest =>
    if a = b ∧ a ∈ set then squeezeChars set (b :: rest) else a :: squeezeChars set (b :: rest)
  | s => s

/-- What a text becomes under flags and sets. -/
def translated (c : Chosen) (first second : List SetItem) (text : List Char) :
    Except String (List Char) := do
  let own := setChars first
  let set := if c.has 'c' || c.has 'C' then allChars.filter (· ∉ own) else own
  if c.has 'd' then
    let kept := text.filter (· ∉ set)
    return if c.has 's' then squeezeChars (setChars second) kept else kept
  else if second = [] ∧ c.has 's' then return squeezeChars set text
  else
    if second = [] then throw "when not truncating set1, string2 must be non-empty"
    let targets := fitted set.length (c.has 't') second
    let table := (set.zip targets).reverse
    let changed := text.map fun ch => (table.lookup ch).getD ch
    return if c.has 's' then squeezeChars targets changed else changed

def translate : Tool :=
  withFlags
    { letters := "cCdst",
      long := [("complement", 'c'), ("delete", 'd'), ("squeeze-repeats", 's'),
        ("truncate-set1", 't')] }
    fun caller chosen sets => do
      let deletes := chosen.has 'd'
      let squeezes := chosen.has 's'
      let isLone := deletes != squeezes
      match sets with
      | [] => refuse caller "missing operand"
      | [a] =>
        if !isLone then
          let task := if deletes then "both deleting and squeezing repeats" else "translating"
          refuse caller ("missing operand after " ++ quotedText a ++
            "\nTwo strings must be given when " ++ task ++ ".")
        else go caller chosen a none
      | [a, b] =>
        if deletes && !squeezes then
          refuse caller ("extra operand " ++ quotedText b ++
            "\nOnly one string may be given when deleting without squeezing repeats.")
        else go caller chosen a (some b)
      | _ :: _ :: third :: _ => refuse caller ("extra operand " ++ quotedText third)
where
  go (caller : String) (chosen : Chosen) (a : String) (b : Option String) : Act Nat := do
    let items (s : String) : Except String (List SetItem) := setItems s.length s.toList
    let result := do
      let first ← items a
      let second ← match b with
        | some b => do
          let found ← items b
          let mayBeEmpty := found = [] ∧ (chosen.has 't' ∨ chosen.has 'd')
          pure (if mayBeEmpty then [SetItem.chars []] else found)
        | none => pure []
      return (first, second)
    match result with
    | .error message => blame caller message
    | .ok (first, second) =>
      let text ← readAll 0
      match translated chosen first second text with
      | .error message => blame caller message
      | .ok changed => emit caller changed 0

end LoweringAudit.Shell.Tool
