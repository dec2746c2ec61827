import LoweringAudit.Shell.Arithmetic
import LoweringAudit.Shell.Fields
import LoweringAudit.Shell.State
/-!
What words stand for. The parts of a word become pieces; pieces become one text, a pattern, or
fields, of which those that are patterns give way to the paths that fit them. What a command writes
is had from a function that is given.
-/
namespace LoweringAudit.Shell

open Act

/-- Runs a script and gives what it writes. -/
abbrev Capture := Script → Act (List Char)

/-- Text as a piece: between quotes it is kept, outside it is cut. -/
def pieceOf (inQuotes : Bool) (s : List Char) : Piece :=
  if inQuotes then .fixed (s.map .kept) else .loose (s.map .plain)

/-- What a parameter without a value is an error for. -/
def demandsValue (s : Session) (p : Parameter) (text : Option String) : Bool :=
  text.isNone && s.isOn "nounset" && p != .each && p != .joined

/-- The text of a parameter; a missing one is empty, where that is allowed. -/
def valueText (p : Parameter) : Act String := do
  let text ← parameterText p
  if demandsValue (← session) p text then fail (parameterName p ++ ": parameter not set") 2
  return text.getD ""

/-- The characters of a value, with gaps between arguments that become fields each. -/
def valueChars (isFull : Bool) (p : Parameter) (inQuotes : Bool) : Act (List Char) := do
  let text ← valueText p
  let s ← session
  let arguments (separator : Char) : List Char :=
    [separator].intercalate (s.arguments.map String.toList)
  let isCut := isFull && ((p == .each) || (p == .joined && !inQuotes))
  if !isCut then return text.toList
  return arguments (if inQuotes || (s.value? "IFS").isSome then gap else ' ')

/-- The pieces of what is left of a value. -/
def leftPieces (isFull : Bool) (p : Parameter) (inQuotes : Bool) (left : List Char) :
    Act (List Piece) := do
  if isFull && inQuotes && p == .each then
    return if (← session).arguments.isEmpty then [] else [.gapped (left.map .kept)]
  else return [pieceOf inQuotes left]

/-- The pieces of a value. Arguments become fields each where the word is cut into fields. -/
def valuePieces (isFull : Bool) (p : Parameter) (inQuotes : Bool) : Act (List Piece) := do
  leftPieces isFull p inQuotes (← valueChars isFull p inQuotes)

/-- A text without what fits a pattern at its start or end. What is compared with the pattern ends
at a gap. -/
def trim (pattern : List Glyph) (atEnd longest : Bool) (text : List Char) : List Char :=
  if !text.contains gap then
    if atEnd then Pattern.dropEnd pattern longest text else Pattern.dropStart pattern longest text
  else
    let upToGap (s : List Char) : List Char := s.takeWhile (· != gap)
    let places := List.range (text.length + 1)
    if atEnd then
      let starts := places.filter fun i => Pattern.fits pattern (upToGap (text.drop i))
      match if longest then starts.min? else starts.max? with
      | some i => text.take i
      | none => text
    else
      let ends := places.filter fun i => Pattern.fits pattern (upToGap (text.take i))
      match if longest then ends.max? else ends.min? with
      | some i => text.drop i
      | none => text

/-- The text for a tilde and a name after it, if it stands for a directory. -/
def homeOf? (s : Session) (name : List Char) : Option String :=
  if name = [] then s.value? "HOME"
  else if name = "root".toList then some "/root"
  else none

/-- A tilde at the start of a text, up to a slash. -/
def expandTilde (s : Session) (isWhole : Bool) (text : List Char) : List Part :=
  match text with
  | '~' :: rest =>
    let name := rest.takeWhile fun c => c != '/' && c != ':'
    let after := rest.drop name.length
    match if after = [] ∧ ¬ isWhole then none else homeOf? s name with
    | some home => [.text home.toList true, .text after false]
    | none => [.text text false]
  | text => [.text text false]

/-- The word with a directory for a tilde at its start. -/
def tildes (s : Session) (w : Word) : Word :=
  match w with
  | .text text false :: rest => expandTilde s rest.isEmpty text ++ rest
  | w => w

/-- The words of an assigned value, in which a tilde counts after each colon too. -/
def assignedTildes (s : Session) (w : Word) : Word :=
  match w with
  | .text text false :: rest =>
    let parts := text.splitOn ':'
    let last := parts.length - 1
    ((parts.zipIdx.flatMap fun (part, i) =>
        (if i = 0 then [] else [Part.text [':'] false]) ++
          expandTilde s (i < last || rest.isEmpty) part) ++ rest)
  | w => w

/-- The value of a sum as text, with what it assigns assigned. -/
def sumText (sum : List Char) : Act (List Char) := do
  let s ← session
  let text := String.ofList sum
  match Arithmetic.evaluate text s.value? with
  | .error f => fail (f.message text) 2
  | .ok (n, assigned) =>
    for (name, n) in assigned do assign name (toString n)
    return (toString n).toList

/-- What a guard without a value says. -/
def guardMessage (p : Parameter) (emptyIsMissing : Bool) (text : Option (List Char)) : String :=
  parameterName p ++ ": " ++ match text with
    | some text => String.ofList text
    | none => "parameter not set" ++ if emptyIsMissing then " or null" else ""

/-- The pieces of a word. Words in words go no deeper than a bound; `cutsText` where the word itself
is text that is put in. -/
def pieces (capture : Capture) : Nat → Bool → Bool → Word → Act (List Piece)
  | 0, _, _, _ => return []
  | n + 1, isFull, cutsText, w => do
    let mut all : List Piece := []
    for part in w do
      let found : List Piece ← match part with
        | .text s true => pure [.fixed (s.map .kept)]
        | .text s false =>
          pure [if cutsText then .loose (s.map .plain) else .fixed (s.map .plain)]
        | .mark => pure [.fixed [.mark]]
        | .value p inQuotes => valuePieces isFull p inQuotes
        | .size p inQuotes =>
          let text ← valueText p
          pure [pieceOf inQuotes (toString text.toList.length).toList]
        | .guarded p guard emptyIsMissing w inQuotes =>
          let inside := pieces capture n
          let text ← parameterText p
          let isMissing := text.isNone || (emptyIsMissing && text == some "")
          match guard with
          | .orElse =>
            if isMissing then inside isFull (!inQuotes) (tildes (← session) w)
            else valuePieces isFull p inQuotes
          | .whenSet =>
            if isMissing then pure [] else inside isFull (!inQuotes) (tildes (← session) w)
          | .orAssign =>
            if isMissing then
              let value := Piece.text (← inside false false (tildes (← session) w))
              match p with
              | .named name => assign name (String.ofList value)
              | p => fail (parameterName p ++ ": bad variable name") 2
            valuePieces isFull p inQuotes
          | .orFail =>
            if isMissing then
              let said ←
                if w.isEmpty then pure none
                else some <$> (Piece.text <$> inside false false (tildes (← session) w))
              fail (guardMessage p emptyIsMissing said) 2
            else valuePieces isFull p inQuotes
        | .trimmed p atEnd longest w inQuotes =>
          let text ← valueChars isFull p inQuotes
          let pattern :=
            (← pieces capture n false false (tildes (← session) w)).flatMap Piece.glyphs
          leftPieces isFull p inQuotes (trim pattern atEnd longest text)
        | .unreadable => fail "Bad substitution" 2
        | .output body inQuotes =>
          let text := (← capture body).filter (· != '\x00')
          pure [pieceOf inQuotes (text.reverse.dropWhile (· == '\n')).reverse]
        | .sum w inQuotes =>
          let text := Piece.text (← pieces capture n false false w)
          pure [pieceOf inQuotes (← sumText text)]
      all := all ++ found
    return all

/-- How deep words may stand in words. -/
def maxDepth : Nat := 1000

/-- A word as one text. -/
def wordText (capture : Capture) (w : Word) : Act (List Char) := do
  return Piece.text (← pieces capture maxDepth false false (tildes (← session) w))

/-- The value that a word gives a variable. -/
def assignedText (capture : Capture) (w : Word) : Act String := do
  return String.ofList
    (Piece.text (← pieces capture maxDepth false false (assignedTildes (← session) w)))

/-- A word as a pattern. -/
def wordPattern (capture : Capture) (w : Word) : Act (List Glyph) := do
  return (← pieces capture maxDepth false false (tildes (← session) w)).flatMap Piece.glyphs

/-- The names in a directory, in order. -/
def namesIn (t : FileTree) (location : Location) : List String :=
  let names := t.entries.filterMap fun (place, _) =>
    if place ≠ [] ∧ place.dropLast = location then place.getLast? else none
  names.eraseDups.mergeSort fun a b => decide (inside a ≤ inside b)

/-- The names between the slashes of a pattern. -/
def patternNames (gs : List Glyph) : List (List Glyph) :=
  (gs.filter (· != .mark)).splitBy fun a b => a.char? != some '/' && b.char? != some '/'

/-- The paths that begin as given, lead to a place and go on as patterns say. -/
def pathsFrom (t : FileTree) (start : String) (place : Location) :
    List (List Glyph) → List String
  | [] => [start]
  | name :: rest =>
    let text := Glyph.text name
    if text.head? = some '/' then pathsFrom t (start ++ String.ofList text) place rest
    else if Pattern.isOpen name then
      let fitting := (namesIn t place).filter fun s =>
        Pattern.fits name (inside s).toList &&
          (s.toList.head? != some '.' || text.head? == some '.')
      fitting.flatMap fun s =>
        let next := place ++ [s]
        if rest = [] ∨ t.get? next = some .directory then
          pathsFrom t (start ++ inside s) next rest
        else []
    else
      let next := if text = ['.'] then place
        else if text = ['.', '.'] then place.dropLast
        else place ++ [outside (String.ofList text)]
      if (t.get? next).isSome then pathsFrom t (start ++ String.ofList text) next rest else []

/-- The paths for a field that is a pattern, or its text if no path fits. -/
def fieldPaths (s : State) (gs : List Glyph) : List String :=
  let text := String.ofList (Glyph.text gs)
  if s.session.isOn "noglob" || !Pattern.isOpen gs then [text]
  else
    let start := if text.toList.head? = some '/' then [] else s.session.directory
    match pathsFrom s.world.tree "" start (patternNames gs) with
    | [] => [text]
    | paths => paths

/-- The fields of a word. -/
def wordFields (capture : Capture) (w : Word) : Act (List String) := do
  let ps ← pieces capture maxDepth true false (tildes (← session) w)
  let s ← get
  return (cutFields s.session.separators none ps).flatMap (fieldPaths s)

/-- The fields of words. -/
def allFields (capture : Capture) (ws : List Word) : Act (List String) := do
  return (← ws.mapM (wordFields capture)).flatten

end LoweringAudit.Shell
