import LoweringAudit.Text.CharSet
/-!
Regular expressions and the texts they occur in. An expression leads from positions of a text to
positions of it; it occurs in the text if it leads from some position to any. How a match would be
chosen among several is left open, since only occurrence is asked for.
-/
namespace LoweringAudit

/-- Where words begin and end. -/
inductive WordPlace where
  | edge | noEdge | start | stop
  /-- No character of a word comes before, or after. -/
  | noneBefore | noneAfter
  deriving DecidableEq, Repr

/-- Conditions on a position. -/
inductive Anchor where
  | textStart | textEnd | lineStart | lineEnd
  /-- Lines may also end with a carriage return, which a line feed may follow. -/
  | returnStart | returnEnd
  | word (place : WordPlace) (chars : CharSet)
  deriving DecidableEq, Repr

inductive Regex where
  | empty
  | one (s : CharSet)
  | seq (a b : Regex)
  | alt (a b : Regex)
  /-- At least so often, and perhaps at most so often. -/
  | repeated (a : Regex) (least : Nat) (most : Option Nat)
  | anchor (a : Anchor)
  /-- A part that can be told apart from the rest of a match. -/
  | group (a : Regex)
  deriving DecidableEq, Repr

/-- The characters of words within ASCII. -/
def CharSet.asciiWord : CharSet :=
  .ofRanges [('0', '9'), ('A', 'Z'), ('_', '_'), ('a', 'z')]

/-- Whether a position that has words before and after it, or not, is such a place. -/
def WordPlace.holds (before after : Bool) : WordPlace → Bool
  | edge => before != after
  | noEdge => before == after
  | start => !before && after
  | stop => before && !after
  | noneBefore => !before
  | noneAfter => !after

/-- Whether a condition holds between the characters before and after a position. -/
def Anchor.holds (before after : Option Char) : Anchor → Bool
  | textStart => before.isNone
  | textEnd => after.isNone
  | lineStart => before.all (· == '\n')
  | lineEnd => after.all (· == '\n')
  | returnStart => before.all (· == '\n') || before == some '\r' && after != some '\n'
  | returnEnd => after.all (· == '\r') || after == some '\n' && before != some '\r'
  | word place chars => place.holds (before.any chars.contains) (after.any chars.contains)

namespace Regex

/-- The positions of two increasing lists, each once. -/
def merge : List Nat → List Nat → List Nat
  | [], t => t
  | s, [] => s
  | a :: s, b :: t =>
    if a < b then a :: merge s (b :: t)
    else if b < a then b :: merge (a :: s) t
    else a :: merge s t
termination_by s t => s.length + t.length

/-- What is reached by so many steps. -/
def iterate (step : List Nat → List Nat) : Nat → List Nat → List Nat
  | 0, s => s
  | n + 1, s =>
    let next := step s
    if next = s then s else iterate step n next

/-- What is reached by at most so many further steps from the positions reached last. -/
def spread (step : List Nat → List Nat) : Nat → List Nat → List Nat → List Nat
  | 0, reached, _ => reached
  | n + 1, reached, last =>
    let next := (step last).filter (!reached.contains ·)
    if next = [] then reached else spread step n (merge reached next) next

/-- The positions that an expression leads to from some positions of a text, in order. A text has no
more positions than its length and one, so that more steps than these reach nothing new. -/
def reach (text : Array Char) : Regex → List Nat → List Nat
  | empty, s => s
  | one set, s => s.filterMap fun i => text[i]?.bind fun c =>
      if set.contains c then some (i + 1) else none
  | seq a b, s => b.reach text (a.reach text s)
  | alt a b, s => merge (a.reach text s) (b.reach text s)
  | repeated a least most, s =>
    let first := iterate (a.reach text) least s
    spread (a.reach text) (most.elim (text.size + 1) (· - least)) first first
  | anchor a, s => s.filter fun i => a.holds (if i = 0 then none else text[i - 1]?) text[i]?
  | group a, s => a.reach text s

/-- Whether some part of a text is one that the expression describes. -/
def occursIn (r : Regex) (text : String) : Bool :=
  let chars := text.toList.toArray
  !(r.reach chars (List.range (chars.size + 1))).isEmpty

end Regex

end LoweringAudit
