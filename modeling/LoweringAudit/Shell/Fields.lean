import LoweringAudit.Shell.Pattern
/-!
Cutting words into fields. A word that is put together has pieces that are taken as they are and
pieces that are searched for separators. Blank separators at the start of a field are dropped, and a
run of blanks around one other separator counts as that one; arguments that are a field each are
kept apart by gaps.
-/
namespace LoweringAudit.Shell

/-- What is kept between arguments that are a field each. -/
def gap : Char := '\x00'

inductive Piece where
  /-- Taken as it is. -/
  | fixed (gs : List Glyph)
  /-- Cut at separators and gaps. -/
  | loose (gs : List Glyph)
  /-- Cut at gaps alone. -/
  | gapped (gs : List Glyph)
  deriving DecidableEq, Repr

def Piece.glyphs : Piece → List Glyph
  | fixed gs => gs
  | loose gs => gs
  | gapped gs => gs

/-- The text that pieces make where they are not cut. -/
def Piece.text (ps : List Piece) : List Char :=
  Glyph.text (ps.flatMap glyphs)

/-- Fields that are closed, latest first, and what there is of the next one, latest first. -/
structure Cutting where
  closed : List (List Glyph) := []
  current : List Glyph := []
  /-- A blank has closed a field; more blanks and one other separator go with it. -/
  isPending : Bool := false
  /-- How many fields may still be closed. -/
  left : Option Nat := none
  /-- Where the end of the last field can be dropped, as what stands before it. -/
  trimmed : Option (List Glyph) := none
  /-- Whether the last piece searched was cut at gaps alone. -/
  wasGapped : Bool := false

namespace Cutting

def isSeparator (separators : List Char) (c : Char) : Bool :=
  separators.contains c || c == gap

def isBlankSeparator (separators : List Char) (c : Char) : Bool :=
  isSeparator separators c && (isBlank c || c == gap)

/-- A character that belongs to the last field allowed: blanks at its end are dropped, and a
separator alone. -/
def addLast (separators : List Char) (k : Cutting) (g : Glyph) (c : Char) : Cutting :=
  let trimmed :=
    if isBlankSeparator separators c then k.trimmed.getD k.current
    else if isSeparator separators c && k.isPending then k.trimmed.getD k.current
    else []
  let keeps := isBlankSeparator separators c ||
    (isSeparator separators c && k.isPending && k.trimmed.isSome)
  { k with
    current := g :: k.current
    isPending := k.isPending && isBlankSeparator separators c
    trimmed := if keeps then some trimmed else none }

/-- A character of a piece that is searched. -/
def add (separators : List Char) (afterGaps : Bool) (k : Cutting) (g : Glyph) : Cutting :=
  match g.char? with
  | none => { k with current := g :: k.current, isPending := false }
  | some c =>
    if k.left = some 0 then addLast separators k g c
    else if k.isPending && isBlankSeparator separators c then k
    else if k.isPending && isSeparator separators c then { k with isPending := false }
    else if isSeparator separators c then
      let isBlank := !afterGaps && isBlankSeparator separators c
      if k.current.isEmpty && isBlank then { k with isPending := false }
      else if k.left = some 1 then
        { k with left := some 0, trimmed := some k.current, current := g :: k.current,
                 isPending := isBlank }
      else
        { k with closed := k.current.reverse :: k.closed, current := [], isPending := isBlank,
                 left := k.left.map (· - 1) }
    else { k with current := g :: k.current, isPending := false }

def addPiece (separators : List Char) (k : Cutting) : Piece → Cutting
  | .fixed gs => { k with current := gs.reverse ++ k.current }
  | .loose gs =>
    { gs.foldl (add separators k.wasGapped) { k with isPending := false } with wasGapped := false }
  | .gapped gs =>
    { gs.foldl (add [] true) { k with isPending := false } with wasGapped := true }

def fields (k : Cutting) : List (List Glyph) :=
  let last := (k.trimmed.getD k.current).reverse
  if last.isEmpty && !k.wasGapped then k.closed.reverse else (last :: k.closed).reverse

end Cutting

/-- The fields of pieces, no more than a number if there is one. -/
def cutFields (separators : List Char) (most : Option Nat) (ps : List Piece) :
    List (List Glyph) :=
  (ps.foldl (Cutting.addPiece separators) { left := most }).fields

end LoweringAudit.Shell
