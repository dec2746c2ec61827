import LoweringAudit.Regex.Basic
import LoweringAudit.Regex.Octets
/-!
How much room an expression takes when it is made ready for search: the octets of the states of an
automaton that reads texts forward, and of one that reads them backward.
-/
namespace LoweringAudit.Regex

namespace Size

/-- What a state takes, and further for each interval that it reads and each way it may go. -/
def state : Nat := 32
def interval : Nat := 8
def way : Nat := 4

/-- A state with some ways to go. -/
def fork (ways : Nat) : Nat :=
  state + way * ways

/-- A state that reads some intervals. -/
def reader (intervals : Nat) : Nat :=
  state + interval * intervals

/-- The only character of a set. -/
def onlyChar? (s : CharSet) : Option Char :=
  match s.ranges with
  | [(low, high)] => if low = high then some (Char.ofNat low) else none
  | _ => none

/-- A set of one character is read octet by octet. -/
def ofSet (isBackward : Bool) (s : CharSet) : Nat :=
  match onlyChar? s with
  | some c => state * (Utf8.encode [c]).length
  | none =>
    if s.bounds.isEmpty then state
    else if s.isAscii then state + reader s.ranges.length
    else if isBackward then
      let all := Octets.encodings s
      fork all.length + state + state * Octets.backwardStates [] all
    else
      (Octets.states s).foldl (fun size n => size + reader n.length) state

/-- The states that read some texts, which share what they begin with. -/
def ofTexts : Nat → List (List UInt8) → Nat
  | 0, _ => 0
  | bound + 1, texts =>
    let going := texts.filter (!·.isEmpty)
    let heads := (going.filterMap List.head?).eraseDups
    let own := if heads.isEmpty then 0
      else if heads.length = 1 then state
      else reader heads.length
    let ending := if going.length < texts.length ∧ ¬ heads.isEmpty then fork 2 else 0
    heads.foldl (fun size h => size +
      ofTexts bound ((going.filter (·.head? = some h)).map List.tail)) (own + ending)

/-- What an expression comes to as a branch of a choice. -/
structure Branch where
  size : Nat
  /-- The text that it describes, if it is only one. -/
  text : Option (List Char) := none
  set : Option CharSet := none

/-- The set of branches that all are sets, or all single characters. -/
def setOf? (branches : List Branch) : Option CharSet :=
  let sets := branches.filterMap Branch.set
  let chars := branches.filterMap fun b => b.text.bind fun t => match t with
    | [c] => some c
    | _ => none
  if sets.length = branches.length then some (sets.foldr CharSet.join .empty)
  else if chars.length = branches.length then some (.ofChars chars)
  else none

/-- A choice of branches that is no set. -/
def ofBranches (isBackward : Bool) (branches : List Branch) : Nat :=
  let texts := branches.filterMap Branch.text
  if texts.length = branches.length then
    let octets := texts.map fun t =>
      let o := Utf8.encode t
      if isBackward then o.reverse else o
    state + ofTexts (octets.flatten.length + 1) octets
  else branches.foldl (fun size b => size + b.size) (fork branches.length + state)

/-- What an expression comes to. -/
structure Build where
  /-- Its room beside others in a row, where nothing takes none. -/
  row : Nat
  text : Option (List Char) := none
  set : Option CharSet := none
  /-- The branches of a choice. -/
  branches : Option (List Branch) := none

namespace Build

/-- The room by itself. -/
def size (b : Build) : Nat :=
  if b.row = 0 then state else b.row

def asBranches (b : Build) : List Branch :=
  b.branches.getD [⟨b.size, if b.row = 0 then none else b.text, b.set⟩]

end Build

end Size

open Size

/-- Whether it describes the empty text only. -/
def isVoid : Regex → Bool
  | empty => true
  | one _ => false
  | seq a b => a.isVoid && b.isVoid
  | alt a b => a.isVoid && b.isVoid
  | repeated a _ most => a.isVoid || most == some 0
  | anchor _ => true
  | group a => a.isVoid

/-- Whether it describes no empty text. -/
def isFull : Regex → Bool
  | empty => false
  | one s => !s.bounds.isEmpty
  | seq a b => a.isFull || b.isFull
  | alt a b => a.isFull && b.isFull
  | repeated a least _ => a.isFull && decide (0 < least)
  | anchor _ => false
  | group a => a.isFull

/-- The room of a repetition, from that of what is repeated. -/
def repeatedSize (isFull : Bool) (size least : Nat) : Option Nat → Nat
  | none =>
    if least = 0 then
      if isFull then fork 2 + size else size + 2 * fork 2 + state
    else least * size + fork 2
  | some most =>
    if least = 0 ∧ most = 1 then fork 2 + size + state
    else if least = most then least * size
    else (if least = 0 then state else least * size) + state + (most - least) * (fork 2 + size)

/-- What an expression comes to. Repeating nothing more than once is to no purpose. -/
def build (isBackward : Bool) : Regex → Build
  | empty => ⟨0, some [], none, none⟩
  | one s =>
    match onlyChar? s with
    | some c => ⟨ofSet isBackward s, some [c], none, none⟩
    | none => ⟨ofSet isBackward s, none, some s, none⟩
  | seq a b =>
    let x := a.build isBackward
    let y := b.build isBackward
    let text := do return (← x.text) ++ (← y.text)
    if x.row = 0 then y else if y.row = 0 then x else ⟨x.row + y.row, text, none, none⟩
  | alt a b =>
    let branches := (a.build isBackward).asBranches ++ (b.build isBackward).asBranches
    match setOf? branches with
    | some s => ⟨ofSet isBackward s, none, some s, none⟩
    | none => ⟨ofBranches isBackward branches, none, none, some branches⟩
  | repeated a least most =>
    let x := a.build isBackward
    let least := if a.isVoid then min least 1 else least
    let most := if a.isVoid then some ((most.getD 1).min 1) else most
    if most = some 0 then ⟨0, some [], none, none⟩
    else if least = 1 ∧ most = some 1 then x
    else ⟨repeatedSize a.isFull x.size least most, none, none, none⟩
  | anchor _ => ⟨state, none, none, none⟩
  | group a => ⟨(a.build isBackward).size + (if isBackward then 0 else 2 * state), none, none, none⟩

/-- Whether every match begins where the text begins. -/
def startsText : Regex → Bool
  | seq a b => a.startsText || (a.isVoid && b.startsText)
  | alt a b => a.startsText && b.startsText
  | repeated a least _ => a.startsText && decide (0 < least)
  | anchor a => a == .textStart
  | group a => a.startsText
  | _ => false

/-- Whether every match ends where the text ends. -/
def endsText : Regex → Bool
  | seq a b => b.endsText || (b.isVoid && a.endsText)
  | alt a b => a.endsText && b.endsText
  | repeated a least _ => a.endsText && decide (0 < least)
  | anchor a => a == .textEnd
  | group a => a.endsText
  | _ => false

/-- The room of the automaton for one direction. It may have to pass over text before a match; only
forward it remembers where the match is. -/
def sizeTowards (isBackward : Bool) (r : Regex) : Nat :=
  let isBound := if isBackward then r.endsText else r.startsText
  (if isBound then state else fork 2 + state + reader 1) + (r.build isBackward).size + state +
    if isBackward then 0 else 2 * state

/-- The room of the larger automaton. -/
def size (r : Regex) : Nat :=
  max (r.sizeTowards false) (r.sizeTowards true)

end LoweringAudit.Regex
