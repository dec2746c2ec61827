import LoweringAudit.Regex.Basic
import LoweringAudit.Regex.Fault
/-!
Regular expressions as they are written: what stands where, before any flag has had its say and any
name has been looked up.
-/
namespace LoweringAudit.Regex

/-- A character by itself or by an escape. -/
structure Letter where
  char : Char
  /-- Written by two hexadecimal digits, which can stand for an octet. -/
  isOctet : Bool := false
  place : Span
  deriving DecidableEq, Repr

/-- The classes that single letters name. -/
inductive LetterClass where
  | digit | space | word
  deriving DecidableEq, Repr

inductive SetOperator where
  | meet | without | differ
  deriving DecidableEq, Repr

/-- What a set in brackets is made of, and sets that need no brackets. -/
inductive SetItem where
  | empty (place : Span)
  | letter (l : Letter)
  | range (low high : Letter)
  /-- A class by its name in brackets and colons. -/
  | ascii (place : Span) (isNegated : Bool) (set : CharSet)
  | named (place : Span) (isNegated : Bool) (c : LetterClass)
  | property (place : Span) (isNegated : Bool) (name : List Char)
  | bracketed (place : Span) (isNegated : Bool) (inside : SetItem)
  /-- Two items or more side by side. -/
  | items (place : Span) (list : List SetItem)
  | operation (place : Span) (o : SetOperator) (left right : SetItem)

def SetItem.place : SetItem → Span
  | empty p => p
  | letter l => l.place
  | range low high => ⟨low.place.start, high.place.stop⟩
  | ascii p .. => p
  | named p .. => p
  | property p .. => p
  | bracketed p .. => p
  | items p _ => p
  | operation p .. => p

/-- Conditions on a position as they are written; flags say what they come to. -/
inductive Condition where
  | lineStart | lineEnd | textStart | textEnd
  | word (place : WordPlace)
  deriving DecidableEq, Repr

/-- Flags that are set or cleared, by their letters. -/
abbrev FlagChanges := List (Char × Bool)

inductive Written where
  | empty (place : Span)
  | flags (place : Span) (changes : FlagChanges)
  | letter (l : Letter)
  | point (place : Span)
  | condition (place : Span) (c : Condition)
  | set (s : SetItem)
  | repeated (place : Span) (a : Written) (least : Nat) (most : Option Nat)
  /-- A group with flags of its own, or one that a match tells apart. -/
  | group (place : Span) (changes : Option FlagChanges) (a : Written)
  | alt (place : Span) (branches : List Written)
  | seq (place : Span) (items : List Written)

def Written.place : Written → Span
  | empty p => p
  | flags p _ => p
  | letter l => l.place
  | point p => p
  | condition p _ => p
  | set s => s.place
  | repeated p .. => p
  | group p .. => p
  | alt p _ => p
  | seq p _ => p

end LoweringAudit.Regex
