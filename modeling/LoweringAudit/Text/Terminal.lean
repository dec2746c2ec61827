/-!
Texts as they are written where no terminal reads them: without the control sequences of a terminal.
A sequence begins at an escape character and goes on to its last character, and one that is not
finished takes what follows it for a part of itself. Of the control characters outside sequences
only those that leave blank space are kept. Such a character in a sequence interrupts it: what
follows is kept up to the next character that is not shown, where the sequence goes on.
-/
namespace LoweringAudit.Text

/-- What has been begun of a control sequence. -/
inductive Sequence where
  /-- None is. -/
  | none
  /-- The escape character. -/
  | escape
  /-- Characters between the escape character and the last one. -/
  | intermediate
  /-- Parameters of a sequence that ends at a letter. -/
  | parameters
  /-- A string for the device is announced; parameters of it may follow. -/
  | deviceEntry
  | deviceParameters
  | deviceIntermediate
  /-- A string that ends at a string terminator. -/
  | string
  /-- A string for the operating system, which also ends at a bell. -/
  | systemString
  deriving DecidableEq, Repr

namespace Sequence

/-- The control characters that leave blank space: tab, line feed, form feed and return. -/
def isSpacing (c : Char) : Bool :=
  c == '\t' || c == '\n' || c == '\x0c' || c == '\r'

/-- Whether a character outside sequences is kept: it is no control character or leaves space. -/
def isShown (c : Char) : Bool :=
  (decide (0x20 ≤ c.toNat) && c != '\x7f') || isSpacing c

/-- Whether the octets of a character hold the string terminator. -/
def holdsTerminator (c : Char) : Bool :=
  (String.utf8EncodeChar c).contains 0x9C

/-- What stands after the escape character. -/
def afterEscape (c : Char) : Sequence :=
  if c = '[' then parameters
  else if c = ']' then systemString
  else if c = 'P' then deviceEntry
  else if c = 'X' ∨ c = '^' ∨ c = '_' then string
  else if 0x20 ≤ c.toNat ∧ c.toNat ≤ 0x2F then intermediate
  else if 0x30 ≤ c.toNat ∧ c.toNat ≤ 0x7E then none
  else escape

/-- Where the announcement of a device string stands after one of its characters. -/
def afterDevice (s : Sequence) (c : Char) : Sequence :=
  if c.toNat < 0x20 ∨ 0x7F ≤ c.toNat then s
  else if 0x40 ≤ c.toNat then string
  else if c.toNat < 0x30 then deviceIntermediate
  else if s = deviceIntermediate ∨ c = ':' then string
  else if 0x3C ≤ c.toNat ∧ s = deviceParameters then string
  else deviceParameters

/-- One character: where it leaves the sequence, and whether it is kept. -/
def step (s : Sequence) (c : Char) : Sequence × Bool :=
  if c = '\x1b' then (escape, false)
  else if c = '\x18' ∨ c = '\x1a' then (none, false)
  else
    match s with
    | none => (none, isShown c)
    | escape => if isSpacing c then (escape, true) else (afterEscape c, false)
    | intermediate =>
      if isSpacing c then (intermediate, true)
      else (if 0x30 ≤ c.toNat ∧ c.toNat ≤ 0x7E then none else intermediate, false)
    | parameters =>
      if isSpacing c then (parameters, true)
      else (if 0x40 ≤ c.toNat ∧ c.toNat ≤ 0x7E then none else parameters, false)
    | string => (if holdsTerminator c then none else string, false)
    | systemString => (if c = '\x07' then none else systemString, false)
    | s => (afterDevice s c, false)

end Sequence

/-- Where a text has come to: the sequence that it is in, and whether shown text interrupts that. -/
structure Progress where
  sequence : Sequence
  isInterrupted : Bool
  deriving DecidableEq, Repr

/-- One character: where it leads, and whether it is kept. A character beyond ASCII that interrupts a
sequence ends it. -/
def Progress.step (p : Progress) (c : Char) : Progress × Bool :=
  if p.isInterrupted = true ∧ Sequence.isShown c = true then
    (⟨if c.toNat < 0x80 then p.sequence else .none, true⟩, true)
  else
    let (s, isKept) := p.sequence.step c
    (⟨s, isKept⟩, isKept)

/-- What is kept of the rest of a text. -/
def plainFrom (p : Progress) : List Char → List Char
  | [] => []
  | c :: rest =>
    if (p.step c).2 then c :: plainFrom (p.step c).1 rest else plainFrom (p.step c).1 rest

/-- The text without control sequences. -/
def plain (text : List Char) : List Char :=
  plainFrom ⟨.none, false⟩ text

example : plain "a\x1b[31mred\x1b[0m\x01b".toList = "aredb".toList := by decide
example : plain "a\x1b[38;5;1 Pb\x1b\tc".toList = "ab\tc".toList := by decide
example : plain "a\x1b\tbc\x00[31md".toList = "a\tbcd".toList := by decide

end LoweringAudit.Text
