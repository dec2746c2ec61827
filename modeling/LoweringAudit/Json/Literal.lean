import LoweringAudit.Text.Digits
/-!
JSON string literals, without their quotes. Written, a literal escapes the quote, the backslash and
the controls below U+0020, and nothing else. Read, its escapes give code units; two surrogate units
in a row, high before low, are one character.
-/
namespace LoweringAudit.Json.Literal

open LoweringAudit.Text (digitValue? lowerDigit)

def escape (c : Char) : List Char :=
  match c with
  | '"' => ['\\', '"']
  | '\\' => ['\\', '\\']
  | '\x08' => ['\\', 'b']
  | '\x0c' => ['\\', 'f']
  | '\n' => ['\\', 'n']
  | '\r' => ['\\', 'r']
  | '\t' => ['\\', 't']
  | c =>
    if c.toNat < 0x20 then
      ['\\', 'u', '0', '0', lowerDigit (c.toNat / 16), lowerDigit (c.toNat % 16)]
    else [c]

def write (s : List Char) : List Char :=
  s.flatMap escape

/-- The character that a one-letter escape stands for. -/
def shortEscape? : Char → Option Char
  | '"' => some '"'
  | '\\' => some '\\'
  | '/' => some '/'
  | 'b' => some '\x08'
  | 'f' => some '\x0c'
  | 'n' => some '\n'
  | 'r' => some '\r'
  | 't' => some '\t'
  | _ => none

/-- Where the reader stands: between characters, after a backslash, or within four digits. -/
inductive State where
  | between
  | escape
  | digits (left value : Nat)
  deriving DecidableEq, Repr

/-- The code units up to the closing quote, and what follows it. -/
def units : State → List Char → Option (List Nat × List Char)
  | _, [] => none
  | .between, c :: rest =>
    if c = '"' then some ([], rest)
    else if c = '\\' then units .escape rest
    else if c.toNat < 0x20 then none
    else (units .between rest).map fun (us, r) => (c.toNat :: us, r)
  | .escape, c :: rest =>
    if c = 'u' then units (.digits 3 0) rest
    else match shortEscape? c with
      | some e => (units .between rest).map fun (us, r) => (e.toNat :: us, r)
      | none => none
  | .digits left value, c :: rest =>
    match digitValue? c with
    | none => none
    | some d =>
      match left with
      | 0 => (units .between rest).map fun (us, r) => ((value * 16 + d) :: us, r)
      | left + 1 => units (.digits left (value * 16 + d)) rest

def isHigh (u : Nat) : Bool :=
  decide (0xD800 ≤ u) && decide (u < 0xDC00)

def isLow (u : Nat) : Bool :=
  decide (0xDC00 ≤ u) && decide (u < 0xE000)

/-- The character of a surrogate pair. -/
def joinPair (high low : Nat) : Char :=
  Char.ofNat (0x10000 + (high - 0xD800) * 0x400 + (low - 0xDC00))

/-- The text of a list of units, if every surrogate is half of a pair. -/
def assemble : List Nat → Option (List Char)
  | [] => some []
  | [u] => if isHigh u || isLow u then none else some [Char.ofNat u]
  | u :: v :: rest =>
    if isHigh u then
      if isLow v then (assemble rest).map (joinPair u v :: ·) else none
    else if isLow u then none
    else (assemble (v :: rest)).map (Char.ofNat u :: ·)

/-- Reads a literal after its opening quote: its text, if it has one, and what follows. -/
def read (s : List Char) : Option (Option String × List Char) :=
  (units .between s).map fun (us, rest) => ((assemble us).map String.ofList, rest)

end LoweringAudit.Json.Literal
