import LoweringAudit.Toml.Text.Printer
/-!
TOML strings, read. A reader stands after the opening quotes and stops after the closing ones. Over
lines, a line ends with a line feed, whether or not a carriage return stands before it; a backslash
at the end of a line takes with it the line end and all blanks and line ends after it.
-/
namespace LoweringAudit.Toml.Text

open LoweringAudit.Text (digitValue?)

variable {rest : List Char}

/-- Puts a character before what was read. -/
def before (c : Char) : Option (List Char × List Char) → Option (List Char × List Char) :=
  Option.map fun (s, rest) => (c :: s, rest)

@[simp] theorem before_some (c : Char) (s rest : List Char) :
    before c (some (s, rest)) = some (c :: s, rest) := rfl

/-- The character of a code point that is one. -/
def scalar? (n : Nat) : Option Char :=
  if n.isValidChar then some (Char.ofNat n) else none

/-- The character that an escape of one letter stands for. -/
def shortEscape? : Char → Option Char
  | 'b' => some '\x08'
  | 't' => some '\t'
  | 'n' => some '\n'
  | 'f' => some '\x0c'
  | 'r' => some '\r'
  | '"' => some '"'
  | '\\' => some '\\'
  | _ => none

/-- How many digits follow the first one of an escape by number. -/
def longEscape? : Char → Option Nat
  | 'u' => some 3
  | 'U' => some 7
  | _ => none

/-- What follows three quotes, if the text begins with them. -/
def afterTriple? (quote : Char) : List Char → Option (List Char)
  | a :: b :: c :: rest => if a = quote ∧ b = quote ∧ c = quote then some rest else none
  | _ => none

theorem afterTriple?_triple (q : Char) (rest : List Char) :
    afterTriple? q (q :: q :: q :: rest) = some rest := by
  simp [afterTriple?]

/-- After three closing quotes, up to two more still belong to the text. -/
def closing (quote : Char) : List Char → List Char × List Char
  | c :: d :: rest =>
    if c = quote then if d = quote then ([quote, quote], rest) else ([quote], d :: rest)
    else ([], c :: d :: rest)
  | [c] => if c = quote then ([quote], []) else ([], [c])
  | [] => ([], [])

/-- Whether a carriage return with this after it belongs to a line end. -/
def beforeLineFeed (rest : List Char) : Bool :=
  rest.head? == some '\n'

/-- Where the reader of a basic string stands. -/
inductive State where
  /-- Between characters; blanks and line ends are skipped after a line was broken off. -/
  | between (skipping : Bool)
  | escape
  | digits (left value : Nat)
  /-- After a backslash and blanks: the line must end. -/
  | lineEnd
  deriving DecidableEq, Repr

/-- The rest of a basic string, on one line or over lines. -/
def readBasic (lines : Bool) : State → List Char → Option (List Char × List Char)
  | _, [] => none
  | .between skipping, c :: rest =>
    if c = '"' then
      if lines then
        match afterTriple? '"' (c :: rest) with
        | some rest => some (closing '"' rest)
        | none => before '"' (readBasic lines (.between false) rest)
      else some ([], rest)
    else if c = '\\' then readBasic lines .escape rest
    else if lines ∧ c = '\n' then
      if skipping then readBasic lines (.between true) rest
      else before '\n' (readBasic lines (.between false) rest)
    else if lines ∧ c = '\r' ∧ beforeLineFeed rest then readBasic lines (.between skipping) rest
    else if skipping ∧ (c = ' ' ∨ c = '\t') then readBasic lines (.between true) rest
    else if isPlain c then before c (readBasic lines (.between false) rest)
    else none
  | .escape, c :: rest =>
    match shortEscape? c with
    | some e => before e (readBasic lines (.between false) rest)
    | none =>
      match longEscape? c with
      | some n => readBasic lines (.digits n 0) rest
      | none =>
        if lines ∧ c = '\n' then readBasic lines (.between true) rest
        else if lines ∧ (c = ' ' ∨ c = '\t' ∨ c = '\r' ∧ beforeLineFeed rest) then
          readBasic lines .lineEnd rest
        else none
  | .digits left value, c :: rest =>
    match digitValue? c with
    | none => none
    | some d =>
      match left with
      | 0 =>
        match scalar? (value * 16 + d) with
        | some e => before e (readBasic lines (.between false) rest)
        | none => none
      | left + 1 => readBasic lines (.digits left (value * 16 + d)) rest
  | .lineEnd, c :: rest =>
    if c = '\n' then readBasic lines (.between true) rest
    else if c = ' ' ∨ c = '\t' ∨ c = '\r' ∧ beforeLineFeed rest then readBasic lines .lineEnd rest
    else none

/-- A bare quote within a basic string over lines, where no row of three begins. -/
theorem readBasic_quote (h : afterTriple? '"' ('"' :: rest) = none) :
    readBasic true (.between false) ('"' :: rest) =
      before '"' (readBasic true (.between false) rest) := by
  simp [readBasic, h]

/-- Three quotes end a basic string over lines, and take one or two more with them. -/
theorem readBasic_triple (rest : List Char) :
    readBasic true (.between false) ('"' :: '"' :: '"' :: rest) = some (closing '"' rest) := by
  simp [readBasic, afterTriple?_triple]

/-- The rest of a literal string, on one line or over lines. -/
def readLiteral (lines : Bool) : List Char → Option (List Char × List Char)
  | [] => none
  | c :: rest =>
    if c = '\'' then
      if lines then
        match afterTriple? '\'' (c :: rest) with
        | some rest => some (closing '\'' rest)
        | none => before '\'' (readLiteral lines rest)
      else some ([], rest)
    else if lines ∧ c = '\n' then before '\n' (readLiteral lines rest)
    else if lines ∧ c = '\r' ∧ beforeLineFeed rest then readLiteral lines rest
    else if isPlain c then before c (readLiteral lines rest)
    else none

theorem readLiteral_triple (rest : List Char) :
    readLiteral true ('\'' :: '\'' :: '\'' :: rest) = some (closing '\'' rest) := by
  simp [readLiteral, afterTriple?_triple]

theorem readLiteral_quote (h : afterTriple? '\'' ('\'' :: rest) = none) :
    readLiteral true ('\'' :: rest) = before '\'' (readLiteral true rest) := by
  simp [readLiteral, h]

/-- The text without the line end it begins with. -/
def dropOpening : List Char → List Char
  | '\n' :: rest => rest
  | '\r' :: '\n' :: rest => rest
  | s => s

/-- Reads a string in any form. -/
def read (s : List Char) : Option (List Char × List Char) :=
  match afterTriple? '"' s with
  | some rest => readBasic true (.between false) (dropOpening rest)
  | none =>
    match afterTriple? '\'' s with
    | some rest => readLiteral true (dropOpening rest)
    | none =>
      match s with
      | '"' :: rest => readBasic false (.between false) rest
      | '\'' :: rest => readLiteral false rest
      | _ => none

end LoweringAudit.Toml.Text
