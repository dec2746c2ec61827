import LoweringAudit.Toml.Number
/-!
TOML dates and times: a date, a time of day, or a date and a time with or without an offset. Dates
must exist in the calendar.
-/
namespace LoweringAudit.Toml.Moment

/-- A number of exactly two digits. -/
def two? : List Char → Option (Nat × List Char)
  | a :: b :: rest =>
    if a.isDigit && b.isDigit then some (LoweringAudit.Text.natOfDigits 10 [a, b], rest) else none
  | _ => none

/-- A number of exactly four digits. -/
def four? : List Char → Option (Nat × List Char)
  | a :: b :: c :: d :: rest =>
    if a.isDigit && b.isDigit && c.isDigit && d.isDigit then
      some (LoweringAudit.Text.natOfDigits 10 [a, b, c, d], rest)
    else none
  | _ => none

/-- What follows the given character. -/
def after? (c : Char) : List Char → Option (List Char)
  | d :: rest => if c = d then some rest else none
  | [] => none

def isLeapYear (year : Nat) : Bool :=
  year % 4 == 0 && (year % 100 != 0 || year % 400 == 0)

def daysInMonth (year month : Nat) : Nat :=
  if month = 2 then if isLeapYear year then 29 else 28
  else if month ∈ [4, 6, 9, 11] then 30
  else 31

/-- What follows a date. -/
def date? (s : List Char) : Option (List Char) := do
  let (year, s) ← four? s
  let (month, s) ← two? (← after? '-' s)
  let (day, s) ← two? (← after? '-' s)
  if 1 ≤ month ∧ month ≤ 12 ∧ 1 ≤ day ∧ day ≤ daysInMonth year month then some s else none

/-- What follows a fraction of a second, or the text itself where there is none. -/
def afterFraction : List Char → List Char
  | '.' :: d :: rest => if d.isDigit then rest.dropWhile Char.isDigit else '.' :: d :: rest
  | s => s

/-- What follows a time of day. A minute may have a leap second. -/
def time? (s : List Char) : Option (List Char) := do
  let (hour, s) ← two? s
  let (minute, s) ← two? (← after? ':' s)
  let (second, s) ← two? (← after? ':' s)
  if hour ≤ 23 ∧ minute ≤ 59 ∧ second ≤ 60 then some (afterFraction s) else none

/-- What follows an offset from universal time. -/
def offset? : List Char → Option (List Char)
  | c :: s =>
    if c = 'Z' ∨ c = 'z' then some s
    else if c = '+' ∨ c = '-' then do
      let (hour, s) ← two? s
      let (minute, s) ← two? (← after? ':' s)
      if hour ≤ 23 ∧ minute ≤ 59 then some s else none
    else none
  | [] => none

/-- What follows a time and perhaps an offset, where the text goes on with one after a date. -/
def clock? : List Char → Option (List Char)
  | c :: s =>
    if c = 'T' ∨ c = 't' ∨ c = ' ' then
      (time? s).map fun rest => (offset? rest).getD rest
    else none
  | [] => none

/-- What follows a moment. -/
def rest? (s : List Char) : Option (List Char) :=
  match date? s with
  | some rest => some ((clock? rest).getD rest)
  | none => time? s

def read? (s : List Char) : Option (Value × List Char) :=
  (rest? s).map fun rest => (.moment (String.ofList (s.take (s.length - rest.length))), rest)

end LoweringAudit.Toml.Moment
