/-!
Digits and the numbers they write. Main statement: a digit written for a number has that number as
its value.
-/
namespace LoweringAudit.Text

/-- The digit of a number below sixteen, in lower case. -/
def lowerDigit (n : Nat) : Char :=
  Char.ofNat (if n < 10 then 0x30 + n else 0x57 + n)

/-- The digit of a number below sixteen, in upper case. -/
def upperDigit (n : Nat) : Char :=
  Char.ofNat (if n < 10 then 0x30 + n else 0x37 + n)

/-- The value of a hexadecimal digit in either case. -/
def digitValue? (c : Char) : Option Nat :=
  if '0' ≤ c ∧ c ≤ '9' then some (c.toNat - 0x30)
  else if 'a' ≤ c ∧ c ≤ 'f' then some (c.toNat - 0x57)
  else if 'A' ≤ c ∧ c ≤ 'F' then some (c.toNat - 0x37)
  else none

theorem digitValue?_lowerDigit {n : Nat} (h : n < 16) : digitValue? (lowerDigit n) = some n := by
  have : ∀ n : Fin 16, digitValue? (lowerDigit n) = some n.val := by decide
  exact this ⟨n, h⟩

theorem digitValue?_upperDigit {n : Nat} (h : n < 16) : digitValue? (upperDigit n) = some n := by
  have : ∀ n : Fin 16, digitValue? (upperDigit n) = some n.val := by decide
  exact this ⟨n, h⟩

/-- Whether the character is a digit in some base up to sixteen. -/
def isDigitIn (base : Nat) (c : Char) : Bool :=
  (digitValue? c).any (· < base)

/-- The number that a run of digits writes in a base. -/
def natOfDigits (base : Nat) (digits : List Char) : Nat :=
  digits.foldl (fun n c => n * base + (digitValue? c).getD 0) 0

end LoweringAudit.Text
