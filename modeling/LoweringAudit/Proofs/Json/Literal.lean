import LoweringAudit.Json.Literal
/-!
How string literals may be spelled, and that the reader takes every spelling. A character stands for
itself or for its code unit behind an escape, and a character outside the basic plane may also be
spelled as a pair of surrogates. Main statements: a literal is read up to its closing quote with the
units that it spells, whatever follows; the units of a text give the text back; and what is written
for a text spells its units.
-/
namespace LoweringAudit.Json.Literal

open LoweringAudit.Text (digitValue?)

variable {c : Char} {s t rest : List Char} {us : List Nat}

/-- The escapes of one letter, with what they stand for. -/
def shortEscapes : List (Char × Char) :=
  [('"', '"'), ('\\', '\\'), ('/', '/'), ('b', '\x08'), ('f', '\x0c'), ('n', '\n'), ('r', '\r'),
    ('t', '\t')]

/-- The text between the quotes of a literal, and the code units that it spells. -/
inductive Spells : List Char → List Nat → Prop where
  | nil : Spells [] []
  | plain {c : Char} {s : List Char} {us : List Nat} (quote : c ≠ '"') (slash : c ≠ '\\')
      (control : 0x20 ≤ c.toNat) (h : Spells s us) : Spells (c :: s) (c.toNat :: us)
  | short {e c : Char} {s : List Char} {us : List Nat} (escape : (e, c) ∈ shortEscapes)
      (h : Spells s us) : Spells ('\\' :: e :: s) (c.toNat :: us)
  | number {a b c d : Char} {i j k l : Nat} {s : List Char} {us : List Nat}
      (first : digitValue? a = some i) (second : digitValue? b = some j)
      (third : digitValue? c = some k) (fourth : digitValue? d = some l) (h : Spells s us) :
      Spells ('\\' :: 'u' :: a :: b :: c :: d :: s) ((((i * 16 + j) * 16 + k) * 16 + l) :: us)

/-- The surrogates of a character outside the basic plane. -/
def highHalf (c : Char) : Nat :=
  0xD800 + (c.toNat - 0x10000) / 0x400

def lowHalf (c : Char) : Nat :=
  0xDC00 + (c.toNat - 0x10000) % 0x400

/-- The units of a text: each character is one unit, or a pair of surrogates. -/
inductive Encodes : List Nat → List Char → Prop where
  | nil : Encodes [] []
  | one (c : Char) {us : List Nat} {t : List Char} (h : Encodes us t) :
      Encodes (c.toNat :: us) (c :: t)
  | pair {c : Char} {us : List Nat} {t : List Char} (high : 0x10000 ≤ c.toNat) (h : Encodes us t) :
      Encodes (highHalf c :: lowHalf c :: us) (c :: t)

theorem shortEscape?_of_mem {e : Char} (h : (e, c) ∈ shortEscapes) :
    shortEscape? e = some c ∧ e ≠ 'u' := by
  have hall : ∀ p ∈ shortEscapes, shortEscape? p.1 = some p.2 ∧ p.1 ≠ 'u' := by decide
  exact hall (e, c) h

/-- A literal is read up to the quote that closes it. -/
theorem units_of_spells (h : Spells s us) (rest : List Char) :
    units .between (s ++ '"' :: rest) = some (us, rest) := by
  induction h with
  | nil => simp [units]
  | plain quote slash control _ ih =>
    have hcontrol := Nat.not_lt.2 control
    simp [units, quote, slash, hcontrol, ih]
  | short escape _ ih =>
    obtain ⟨hshort, hu⟩ := shortEscape?_of_mem escape
    simp [units, hshort, hu, ih]
  | number first second third fourth _ ih => simp [units, first, second, third, fourth, ih]

theorem isHigh_iff (u : Nat) : isHigh u = true ↔ 0xD800 ≤ u ∧ u < 0xDC00 := by
  simp [isHigh]

theorem isLow_iff (u : Nat) : isLow u = true ↔ 0xDC00 ≤ u ∧ u < 0xE000 := by
  simp [isLow]

/-- No character is a surrogate. -/
theorem not_surrogate (c : Char) : isHigh c.toNat = false ∧ isLow c.toNat = false := by
  have hvalid : c.toNat.isValidChar := c.valid
  rw [Bool.eq_false_iff, Bool.eq_false_iff, ne_eq, ne_eq, isHigh_iff, isLow_iff]
  rcases hvalid with h | h <;> omega

theorem assemble_toNat (c : Char) (us : List Nat) :
    assemble (c.toNat :: us) = (assemble us).map (c :: ·) := by
  obtain ⟨hhigh, hlow⟩ := not_surrogate c
  cases us with
  | nil => simp [assemble, hhigh, hlow]
  | cons v us => simp [assemble, hhigh, hlow]

theorem assemble_pair (h : 0x10000 ≤ c.toNat) (us : List Nat) :
    assemble (highHalf c :: lowHalf c :: us) = (assemble us).map (c :: ·) := by
  have hsize : c.toNat < 0x110000 := by
    have hvalid : c.toNat.isValidChar := c.valid
    rcases hvalid with h | h <;> omega
  have hhigh : isHigh (highHalf c) = true := by
    rw [isHigh_iff, highHalf]
    omega
  have hlow : isLow (lowHalf c) = true := by
    rw [isLow_iff, lowHalf]
    omega
  have hnat : 0x10000 + (highHalf c - 0xD800) * 0x400 + (lowHalf c - 0xDC00) = c.toNat := by
    simp only [highHalf, lowHalf]
    omega
  have hjoin : joinPair (highHalf c) (lowHalf c) = c := by
    rw [joinPair, hnat, Char.ofNat_toNat]
  simp only [assemble, hhigh, hlow, hjoin, ↓reduceIte]

/-- A text is put together from its units, in whichever way they were chosen. -/
theorem assemble_of_encodes (h : Encodes us t) : assemble us = some t := by
  induction h with
  | nil => rfl
  | one c _ ih => rw [assemble_toNat, ih, Option.map_some]
  | pair high _ ih => rw [assemble_pair high, ih, Option.map_some]

theorem encodes_toNat (t : List Char) : Encodes (t.map Char.toNat) t := by
  induction t with
  | nil => exact .nil
  | cons c t ih => exact .one c ih

theorem spells_escape (c : Char) (h : Spells s us) : Spells (escape c ++ s) (c.toNat :: us) := by
  unfold escape
  split
  case h_8 hquote hslash _ _ _ _ _ =>
    split
    · next hcontrol =>
      have hhigh := LoweringAudit.Text.digitValue?_lowerDigit (n := c.toNat / 16) (by omega)
      have hlow := LoweringAudit.Text.digitValue?_lowerDigit (n := c.toNat % 16) (by omega)
      have hzero : digitValue? '0' = some 0 := by decide
      have hnat : ((0 * 16 + 0) * 16 + c.toNat / 16) * 16 + c.toNat % 16 = c.toNat := by omega
      have hnumber := Spells.number hzero hzero hhigh hlow h
      rwa [hnat] at hnumber
    · next hcontrol => exact .plain hquote hslash (by omega) h
  all_goals exact .short (by decide) h

/-- What is written spells the characters one by one. -/
theorem spells_write (t : List Char) : Spells (write t) (t.map Char.toNat) := by
  induction t with
  | nil => exact .nil
  | cons c t ih => exact spells_escape c ih

/-- A character outside the basic plane is read from a pair of escapes. -/
example : read "\\ud83d\\uDE00\"".toList = some (some "😀", []) := by decide

end LoweringAudit.Json.Literal
