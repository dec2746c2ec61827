/-!
Blank characters are those with the Unicode property White_Space. Fields of a catalog line, items
of a feature list and the text a program leaves on its error stream are trimmed of them at both
ends. Main statements: trimming leaves no blank at either end, and keeps a text that has none.
-/
namespace LoweringAudit.Text

/-- The property White_Space as inclusive ranges of code points. -/
def blankRanges : List (Nat × Nat) :=
  [(0x9, 0xD), (0x20, 0x20), (0x85, 0x85), (0xA0, 0xA0), (0x1680, 0x1680), (0x2000, 0x200A),
    (0x2028, 0x2029), (0x202F, 0x202F), (0x205F, 0x205F), (0x3000, 0x3000)]

/-- The ranges name 25 characters. -/
example : (blankRanges.map fun (low, high) => high + 1 - low).sum = 25 := by decide

def isBlank (c : Char) : Bool :=
  blankRanges.any fun (low, high) => decide (low ≤ c.toNat) && decide (c.toNat ≤ high)

def trimStart (s : List Char) : List Char :=
  s.dropWhile isBlank

def trimEnd (s : List Char) : List Char :=
  (s.reverse.dropWhile isBlank).reverse

def trim (s : List Char) : List Char :=
  trimEnd (trimStart s)

@[simp] theorem trimEnd_nil : trimEnd [] = [] := rfl
@[simp] theorem trim_nil : trim [] = [] := rfl

/-- The text neither begins nor ends with a blank. -/
def Trimmed (s : List Char) : Prop :=
  (∀ c ∈ s.head?, isBlank c = false) ∧ ∀ c ∈ s.getLast?, isBlank c = false

instance (s : List Char) : Decidable (Trimmed s) :=
  decidable_of_iff ((s.head?.all (!isBlank ·) && s.getLast?.all (!isBlank ·)) = true) <| by
    simp [Trimmed, Option.all_eq_true]

theorem trimStart_eq_self {s : List Char} (h : ∀ c ∈ s.head?, isBlank c = false) :
    trimStart s = s := by
  cases s with
  | nil => rfl
  | cons c r => simp [trimStart, h c (by simp)]

theorem trimEnd_eq_self {s : List Char} (h : ∀ c ∈ s.getLast?, isBlank c = false) :
    trimEnd s = s := by
  have := trimStart_eq_self (s := s.reverse) (by simpa using h)
  simp only [trimStart] at this
  simp [trimEnd, this]

theorem trimEnd_prefix (s : List Char) : trimEnd s <+: s := by
  have h := List.dropWhile_suffix isBlank (l := s.reverse)
  simpa [trimEnd] using List.reverse_prefix.2 h

theorem trimmed_trim (s : List Char) : Trimmed (trim s) := by
  constructor
  · intro c hc
    obtain ⟨rest, hr⟩ := trimEnd_prefix (trimStart s)
    have hh : (trimStart s).head? = some c := by
      rw [← hr, List.head?_append, show (trimEnd (trimStart s)).head? = some c from hc]; rfl
    have := List.head?_dropWhile_not isBlank s
    simp only [trimStart] at hh
    simpa [hh] using this
  · intro c hc
    have := List.head?_dropWhile_not isBlank (trimStart s).reverse
    have hh : ((trimStart s).reverse.dropWhile isBlank).head? = some c := by
      simpa [trim, trimEnd] using hc
    simpa [hh] using this

theorem trim_eq_self {s : List Char} (h : Trimmed s) : trim s = s := by
  rw [trim, trimStart_eq_self h.1, trimEnd_eq_self h.2]

end LoweringAudit.Text
