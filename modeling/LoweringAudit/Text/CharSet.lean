/-!
Sets of characters. A set is given by its bounds, the numbers at which membership changes: the first
bound opens the set, the next one closes it, and so on. Main statement: two sets swept together by a
connective hold what the connective says of the two.
-/
namespace LoweringAudit

structure CharSet where
  bounds : List Nat
  isIncreasing : bounds.Pairwise (· < ·)
  deriving DecidableEq, Repr

namespace CharSet

/-- Whether a number is in; `inside` says it of the numbers below the bounds. -/
def holds (inside : Bool) : List Nat → Nat → Bool
  | [], _ => inside
  | b :: rest, n => if n < b then inside else holds (!inside) rest n

def contains (s : CharSet) (c : Char) : Bool :=
  holds false s.bounds c.toNat

/-- The number above all characters. -/
def limit : Nat := 0x110000

/-- No character. -/
def empty : CharSet :=
  ⟨[], .nil⟩

/-- Every character. -/
def all : CharSet :=
  ⟨[0], by simp⟩

/-- The characters whose numbers lie between two, which count. -/
def span (low high : Nat) : CharSet :=
  if high < low then empty
  else if h : high + 1 < limit ∧ low < high + 1 then ⟨[low, high + 1], by simp [h.2]⟩
  else ⟨[low], by simp⟩

def range (low high : Char) : CharSet :=
  span low.toNat high.toNat

def single (c : Char) : CharSet :=
  range c c

/-- The rest with a bound before it, if membership changes there. -/
def bound (before after : Bool) (b : Nat) (rest : List Nat) : List Nat :=
  if before = after then rest else b :: rest

/-- The bounds of two sets together; `p` and `q` say whether the numbers below are in the one and in
the other. -/
def sweep (f : Bool → Bool → Bool) (p q : Bool) : List Nat → List Nat → List Nat
  | [], [] => []
  | x :: xs, [] => bound (f p q) (f (!p) q) x (sweep f (!p) q xs [])
  | [], y :: ys => bound (f p q) (f p (!q)) y (sweep f p (!q) [] ys)
  | x :: xs, y :: ys =>
    if x < y then bound (f p q) (f (!p) q) x (sweep f (!p) q xs (y :: ys))
    else if y < x then bound (f p q) (f p (!q)) y (sweep f p (!q) (x :: xs) ys)
    else bound (f p q) (f (!p) (!q)) x (sweep f (!p) (!q) xs ys)
termination_by xs ys => xs.length + ys.length

theorem mem_bound {p q : Bool} {a b : Nat} {rest : List Nat} (h : a ∈ bound p q b rest) :
    a = b ∨ a ∈ rest := by
  unfold bound at h
  split at h
  · exact .inr h
  · exact List.mem_cons.mp h

theorem mem_sweep {f : Bool → Bool → Bool} {p q : Bool} {xs ys : List Nat} {a : Nat}
    (h : a ∈ sweep f p q xs ys) : a ∈ xs ∨ a ∈ ys := by
  fun_induction sweep f p q xs ys with
  | case1 => exact .inl h
  | case2 p q x xs ih =>
    rcases mem_bound h with rfl | h
    · simp
    · rcases ih h with h | h <;> simp_all
  | case3 p q y ys ih =>
    rcases mem_bound h with rfl | h
    · simp
    · rcases ih h with h | h <;> simp_all
  | case4 p q x xs y ys _ ih =>
    rcases mem_bound h with rfl | h
    · simp
    · rcases ih h with h | h <;> simp_all
  | case5 p q x xs y ys _ _ ih =>
    rcases mem_bound h with rfl | h
    · simp
    · rcases ih h with h | h <;> simp_all
  | case6 p q x xs y ys _ _ ih =>
    rcases mem_bound h with rfl | h
    · simp
    · rcases ih h with h | h <;> simp_all

theorem pairwise_bound {p q : Bool} {b : Nat} {rest : List Nat} (h : rest.Pairwise (· < ·))
    (hb : ∀ a ∈ rest, b < a) : (bound p q b rest).Pairwise (· < ·) := by
  unfold bound
  split
  · exact h
  · exact List.pairwise_cons.mpr ⟨hb, h⟩

theorem pairwise_sweep {f : Bool → Bool → Bool} {p q : Bool} {xs ys : List Nat}
    (hx : xs.Pairwise (· < ·)) (hy : ys.Pairwise (· < ·)) :
    (sweep f p q xs ys).Pairwise (· < ·) := by
  fun_induction sweep f p q xs ys with
  | case1 => exact hx
  | case2 p q x xs ih =>
    rw [List.pairwise_cons] at hx
    refine pairwise_bound (ih hx.2 hy) fun a ha => ?_
    rcases mem_sweep ha with h | h
    · exact hx.1 a h
    · simp at h
  | case3 p q y ys ih =>
    rw [List.pairwise_cons] at hy
    refine pairwise_bound (ih hx hy.2) fun a ha => ?_
    rcases mem_sweep ha with h | h
    · simp at h
    · exact hy.1 a h
  | case4 p q x xs y ys hlt ih =>
    have hy' := List.pairwise_cons.mp hy
    rw [List.pairwise_cons] at hx
    refine pairwise_bound (ih hx.2 hy) fun a ha => ?_
    rcases mem_sweep ha with h | h
    · exact hx.1 a h
    · rcases List.mem_cons.mp h with rfl | h
      · exact hlt
      · exact Nat.lt_trans hlt (hy'.1 a h)
  | case5 p q x xs y ys _ hlt ih =>
    have hx' := List.pairwise_cons.mp hx
    rw [List.pairwise_cons] at hy
    refine pairwise_bound (ih hx hy.2) fun a ha => ?_
    rcases mem_sweep ha with h | h
    · rcases List.mem_cons.mp h with rfl | h
      · exact hlt
      · exact Nat.lt_trans hlt (hx'.1 a h)
    · exact hy.1 a h
  | case6 p q x xs y ys h₁ h₂ ih =>
    obtain rfl : x = y := Nat.le_antisymm (Nat.not_lt.mp h₂) (Nat.not_lt.mp h₁)
    rw [List.pairwise_cons] at hx hy
    refine pairwise_bound (ih hx.2 hy.2) fun a ha => ?_
    rcases mem_sweep ha with h | h
    · exact hx.1 a h
    · exact hy.1 a h

theorem holds_below {p : Bool} {l : List Nat} {n : Nat} (h : ∀ b ∈ l, n < b) :
    holds p l n = p := by
  cases l with
  | nil => rfl
  | cons b rest => simp [holds, h b]

theorem holds_bound {p q : Bool} {b n : Nat} {rest : List Nat} (hb : ∀ a ∈ rest, b < a) :
    holds p (bound p q b rest) n = if n < b then p else holds q rest n := by
  unfold bound
  split
  · next h =>
    subst h
    split
    · next hn => exact holds_below fun a ha => Nat.lt_trans hn (hb a ha)
    · rfl
  · next h =>
    have : q = !p := by cases p <;> cases q <;> simp_all
    rw [holds, this]

theorem holds_sweep (f : Bool → Bool → Bool) (p q : Bool) {xs ys : List Nat} (n : Nat)
    (hx : xs.Pairwise (· < ·)) (hy : ys.Pairwise (· < ·)) :
    holds (f p q) (sweep f p q xs ys) n = f (holds p xs n) (holds q ys n) := by
  fun_induction sweep f p q xs ys with
  | case1 => rfl
  | case2 p q x xs ih =>
    rw [List.pairwise_cons] at hx
    rw [holds_bound fun a ha => by
      rcases mem_sweep ha with h | h
      · exact hx.1 a h
      · simp at h]
    rw [ih hx.2 hy]
    simp only [holds]
    split <;> rfl
  | case3 p q y ys ih =>
    rw [List.pairwise_cons] at hy
    rw [holds_bound fun a ha => by
      rcases mem_sweep ha with h | h
      · simp at h
      · exact hy.1 a h]
    rw [ih hx hy.2]
    simp only [holds]
    split <;> rfl
  | case4 p q x xs y ys hlt ih =>
    have hy' := List.pairwise_cons.mp hy
    rw [List.pairwise_cons] at hx
    rw [holds_bound fun a ha => by
      rcases mem_sweep ha with h | h
      · exact hx.1 a h
      · rcases List.mem_cons.mp h with rfl | h
        · exact hlt
        · exact Nat.lt_trans hlt (hy'.1 a h)]
    rw [ih hx.2 hy]
    simp only [holds]
    by_cases h : n < x
    · simp [h, Nat.lt_trans h hlt]
    · simp [h]
  | case5 p q x xs y ys _ hlt ih =>
    have hx' := List.pairwise_cons.mp hx
    rw [List.pairwise_cons] at hy
    rw [holds_bound fun a ha => by
      rcases mem_sweep ha with h | h
      · rcases List.mem_cons.mp h with rfl | h
        · exact hlt
        · exact Nat.lt_trans hlt (hx'.1 a h)
      · exact hy.1 a h]
    rw [ih hx hy.2]
    simp only [holds]
    by_cases h : n < y
    · simp [h, Nat.lt_trans h hlt]
    · simp [h]
  | case6 p q x xs y ys h₁ h₂ ih =>
    obtain rfl : x = y := Nat.le_antisymm (Nat.not_lt.mp h₂) (Nat.not_lt.mp h₁)
    rw [List.pairwise_cons] at hx hy
    rw [holds_bound fun a ha => by
      rcases mem_sweep ha with h | h
      · exact hx.1 a h
      · exact hy.1 a h]
    rw [ih hx.2 hy.2]
    simp only [holds]
    split <;> rfl

/-- The characters for which a connective holds of membership in two sets; it must not hold where
neither set has the character. -/
def combine (f : Bool → Bool → Bool) (a b : CharSet) : CharSet :=
  ⟨sweep f false false a.bounds b.bounds, pairwise_sweep a.isIncreasing b.isIncreasing⟩

theorem contains_combine (f : Bool → Bool → Bool) (h : f false false = false) (a b : CharSet)
    (c : Char) : (a.combine f b).contains c = f (a.contains c) (b.contains c) := by
  have hs := holds_sweep f false false c.toNat a.isIncreasing b.isIncreasing
  rw [h] at hs
  exact hs

def join (a b : CharSet) : CharSet :=
  a.combine (fun p q => p || q) b

def meet (a b : CharSet) : CharSet :=
  a.combine (fun p q => p && q) b

def without (a b : CharSet) : CharSet :=
  a.combine (fun p q => p && !q) b

/-- The characters of one of the sets, but not of both. -/
def differ (a b : CharSet) : CharSet :=
  a.combine (fun p q => p != q) b

def complement (a : CharSet) : CharSet :=
  all.without a

@[simp] theorem contains_empty (c : Char) : empty.contains c = false := rfl

@[simp] theorem contains_all (c : Char) : all.contains c = true := by
  simp [contains, all, holds]

@[simp] theorem contains_join (a b : CharSet) (c : Char) :
    (a.join b).contains c = (a.contains c || b.contains c) :=
  contains_combine _ rfl a b c

@[simp] theorem contains_meet (a b : CharSet) (c : Char) :
    (a.meet b).contains c = (a.contains c && b.contains c) :=
  contains_combine _ rfl a b c

@[simp] theorem contains_without (a b : CharSet) (c : Char) :
    (a.without b).contains c = (a.contains c && !b.contains c) :=
  contains_combine _ rfl a b c

@[simp] theorem contains_differ (a b : CharSet) (c : Char) :
    (a.differ b).contains c = (a.contains c != b.contains c) :=
  contains_combine _ rfl a b c

@[simp] theorem contains_complement (a : CharSet) (c : Char) :
    a.complement.contains c = !a.contains c := by
  simp [complement]

@[simp] theorem contains_range (low high c : Char) :
    (range low high).contains c = (decide (low ≤ c) && decide (c ≤ high)) := by
  have hc : c.toNat < limit := by
    have := c.valid
    simp only [limit, Char.toNat]
    rcases this with h | h <;> omega
  have hl : low ≤ c ↔ low.toNat ≤ c.toNat := Iff.rfl
  have hh : c ≤ high ↔ c.toNat ≤ high.toNat := Iff.rfl
  simp only [hl, hh, range, span, contains]
  split
  · simp only [empty, holds]
    symm
    simp
    omega
  · split
    · simp only [holds]
      split
      · simp
        omega
      · split <;> simp <;> omega
    · simp only [holds]
      split
      · simp
        omega
      · simp
        omega

@[simp] theorem contains_single (c d : Char) : (single c).contains d = decide (c = d) := by
  have h : (c ≤ d ∧ d ≤ c) ↔ c = d :=
    ⟨fun h => Char.le_antisymm h.1 h.2, fun h => h ▸ ⟨Char.le_refl _, Char.le_refl _⟩⟩
  simp [single, ← Bool.decide_and, h]

def ofRanges (ranges : List (Char × Char)) : CharSet :=
  ranges.foldr (fun (low, high) s => (range low high).join s) empty

def ofChars (chars : List Char) : CharSet :=
  chars.foldr (fun c s => (single c).join s) empty

/-- Bounds that lie so many numbers apart; the first gap is the one below the first bound. -/
def boundsFrom (start : Nat) : List Nat → List Nat
  | [] => []
  | gap :: rest => (start + gap) :: boundsFrom (start + gap + 1) rest

theorem le_of_mem_boundsFrom {start a : Nat} {gaps : List Nat} (h : a ∈ boundsFrom start gaps) :
    start ≤ a := by
  induction gaps generalizing start with
  | nil => simp [boundsFrom] at h
  | cons gap rest ih =>
    rcases List.mem_cons.mp h with rfl | h
    · omega
    · have := ih h
      omega

theorem pairwise_boundsFrom (start : Nat) (gaps : List Nat) :
    (boundsFrom start gaps).Pairwise (· < ·) := by
  induction gaps generalizing start with
  | nil => exact .nil
  | cons gap rest ih =>
    exact List.pairwise_cons.mpr ⟨fun a ha => le_of_mem_boundsFrom ha, ih _⟩

/-- The set whose bounds lie so many numbers apart. -/
def ofGaps (gaps : List Nat) : CharSet :=
  ⟨boundsFrom 0 gaps, pairwise_boundsFrom 0 gaps⟩

/-- The bounds of what passes a test, when runs of characters have the same value each. -/
def boundsOfRuns (passes : α → Bool) (inside : Bool) (start : Nat) : List (α × Nat) → List Nat
  | [] => if inside ∧ start < limit then [start] else []
  | (a, length) :: rest =>
    bound inside (passes a) start (boundsOfRuns passes (passes a) (start + length + 1) rest)

theorem le_of_mem_boundsOfRuns {passes : α → Bool} {inside : Bool} {start a : Nat}
    {runs : List (α × Nat)} (h : a ∈ boundsOfRuns passes inside start runs) : start ≤ a := by
  induction runs generalizing start inside with
  | nil =>
    unfold boundsOfRuns at h
    split at h
    · simp_all
    · simp at h
  | cons run rest ih =>
    rcases mem_bound h with rfl | h
    · exact Nat.le_refl _
    · have := ih h
      omega

theorem pairwise_boundsOfRuns (passes : α → Bool) (inside : Bool) (start : Nat)
    (runs : List (α × Nat)) : (boundsOfRuns passes inside start runs).Pairwise (· < ·) := by
  induction runs generalizing start inside with
  | nil => unfold boundsOfRuns; split <;> simp
  | cons run rest ih =>
    refine pairwise_bound (ih _ _) fun a ha => ?_
    have := le_of_mem_boundsOfRuns ha
    omega

/-- The characters whose values pass a test. The values are given in the order of the characters,
each with the number of further characters that have it too. -/
def ofRuns (passes : α → Bool) (runs : List (α × Nat)) : CharSet :=
  ⟨boundsOfRuns passes false 0 runs, pairwise_boundsOfRuns passes false 0 runs⟩

/-- The first and the last numbers of the unbroken parts between bounds. -/
def rangesOf : List Nat → List (Nat × Nat)
  | [] => []
  | [low] => [(low, limit - 1)]
  | low :: high :: rest => (low, high - 1) :: rangesOf rest

def ranges (s : CharSet) : List (Nat × Nat) :=
  rangesOf s.bounds

def ascii : CharSet :=
  range '\x00' '\x7f'

def isAscii (s : CharSet) : Bool :=
  (s.without ascii).bounds.isEmpty

/-- The set with the characters that pairs join to its members. -/
def joinPairs (pairs : List (Char × Char)) (s : CharSet) : CharSet :=
  let there := pairs.filterMap fun (a, b) =>
    if s.contains a && !s.contains b then some b else none
  (ofChars there).join s

/-- The set with all that is equal to its members but for case, when pairs lead from each character
to the one that stands for it. -/
def foldWith (pairs : List (Char × Char)) (s : CharSet) : CharSet :=
  (s.joinPairs pairs).joinPairs (pairs.map Prod.swap)

/-- The capital letters of ASCII with their small ones. -/
def asciiPairs : List (Char × Char) :=
  (List.range 26).map fun i => (Char.ofNat (65 + i), Char.ofNat (97 + i))

/-- The set with the other case of each ASCII letter. -/
def folded (s : CharSet) : CharSet :=
  s.foldWith asciiPairs

end CharSet

end LoweringAudit
