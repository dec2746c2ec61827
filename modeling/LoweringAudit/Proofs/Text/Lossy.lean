import LoweringAudit.Proofs.Text.Utf8
import Mathlib.Algebra.Order.Ring.Nat
import Mathlib.Tactic.GCongr
/-!
Reading octets that need not be UTF-8. Whatever is wrong with them, the ASCII octets stand for
themselves, and what stands between two of them is read as some characters beyond ASCII, at least
one if there is anything there at all. The invariant behind this is the range of numbers that a
sequence begun can still come to: it lies beyond ASCII and holds no surrogate, and each octet that
continues the sequence narrows it. Main statement: reading with marks for the gaps keeps ASCII.
-/
namespace LoweringAudit.Utf8

/-- The text has the ASCII octets as characters, in order, and some characters beyond ASCII wherever
there are some octets beyond ASCII. -/
inductive KeepsAscii : List UInt8 → List Char → Prop where
  | nil : KeepsAscii [] []
  | ascii {b : UInt8} {octets : List UInt8} {text : List Char} (hb : b.toNat < 0x80)
      (later : KeepsAscii octets text) :
      KeepsAscii (b :: octets) (Char.ofNat b.toNat :: text)
  | gap {passed octets : List UInt8} {marks text : List Char} (hpassed : passed ≠ [])
      (hmarks : marks ≠ []) (hoctets : ∀ b ∈ passed, 0x80 ≤ b.toNat)
      (hchars : ∀ c ∈ marks, 0x80 ≤ c.toNat) (later : KeepsAscii octets text) :
      KeepsAscii (passed ++ octets) (marks ++ text)

namespace Begun

variable {s : Begun} {b : Nat}

/-- The least number that the sequence can come to. -/
def least (s : Begun) : Nat :=
  (s.value * 64 + (s.low - 0x80)) * 64 ^ (s.owed - 1)

/-- The sequence comes to a number below this one. -/
def bound (s : Begun) : Nat :=
  (s.value * 64 + (s.high - 0x80) + 1) * 64 ^ (s.owed - 1)

/-- Every number that the sequence can come to is that of a character beyond ASCII. -/
structure Proper (s : Begun) : Prop where
  owed : 1 ≤ s.owed
  low : 0x80 ≤ s.low
  large : 0x80 ≤ s.least
  scalar : s.bound ≤ 0xD800 ∨ 0xE000 ≤ s.least ∧ s.bound ≤ 0x110000

theorem proper_of_ofLead (h : ofLead b = some s) : s.Proper := by
  unfold ofLead at h
  -- One case for each range of leads; all that is not fixed is the number that the lead brings.
  split_ifs at h <;> cases h <;> constructor <;> simp [least, bound] <;> omega

/-- The octet that completes a sequence gives a character beyond ASCII. -/
theorem Proper.toNat_last (h : s.Proper) (hlow : s.low ≤ b) (hhigh : b ≤ s.high)
    (hlast : s.owed ≤ 1) : 0x80 ≤ (Char.ofNat (s.value * 64 + (b - 0x80))).toNat := by
  obtain ⟨howed, hl, hlarge, hscalar⟩ := h
  have hone : s.owed = 1 := by omega
  simp only [least, bound, hone, Nat.sub_self, pow_zero, mul_one] at hlarge hscalar
  have hvalid : (s.value * 64 + (b - 0x80)).isValidChar := by
    simp only [Nat.isValidChar]
    omega
  have hnat : (Char.ofNat (s.value * 64 + (b - 0x80))).toNat = s.value * 64 + (b - 0x80) := by
    rw [Char.ofNat, dif_pos hvalid]
    rfl
  omega

/-- The sequence with an octet that continues it. -/
def next (s : Begun) (b : Nat) : Begun :=
  ⟨s.owed - 1, 0x80, 0xBF, s.value * 64 + (b - 0x80)⟩

theorem least_next (s : Begun) (b : Nat) :
    (s.next b).least = (s.value * 64 + (b - 0x80)) * 64 * 64 ^ (s.owed - 2) := by
  simp only [least, next, Nat.sub_self, Nat.add_zero, Nat.sub_sub]

theorem bound_next (s : Begun) (b : Nat) :
    (s.next b).bound = (s.value * 64 + (b - 0x80) + 1) * 64 * 64 ^ (s.owed - 2) := by
  rw [add_one_mul]
  simp only [bound, next, Nat.sub_sub, Nat.add_assoc]

theorem least_le_next (hlow : s.low ≤ b) (hmore : 1 < s.owed) : s.least ≤ (s.next b).least := by
  have howed : s.owed - 1 = s.owed - 2 + 1 := by omega
  rw [least_next, least, howed, pow_succ', ← mul_assoc]
  gcongr

theorem bound_next_le (hhigh : b ≤ s.high) (hmore : 1 < s.owed) : (s.next b).bound ≤ s.bound := by
  have howed : s.owed - 1 = s.owed - 2 + 1 := by omega
  rw [bound_next, bound, howed, pow_succ', ← mul_assoc]
  gcongr

/-- An octet that continues a sequence narrows the numbers that it can come to. -/
theorem Proper.next (h : s.Proper) (hlow : s.low ≤ b) (hhigh : b ≤ s.high) (hmore : 1 < s.owed) :
    (s.next b).Proper := by
  have hleast := least_le_next hlow hmore
  have hbound := bound_next_le hhigh hmore
  refine ⟨?_, le_refl _, h.large.trans hleast, ?_⟩
  · simp only [Begun.next]
    omega
  · rcases h.scalar with hs | ⟨hs, ht⟩
    · exact .inl (hbound.trans hs)
    · exact .inr ⟨hs.trans hleast, hbound.trans ht⟩

end Begun

/-- The characters that are read from between characters or in the middle of a sequence, with a mark
for each gap. -/
def marked (s : Option Begun) (octets : List UInt8) : List Char :=
  (decodeFrom s octets).map (·.getD replacement)

section Steps

variable {s : Begun} {b : UInt8} {rest : List UInt8}

theorem marked_of_ascii (hb : b.toNat < 0x80) :
    marked none (b :: rest) = Char.ofNat b.toNat :: marked none rest := by
  simp [marked, decodeFrom, step, first_of_ascii hb]

theorem marked_of_lead (hb : 0x80 ≤ b.toNat) (h : Begun.ofLead b.toNat = some s) :
    marked none (b :: rest) = marked (some s) rest := by
  simp [marked, decodeFrom, step, first, hb.not_gt, h]

/-- An octet that begins nothing is a gap by itself. -/
theorem marked_of_no_lead (hb : 0x80 ≤ b.toNat) (h : Begun.ofLead b.toNat = none) :
    marked none (b :: rest) = replacement :: marked none rest := by
  simp [marked, decodeFrom, step, first, hb.not_gt, h]

theorem marked_of_last (hlow : s.low ≤ b.toNat) (hhigh : b.toNat ≤ s.high) (hlast : s.owed ≤ 1) :
    marked (some s) (b :: rest) =
      Char.ofNat (s.value * 64 + (b.toNat - 0x80)) :: marked none rest := by
  simp [marked, decodeFrom, step, hlow, hhigh, hlast]

theorem marked_of_more (hlow : s.low ≤ b.toNat) (hhigh : b.toNat ≤ s.high) (hmore : 1 < s.owed) :
    marked (some s) (b :: rest) = marked (some (s.next b.toNat)) rest := by
  simp [marked, decodeFrom, step, Begun.next, hlow, hhigh, hmore.not_ge]

/-- An octet that does not continue the sequence makes it a gap and is read anew. -/
theorem marked_of_foreign (h : ¬ (s.low ≤ b.toNat ∧ b.toNat ≤ s.high)) :
    marked (some s) (b :: rest) = replacement :: marked none (b :: rest) := by
  simp only [marked, decodeFrom, step, if_neg h, List.cons_append, List.map_cons, Option.getD_none]

end Steps

theorem KeepsAscii.passed {passed octets : List UInt8} {c : Char} {text : List Char}
    (hpassed : passed ≠ []) (hoctets : ∀ b ∈ passed, 0x80 ≤ b.toNat) (hc : 0x80 ≤ c.toNat)
    (later : KeepsAscii octets text) : KeepsAscii (passed ++ octets) (c :: text) :=
  .gap hpassed (List.cons_ne_nil c []) hoctets (by simpa using hc) later

theorem KeepsAscii.append {octets others : List UInt8} {s t : List Char}
    (hs : KeepsAscii octets s) (ht : KeepsAscii others t) :
    KeepsAscii (octets ++ others) (s ++ t) := by
  induction hs with
  | nil => exact ht
  | ascii hb _ ih => exact .ascii hb ih
  | gap hpassed hmarks hoctets hchars _ ih =>
    rw [List.append_assoc, List.append_assoc]
    exact .gap hpassed hmarks hoctets hchars ih

/-- What is read of the octets keeps ASCII: from between characters, and from the middle of a
sequence for the octets that began it together with those to come. -/
structure Kept (octets : List UInt8) : Prop where
  between : KeepsAscii octets (marked none octets)
  within : ∀ s : Begun, s.Proper → ∀ passed : List UInt8, passed ≠ [] →
    (∀ b ∈ passed, 0x80 ≤ b.toNat) → KeepsAscii (passed ++ octets) (marked (some s) octets)

theorem large_replacement : 0x80 ≤ replacement.toNat := by
  decide

variable {s : Begun} {b : UInt8} {passed rest : List UInt8}

theorem Kept.cons_between (h : Kept rest) (b : UInt8) :
    KeepsAscii (b :: rest) (marked none (b :: rest)) := by
  by_cases hb : b.toNat < 0x80
  · rw [marked_of_ascii hb]
    exact .ascii hb h.between
  have hb : 0x80 ≤ b.toNat := by omega
  have hne : [b] ≠ [] := List.cons_ne_nil b []
  have hall : ∀ d ∈ [b], 0x80 ≤ d.toNat := fun d hd => List.mem_singleton.1 hd ▸ hb
  cases hlead : Begun.ofLead b.toNat with
  | none =>
    rw [marked_of_no_lead hb hlead]
    exact .passed hne hall large_replacement h.between
  | some s =>
    rw [marked_of_lead hb hlead]
    exact h.within s (Begun.proper_of_ofLead hlead) [b] hne hall

theorem Kept.cons_within (h : Kept rest) (hs : s.Proper) (hne : passed ≠ [])
    (hall : ∀ b ∈ passed, 0x80 ≤ b.toNat) :
    KeepsAscii (passed ++ b :: rest) (marked (some s) (b :: rest)) := by
  by_cases hdue : s.low ≤ b.toNat ∧ b.toNat ≤ s.high
  · obtain ⟨hlow, hhigh⟩ := hdue
    have hne : passed ++ [b] ≠ [] := by simp
    have hall : ∀ d ∈ passed ++ [b], 0x80 ≤ d.toNat := by
      intro d hd
      rcases List.mem_append.1 hd with hd | hd
      · exact hall d hd
      · rw [List.mem_singleton.1 hd]
        exact hs.low.trans hlow
    rw [List.append_cons]
    by_cases hlast : s.owed ≤ 1
    · rw [marked_of_last hlow hhigh hlast]
      exact .passed hne hall (hs.toNat_last hlow hhigh hlast) h.between
    · have hmore : 1 < s.owed := by omega
      rw [marked_of_more hlow hhigh hmore]
      exact h.within _ (hs.next hlow hhigh hmore) _ hne hall
  · rw [marked_of_foreign hdue]
    exact .passed hne hall large_replacement (h.cons_between b)

theorem kept (octets : List UInt8) : Kept octets := by
  induction octets with
  | nil => exact ⟨.nil, fun s _ passed hne hall => .passed hne hall large_replacement .nil⟩
  | cons b rest ih =>
    exact ⟨ih.cons_between b, fun s hs passed hne hall => ih.cons_within hs hne hall⟩

/-- Reading octets with a mark for each gap keeps ASCII. -/
theorem keepsAscii_decodeLossy (octets : List UInt8) : KeepsAscii octets (decodeLossy octets) :=
  (kept octets).between

end LoweringAudit.Utf8
