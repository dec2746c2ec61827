import LoweringAudit.Text.Utf8
/-!
What is written in UTF-8 is read again. A character is one to four octets; its leading octet tells
how many are owed and which range the next one is in, and each octet owed brings six bits of the
character's number. Main statement: decoding the octets of a text gives the text, without gaps, so
that no two texts have the same octets.
-/
namespace LoweringAudit.Utf8

variable {s t : List Char} {c : Char} {rest : List UInt8}

/-- An octet in the range that is due, when it is the last one owed. -/
theorem decodeFrom_last {s : Begun} {b : Nat} (hb : b < 256) (hlow : s.low ≤ b) (hhigh : b ≤ s.high)
    (hlast : s.owed ≤ 1) (rest : List UInt8) :
    decodeFrom (some s) (UInt8.ofNat b :: rest) =
      some (Char.ofNat (s.value * 64 + (b - 0x80))) :: decodeFrom none rest := by
  have hnat : (UInt8.ofNat b).toNat = b := Nat.mod_eq_of_lt hb
  simp [decodeFrom, step, hnat, hlow, hhigh, hlast]

/-- An octet in the range that is due, when more of them are owed. -/
theorem decodeFrom_more {s : Begun} {b : Nat} (hb : b < 256) (hlow : s.low ≤ b) (hhigh : b ≤ s.high)
    (hmore : 1 < s.owed) (rest : List UInt8) :
    decodeFrom (some s) (UInt8.ofNat b :: rest) =
      decodeFrom (some ⟨s.owed - 1, 0x80, 0xBF, s.value * 64 + (b - 0x80)⟩) rest := by
  have hnat : (UInt8.ofNat b).toNat = b := Nat.mod_eq_of_lt hb
  have howed : ¬ s.owed ≤ 1 := by omega
  simp [decodeFrom, step, hnat, hlow, hhigh, howed]

theorem decodeFrom_lead {s : Begun} {b : Nat} (hb : b < 256) (hascii : 0x80 ≤ b)
    (hs : Begun.ofLead b = some s) (rest : List UInt8) :
    decodeFrom none (UInt8.ofNat b :: rest) = decodeFrom (some s) rest := by
  have hnat : (UInt8.ofNat b).toNat = b := Nat.mod_eq_of_lt hb
  have hlarge : ¬ b < 0x80 := by omega
  simp [decodeFrom, step, first, hnat, hlarge, hs]

/-- The lead of three octets: it bounds the second one so that the number is neither written too
long nor that of a surrogate. -/
theorem exists_ofLead_three {v : Nat} (hlow : 0x800 ≤ v) (hhigh : v ≤ 0xFFFF)
    (hscalar : v < 0xD800 ∨ 0xDFFF < v) :
    ∃ low high, Begun.ofLead (v / 4096 % 16 + 224) = some ⟨2, low, high, v / 4096⟩ ∧
      low ≤ v / 64 % 64 + 128 ∧ v / 64 % 64 + 128 ≤ high := by
  unfold Begun.ofLead
  by_cases hfirst : v / 4096 = 0
  · refine ⟨0xA0, 0xBF, ?_, by omega, by omega⟩
    simp [hfirst]
  by_cases hsurrogate : v / 4096 = 13
  · refine ⟨0x80, 0x9F, ?_, by omega, by omega⟩
    simp [hsurrogate]
  · refine ⟨0x80, 0xBF, ?_, by omega, by omega⟩
    rw [if_neg (by omega), if_neg (by omega), if_neg (by omega), if_pos (by omega)]
    simp only [Option.some.injEq, Begun.mk.injEq, true_and]
    omega

/-- The lead of four octets. -/
theorem exists_ofLead_four {v : Nat} (hlow : 0x10000 ≤ v) (hhigh : v < 0x110000) :
    ∃ low high, Begun.ofLead (v / 262144 % 8 + 240) = some ⟨3, low, high, v / 262144⟩ ∧
      low ≤ v / 4096 % 64 + 128 ∧ v / 4096 % 64 + 128 ≤ high := by
  unfold Begun.ofLead
  by_cases hfirst : v / 262144 = 0
  · refine ⟨0x90, 0xBF, ?_, by omega, by omega⟩
    simp [hfirst]
  by_cases hlast : v / 262144 = 4
  · refine ⟨0x80, 0x8F, ?_, by omega, by omega⟩
    simp [hlast]
  · refine ⟨0x80, 0xBF, ?_, by omega, by omega⟩
    rw [if_neg (by omega), if_neg (by omega), if_neg (by omega), if_neg (by omega),
      if_neg (by omega), if_pos (by omega)]
    simp only [Option.some.injEq, Begun.mk.injEq, true_and]
    omega

/-- A character is read from its own octets, whatever comes after them. -/
theorem decodeFrom_encodeChar (c : Char) (rest : List UInt8) :
    decodeFrom none (String.utf8EncodeChar c ++ rest) = some c :: decodeFrom none rest := by
  have hof : ∀ n, n = c.toNat → Char.ofNat n = c := by
    rintro n rfl
    exact Char.ofNat_toNat c
  have hvalid : c.toNat < 0xD800 ∨ 0xDFFF < c.toNat ∧ c.toNat < 0x110000 := c.valid
  have hv : c.val.toNat = c.toNat := rfl
  simp only [String.utf8EncodeChar, hv]
  split
  · next h1 =>
    have hnat : (UInt8.ofNat c.toNat).toNat = c.toNat := Nat.mod_eq_of_lt (by omega)
    have hascii := decode_cons_of_ascii (b := UInt8.ofNat c.toNat) (by omega) rest
    rw [hnat, hof _ rfl] at hascii
    exact hascii
  split
  · next h1 h2 =>
    have hlead : Begun.ofLead (c.toNat / 64 % 32 + 192) =
        some ⟨1, 0x80, 0xBF, c.toNat / 64 % 32 + 192 - 0xC0⟩ := by
      rw [Begun.ofLead, if_pos (by omega)]
    rw [List.cons_append, List.cons_append, List.nil_append,
      decodeFrom_lead (by omega) (by omega) hlead,
      decodeFrom_last (by omega) (by simp only; omega) (by simp only; omega) (by simp)]
    rw [hof _ (by simp only; omega)]
  split
  · next h1 h2 h3 =>
    obtain ⟨low, high, hlead, hlow, hhigh⟩ :=
      exists_ofLead_three (v := c.toNat) (by omega) h3 (by omega)
    simp only [List.cons_append, List.nil_append]
    rw [decodeFrom_lead (by omega) (by omega) hlead,
      decodeFrom_more (by omega) hlow hhigh (by simp),
      decodeFrom_last (by omega) (by simp only; omega) (by simp only; omega) (by simp)]
    rw [hof _ (by simp only; omega)]
  · next h1 h2 h3 =>
    obtain ⟨low, high, hlead, hlow, hhigh⟩ :=
      exists_ofLead_four (v := c.toNat) (by omega) (by omega)
    simp only [List.cons_append, List.nil_append]
    rw [decodeFrom_lead (by omega) (by omega) hlead,
      decodeFrom_more (by omega) hlow hhigh (by simp),
      decodeFrom_more (by omega) (by simp only; omega) (by simp only; omega) (by simp),
      decodeFrom_last (by omega) (by simp only; omega) (by simp only; omega) (by simp)]
    rw [hof _ (by simp only; omega)]

theorem decode_encode (s : List Char) : decode (encode s) = s.map some := by
  induction s with
  | nil => rfl
  | cons c s ih =>
    rw [encode, List.flatMap_cons, List.map_cons, decode, decodeFrom_encodeChar]
    exact congrArg (some c :: ·) ih

/-- What is written has no gap, and is read as it was. -/
@[simp] theorem decode?_encode (s : List Char) : decode? (encode s) = some s := by
  rw [decode?, decode_encode]
  induction s with
  | nil => rfl
  | cons c s ih => simp [List.mapM_cons, ih]

theorem encode_inj : encode s = encode t ↔ s = t := by
  constructor
  · intro h
    have hread := congrArg decode? h
    rw [decode?_encode, decode?_encode] at hread
    exact Option.some.inj hread
  · rintro rfl
    rfl

end LoweringAudit.Utf8
