/-!
UTF-8. A decoder reads octets one at a time, holding the sequence it is in the middle of. Each
maximal part of the input that starts no well-formed sequence is one gap: reading a file refuses a
text with gaps, reading a program's output writes U+FFFD for each.
-/
namespace LoweringAudit.Utf8

def encode (s : List Char) : List UInt8 :=
  s.flatMap String.utf8EncodeChar

@[simp] theorem encode_nil : encode [] = [] := rfl
@[simp] theorem encode_append (s t : List Char) : encode (s ++ t) = encode s ++ encode t := by
  simp [encode]

/-- A sequence begun: the octets still owed, the range of the next one, and the value so far. -/
structure Begun where
  owed : Nat
  low : Nat
  high : Nat
  value : Nat
  deriving DecidableEq, Repr

/-- What a leading octet begins. Overlong forms, surrogates and values past U+10FFFF are kept out
by the range of the second octet. -/
def Begun.ofLead (b : Nat) : Option Begun :=
  if 0xC2 ≤ b ∧ b ≤ 0xDF then some ⟨1, 0x80, 0xBF, b - 0xC0⟩
  else if b = 0xE0 then some ⟨2, 0xA0, 0xBF, 0⟩
  else if b = 0xED then some ⟨2, 0x80, 0x9F, 0xD⟩
  else if 0xE1 ≤ b ∧ b ≤ 0xEF then some ⟨2, 0x80, 0xBF, b - 0xE0⟩
  else if b = 0xF0 then some ⟨3, 0x90, 0xBF, 0⟩
  else if 0xF1 ≤ b ∧ b ≤ 0xF3 then some ⟨3, 0x80, 0xBF, b - 0xF0⟩
  else if b = 0xF4 then some ⟨3, 0x80, 0x8F, 4⟩
  else none

/-- An octet between characters: what it completes (`none` is a gap) and what it begins. -/
def first (b : Nat) : List (Option Char) × Option Begun :=
  if b < 0x80 then ([some (Char.ofNat b)], none)
  else match Begun.ofLead b with
    | some s => ([], some s)
    | none => ([none], none)

/-- One octet. An octet that cannot continue the sequence ends it as a gap and is read anew. -/
def step : Option Begun → Nat → List (Option Char) × Option Begun
  | none, b => first b
  | some s, b =>
    if s.low ≤ b ∧ b ≤ s.high then
      let value := s.value * 64 + (b - 0x80)
      if s.owed ≤ 1 then ([some (Char.ofNat value)], none)
      else ([], some ⟨s.owed - 1, 0x80, 0xBF, value⟩)
    else (none :: (first b).1, (first b).2)

def decodeFrom : Option Begun → List UInt8 → List (Option Char)
  | none, [] => []
  | some _, [] => [none]
  | s, b :: rest => (step s b.toNat).1 ++ decodeFrom (step s b.toNat).2 rest

/-- The characters of an octet sequence, `none` for each gap. -/
def decode (octets : List UInt8) : List (Option Char) :=
  decodeFrom none octets

/-- U+FFFD, the mark of a gap. -/
def replacement : Char := '\uFFFD'

def decodeLossy (octets : List UInt8) : List Char :=
  (decode octets).map (·.getD replacement)

/-- The text of a sequence without gaps. -/
def decode? (octets : List UInt8) : Option (List Char) :=
  (decode octets).mapM id

theorem first_of_ascii {b : Nat} (h : b < 0x80) : first b = ([some (Char.ofNat b)], none) := by
  simp [first, h]

/-- Between characters an ASCII octet stands for itself. -/
theorem decode_cons_of_ascii {b : UInt8} (h : b.toNat < 0x80) (rest : List UInt8) :
    decode (b :: rest) = some (Char.ofNat b.toNat) :: decode rest := by
  simp [decode, decodeFrom, step, first_of_ascii h]

end LoweringAudit.Utf8
