import LoweringAudit.Text.CharSet
import LoweringAudit.Text.Utf8
/-!
Sets of characters as automata over octets. The characters of a set are taken apart into ranges
whose encodings are a range of octets in each place; read forward, ranges with equal ends share
them, and read backward, ranges with equal starts do.
-/
namespace LoweringAudit.Regex.Octets

/-- A first and a last number. -/
abbrev Interval := Nat × Nat

/-- The parts of an interval before and after numbers in order. -/
def cut : List Nat → Interval → List Interval
  | [], i => [i]
  | c :: rest, (low, high) =>
    if low < c ∧ c ≤ high then (low, c - 1) :: cut rest (c, high) else cut rest (low, high)

/-- The parts of an interval each of which is a whole number of units, or lies within one; the
units grow. -/
def align : List Nat → Interval → List Interval
  | [], i => [i]
  | unit :: units, (low, high) =>
    if low / unit = high / unit then [(low, high)]
    else
      let first := if low % unit = 0 then low else (low / unit + 1) * unit
      let last := if (high + 1) % unit = 0 then high + 1 else high / unit * unit
      (if low < first then [(low, first - 1)] else []) ++
        (if first < last then align units (first, last - 1) else []) ++
        (if last ≤ high then [(last, high)] else [])

/-- Where the number of octets of a character changes, and where there are no characters. -/
def breaks : List Nat := [0x80, 0x800, 0xD800, 0xE000, 0x10000]

/-- The ranges of octets that encode an interval of characters. -/
def encode (i : Interval) : List Interval :=
  let octets (n : Nat) := (Utf8.encode [Char.ofNat n]).map UInt8.toNat
  (octets i.1).zip (octets i.2)

/-- The encodings of a set, in order. -/
def encodings (s : CharSet) : List (List Interval) :=
  let parts := (s.ranges.flatMap (cut breaks)).filter fun i => i.1 < 0xD800 ∨ 0xE000 ≤ i.1
  (parts.flatMap (align [0x40, 0x1000, 0x40000])).map encode

/-- A state: intervals of octets and the states that they lead to, by number. -/
abbrev Node := List (Interval × Nat)

/-- The number of a state among those there are, which it joins if it is new. Zero is the end. -/
def number (n : Node) : StateM (List Node) Nat := do
  let known ← get
  match known.idxOf? n with
  | some i => return known.length - i
  | none =>
    set (n :: known)
    return known.length + 1

/-- The state from which encodings of some length are read. -/
def readFrom : Nat → List (List Interval) → StateM (List Node) Nat
  | 0, _ => return 0
  | length + 1, list => do
    let groups := list.splitBy fun a b => a.head? == b.head?
    let node ← groups.mapM fun group => do
      let target ← if group.all (·.tail.isEmpty) then pure 0
        else readFrom length (group.map List.tail)
      return ((group.head?.bind List.head?).getD (0, 0), target)
    number node

/-- The states that read a set forward, without the end. -/
def states (s : CharSet) : List Node :=
  ((readFrom 4 (encodings s)).run []).2

/-- How many intervals two encodings have in common at their starts. -/
def common : List Interval → List Interval → Nat
  | a :: s, b :: t => if a = b then 1 + common s t else 0
  | _, _ => 0

/-- How many states read encodings backward, when equal starts are shared. -/
def backwardStates : List Interval → List (List Interval) → Nat
  | _, [] => 0
  | before, e :: rest => e.length - common before e + backwardStates e rest

example : encodings (.range 'a' 'z') = [[(97, 122)]] := by decide +kernel
example : encodings (.span 0x7F 0x80) = [[(0x7F, 0x7F)], [(0xC2, 0xC2), (0x80, 0x80)]] := by
  decide +kernel

end LoweringAudit.Regex.Octets
