import LoweringAudit.Text.Utf8
/-!
Where a report is written. A sink takes octets up to its limit; a text that does not fit is taken as
far as there is room, and the write fails.
-/
namespace LoweringAudit

structure Sink where
  limit : Option Nat
  held : List UInt8
  deriving DecidableEq, Repr

namespace Sink

def unlimited : Sink := ⟨none, []⟩

def ofLimit (limit : Nat) : Sink := ⟨some limit, []⟩

/-- How many of `n` more octets there is room for. -/
def room (s : Sink) (n : Nat) : Nat :=
  match s.limit with
  | none => n
  | some limit => min n (limit - s.held.length)

/-- Writes a text: whether all of it fitted, and the sink afterwards. -/
def write (s : Sink) (text : String) : Bool × Sink :=
  let octets := Utf8.encode text.toList
  let taken := s.room octets.length
  (taken == octets.length, { s with held := s.held ++ octets.take taken })

end Sink

end LoweringAudit
