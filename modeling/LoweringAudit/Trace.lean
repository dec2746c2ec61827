import LoweringAudit.Text.Search
/-!
A trace is the ordered list of operations that lowering one builtin produced. A pattern is found in
a trace when some operation contains it; where in the trace that is does not matter, but the first
such operation is remembered.
-/
namespace LoweringAudit

structure Trace where
  ops : List String
  deriving DecidableEq, Repr

namespace Trace

def empty : Trace := ⟨[]⟩

instance : EmptyCollection Trace := ⟨empty⟩
instance : Inhabited Trace := ⟨empty⟩

def push (t : Trace) (op : String) : Trace :=
  ⟨t.ops ++ [op]⟩

def size (t : Trace) : Nat :=
  t.ops.length

def isEmpty (t : Trace) : Bool :=
  t.ops.isEmpty

def render (t : Trace) : String :=
  ", ".intercalate t.ops

/-- The first operation that contains the pattern. -/
def firstMatch (t : Trace) (pattern : String) : Option String :=
  t.ops.find? fun op => Text.contains pattern.toList op.toList

def hasMatch (t : Trace) (pattern : String) : Bool :=
  (t.firstMatch pattern).isSome

/-- Whether some operation starts with the target's prefix. -/
def hasPrefix (t : Trace) (start : String) : Bool :=
  t.ops.any fun op => start.toList.isPrefixOf op.toList

@[simp] theorem ops_push (t : Trace) (op : String) : (t.push op).ops = t.ops ++ [op] := rfl

end Trace

end LoweringAudit
