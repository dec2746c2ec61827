import LoweringAudit.Engine.Reference
/-!
Engines made to measure. A rule engine answers by the first rule whose conditions all hold; a
failing engine refuses one builtin and otherwise answers as the reference engine.
-/
namespace LoweringAudit.Engine

/-- What a rule answers. -/
inductive Answer where
  | ops (names : List String)
  /-- The intrinsic of the FMA4 table, whatever features are enabled. -/
  | intrinsic
  /-- The request itself: builtin, kind, element type and features. -/
  | echo
  deriving DecidableEq, Repr

def Answer.give (r : Request) : Answer → List String
  | ops names => names
  | intrinsic => (Fma4.intrinsicFor r.builtin r.kind r.elem).toList
  | echo => r.builtin :: r.kind.name :: r.elem.name :: r.features.toList

/-- Conditions that are absent hold. -/
structure Rule where
  name : Option String := none
  nameStarts : Option String := none
  kind : Option OperandKind := none
  elem : Option ElementType := none
  feature : Option String := none
  answer : Answer
  deriving DecidableEq, Repr

def Rule.applies (rule : Rule) (r : Request) : Bool :=
  rule.name.all (· == r.builtin) &&
    rule.nameStarts.all (fun s => s.toList.isPrefixOf r.builtin.toList) &&
    rule.kind.all (· == r.kind) && rule.elem.all (· == r.elem) &&
    rule.feature.all fun f => decide (f ∈ r.features)

/-- The first rule that applies decides; without one nothing is produced. -/
def ofRules (name : String) (rules : List Rule) : Engine :=
  ofFunction name fun r =>
    ((rules.find? (·.applies r)).map fun rule => rule.answer.give r).getD []

/-- Fails on one builtin, for the reason given. -/
def failing (builtin reason : String) : Engine where
  name := "failing"
  lower := fun r =>
    if r.builtin = builtin then .error (.notConfigured "failing" reason) else .ok (referenceOps r)

end LoweringAudit.Engine
