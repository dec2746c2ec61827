import LoweringAudit.Builtin
import LoweringAudit.Fault
/-!
A catalog is an ordered list of complete cases with pairwise distinct keys. It is built only by
checking a numbered list of cases; the first fault in list order refuses the whole list. Main
statement: `firstFault` finds nothing exactly when the list is one a catalog can hold.
-/
namespace LoweringAudit

inductive CatalogError where
  | unreadable (path : String) (cause : Fault)
  | fieldCount (line got : Nat)
  | unknownKind (line : Nat) (value : String)
  | unknownElem (line : Nat) (value : String)
  | emptyName (line : Nat)
  | emptyPattern (line : Nat) (name : String)
  | emptyFeature (line : Nat) (name : String)
  | duplicate (line : Nat) (name : String) (kind : OperandKind) (elem : ElementType)
  deriving DecidableEq, Repr

namespace CatalogError

/-- The words "line L: " before a fault found in a line. -/
def atLine (line : Nat) (text : String) : String :=
  "line " ++ toString line ++ ": " ++ text

def message : CatalogError → String
  | unreadable path _ => "failed to read catalog " ++ path
  | fieldCount line got =>
    atLine line ("expected 4 or 5 comma-separated fields, got " ++ toString got)
  | unknownKind line value => atLine line ("unknown operand kind '" ++ value ++ "'")
  | unknownElem line value => atLine line ("unknown element type '" ++ value ++ "'")
  | emptyName line => atLine line "empty builtin name"
  | emptyPattern line name =>
    atLine line ("builtin '" ++ name ++ "' has an empty expected pattern")
  | emptyFeature line name =>
    atLine line ("builtin '" ++ name ++ "' has an empty required feature")
  | duplicate line name kind elem =>
    atLine line ("duplicate case " ++ name ++ " " ++ kind.name ++ " " ++ elem.name)

def cause? : CatalogError → Option Fault
  | unreadable _ cause => some cause
  | _ => none

end CatalogError

structure Catalog where
  cases : List Case
  complete : ∀ c ∈ cases, c.Complete
  distinct : (cases.map Case.key).Nodup

namespace Catalog

/-- A case and the line it was read from. -/
abbrev Numbered := Nat × Case

/-- The fault of one case, given the keys before it. -/
def fault? (seen : List Case.Key) (line : Nat) (c : Case) : Option CatalogError :=
  if c.name = "" then some (.emptyName line)
  else if c.pattern = "" then some (.emptyPattern line c.name)
  else if c.feature = "" then some (.emptyFeature line c.name)
  else if c.key ∈ seen then some (.duplicate line c.name c.kind c.elem)
  else none

theorem fault?_eq_none_iff {seen : List Case.Key} {line : Nat} {c : Case} :
    fault? seen line c = none ↔ c.Complete ∧ c.key ∉ seen := by
  unfold fault? Case.Complete
  split <;> simp_all
  split <;> simp_all
  split <;> simp_all

def firstFault (seen : List Case.Key) : List Numbered → Option CatalogError
  | [] => none
  | (line, c) :: rest =>
    match fault? seen line c with
    | some e => some e
    | none => firstFault (c.key :: seen) rest

theorem firstFault_eq_none_iff {seen : List Case.Key} {cs : List Numbered} :
    firstFault seen cs = none ↔
      (∀ c ∈ cs.map Prod.snd, c.Complete) ∧ ((cs.map Prod.snd).map Case.key).Nodup ∧
        ∀ k ∈ (cs.map Prod.snd).map Case.key, k ∉ seen := by
  induction cs generalizing seen with
  | nil => simp [firstFault]
  | cons p rest ih =>
    obtain ⟨line, c⟩ := p
    cases h : fault? seen line c with
    | some e =>
      have hn : ¬ (c.Complete ∧ c.key ∉ seen) := by
        intro hc; exact absurd (fault?_eq_none_iff.2 hc) (by rw [h]; simp)
      simp only [firstFault, h, List.map_cons, List.mem_cons, forall_eq_or_imp]
      constructor
      · intro hc; cases hc
      · intro hc; exact absurd ⟨hc.1.1, hc.2.2.1⟩ hn
    | none =>
      have hc := fault?_eq_none_iff.1 h
      simp only [firstFault, h, ih, List.map_cons, List.mem_cons, forall_eq_or_imp,
        List.nodup_cons, not_or]
      constructor
      · rintro ⟨hall, hnd, hk⟩
        exact ⟨⟨hc.1, hall⟩, ⟨fun hm => (hk _ hm).1 rfl, hnd⟩, hc.2, fun k hm => (hk k hm).2⟩
      · rintro ⟨⟨_, hall⟩, ⟨hnew, hnd⟩, _, hk⟩
        exact ⟨hall, hnd, fun k hm => ⟨fun he => hnew (he ▸ hm), hk k hm⟩⟩

/-- The catalog of a numbered list, or its first fault. -/
def check (cs : List Numbered) : Except CatalogError Catalog :=
  match h : firstFault [] cs with
  | some e => .error e
  | none =>
    .ok ⟨cs.map Prod.snd, (firstFault_eq_none_iff.1 h).1, (firstFault_eq_none_iff.1 h).2.1⟩

/-- The catalog of a list of cases, whose places count as lines from 1. -/
def ofCases (cs : List Case) : Except CatalogError Catalog :=
  check ((cs.zipIdx 1).map fun (c, line) => (line, c))

def size (catalog : Catalog) : Nat :=
  catalog.cases.length

end Catalog

end LoweringAudit
