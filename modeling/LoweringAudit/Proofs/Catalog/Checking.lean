import LoweringAudit.Catalog.Basic
import LoweringAudit.Proofs.Earliest
/-!
What checking a list of cases accepts and refuses. A catalog carries the proof that its cases are
complete and their keys distinct, so a check that finds no fault gives the catalog of exactly these
cases, and each catalog comes from its own list. A check that fails finds the fault of the case with
the least number among those that have one.
-/
namespace LoweringAudit.Catalog

@[ext] theorem ext_cases {c d : Catalog} (h : c.cases = d.cases) : c = d := by
  cases c
  cases d
  cases h
  rfl

/-- A catalog's own cases hold no fault, whatever lines they are from. -/
theorem firstFault_eq_none (catalog : Catalog) {cs : List Numbered}
    (h : cs.map Prod.snd = catalog.cases) : firstFault [] cs = none := by
  apply firstFault_eq_none_iff.2
  rw [h]
  exact ⟨catalog.complete, catalog.distinct, fun _ _ => List.not_mem_nil⟩

theorem check_eq_ok_iff {cs : List Numbered} {catalog : Catalog} :
    check cs = .ok catalog ↔ cs.map Prod.snd = catalog.cases := by
  unfold check
  split
  · next e he =>
    constructor
    · intro h
      cases h
    · intro h
      rw [firstFault_eq_none catalog h] at he
      cases he
  · constructor
    · intro h
      cases h
      rfl
    · intro h
      exact congrArg Except.ok (ext_cases h)

theorem ofCases_eq_ok_iff {cs : List Case} {catalog : Catalog} :
    ofCases cs = .ok catalog ↔ catalog.cases = cs := by
  have hcases : (cs.zipIdx 1).map Prod.fst = cs := List.zipIdx_map_fst 1 cs
  rw [ofCases, check_eq_ok_iff, List.map_map]
  change (cs.zipIdx 1).map Prod.fst = catalog.cases ↔ _
  rw [hcases]
  exact eq_comm

/-- What is wrong with a case of a numbered list: an empty name, else an empty pattern, else an
empty feature, else the key of a case with a smaller number. -/
inductive ListFault (all : List Numbered) (n : Nat) (c : Case) : CatalogError → Prop where
  | name (empty : c.name = "") : ListFault all n c (.emptyName n)
  | pattern (name : c.name ≠ "") (empty : c.pattern = "") :
      ListFault all n c (.emptyPattern n c.name)
  | feature (name : c.name ≠ "") (pattern : c.pattern ≠ "") (empty : c.feature = "") :
      ListFault all n c (.emptyFeature n c.name)
  | duplicate {m : Nat} {b : Case} (complete : c.Complete) (smaller : m < n) (there : (m, b) ∈ all)
      (same : b.key = c.key) : ListFault all n c (.duplicate n c.name c.kind c.elem)

variable {all : List Numbered} {n : Nat} {c : Case} {e : CatalogError} {seen : List Case.Key}

/-- With the keys of smaller numbers at hand, the check of a case finds its fault. -/
theorem fault?_eq_some_iff (hseen : ∀ k, k ∈ seen ↔ ∃ p ∈ all, p.1 < n ∧ p.2.key = k) :
    fault? seen n c = some e ↔ ListFault all n c e := by
  constructor
  · intro h
    unfold fault? at h
    split at h
    · next hname =>
      cases h
      exact .name hname
    split at h
    · next hname hpattern =>
      cases h
      exact .pattern hname hpattern
    split at h
    · next hname hpattern hfeature =>
      cases h
      exact .feature hname hpattern hfeature
    split at h
    · next hname hpattern hfeature hkey =>
      cases h
      obtain ⟨p, hp, hlt, hsame⟩ := (hseen c.key).1 hkey
      exact .duplicate ⟨hname, hpattern, hfeature⟩ hlt hp hsame
    · cases h
  · intro h
    cases h with
    | name hempty => simp [fault?, hempty]
    | pattern hname hempty => simp [fault?, hname, hempty]
    | feature hname hpattern hempty => simp [fault?, hname, hpattern, hempty]
    | duplicate hcomplete hlt hp hsame =>
      have hkey := (hseen c.key).2 ⟨_, hp, hlt, hsame⟩
      obtain ⟨hname, hpattern, hfeature⟩ := hcomplete
      simp [fault?, hname, hpattern, hfeature, hkey]

/-- The check of the cases after those `passed` finds the fault of the first one that has one. -/
theorem firstFault_eq_some_iff {passed rest : List Numbered}
    (hincreasing : all.Pairwise fun p q => p.1 < q.1) (hall : all = passed ++ rest)
    (hseen : ∀ k, k ∈ seen ↔ ∃ p ∈ passed, p.2.key = k) :
    firstFault seen rest = some e ↔
      Earliest (fun p => ListFault all p.1 p.2 e) (fun p => ∀ d, ¬ ListFault all p.1 p.2 d)
        rest := by
  -- The induction moves a case at a time from `rest` to `passed`, and its key to `seen`.
  induction rest generalizing passed seen with
  | nil => simp [firstFault]
  | cons p rest ih =>
    obtain ⟨n, c⟩ := p
    have hpassed : ∀ q, q ∈ passed ↔ q ∈ all ∧ q.1 < n := by
      intro q
      rw [hall] at hincreasing ⊢
      exact Earliest.mem_before_iff hincreasing
    -- `passed` holds all cases of smaller numbers, so `seen` is what a fault of this one is about.
    have hfault : ∀ d, fault? seen n c = some d ↔ ListFault all n c d := by
      intro d
      apply fault?_eq_some_iff
      intro k
      simp only [hseen, hpassed, and_assoc]
    have hkeys : ∀ k, k ∈ c.key :: seen ↔ ∃ q ∈ passed ++ [(n, c)], q.2.key = k := by
      intro k
      simp only [List.mem_cons, hseen, List.mem_append, List.not_mem_nil, or_false, or_and_right,
        exists_or, exists_eq_left, eq_comm (a := k)]
      exact or_comm
    have hnext := ih (by simp [hall]) hkeys
    simp only [Earliest.cons_iff, ← hfault, ← hnext, firstFault]
    cases fault? seen n c with
    | some d => simp
    | none => simp

theorem check_eq_error_iff_firstFault : check all = .error e ↔ firstFault [] all = some e := by
  unfold check
  split
  · next d hd => simp [hd]
  · next hd => simp [hd]

/-- A list whose numbers increase is refused for the least of them whose case is at fault. -/
theorem check_eq_error_iff (hincreasing : all.Pairwise fun p q => p.1 < q.1) :
    check all = .error e ↔ ∃ p ∈ all, ListFault all p.1 p.2 e ∧
      ∀ q ∈ all, q.1 < p.1 → ∀ d, ¬ ListFault all q.1 q.2 d := by
  have hall : all = [] ++ all := rfl
  rw [check_eq_error_iff_firstFault, firstFault_eq_some_iff hincreasing hall (by simp),
    Earliest.iff_of_increasing hincreasing]

end LoweringAudit.Catalog
