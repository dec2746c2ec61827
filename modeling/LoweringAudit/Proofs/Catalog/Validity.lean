import LoweringAudit.Catalog.Source
import LoweringAudit.Proofs.Catalog.Blame
/-!
Which lists of cases make a catalog. A list is valid when its cases are complete and no two of them
have one key, which says nothing of their order. Main statement: a valid list makes the catalog of
exactly its cases, any other list is refused for its first case at fault, and a catalog holds a
valid list however it was come by.
-/
namespace LoweringAudit.Catalog

/-- The cases are complete, and their keys are distinct in pairs. -/
structure Valid (cs : List Case) : Prop where
  complete : ∀ c ∈ cs, c.Complete
  apart : cs.Pairwise fun b c => b.key ≠ c.key

/-- The case at place `n` of the list, counted from 1. -/
def CaseAt (cs : List Case) (n : Nat) (c : Case) : Prop :=
  ∃ i, cs[i]? = some c ∧ n = i + 1

/-- What is wrong with the case at a place: an empty name, else an empty pattern, else an empty
feature, else the key of a case at an earlier place. -/
inductive PlaceFault (cs : List Case) (n : Nat) : CatalogError → Prop where
  | name {c : Case} (there : CaseAt cs n c) (empty : c.name = "") : PlaceFault cs n (.emptyName n)
  | pattern {c : Case} (there : CaseAt cs n c) (name : c.name ≠ "") (empty : c.pattern = "") :
      PlaceFault cs n (.emptyPattern n c.name)
  | feature {c : Case} (there : CaseAt cs n c) (name : c.name ≠ "") (pattern : c.pattern ≠ "")
      (empty : c.feature = "") : PlaceFault cs n (.emptyFeature n c.name)
  | duplicate {b c : Case} {m : Nat} (there : CaseAt cs n c) (complete : c.Complete)
      (earlier : m < n) (there_earlier : CaseAt cs m b) (same : b.key = c.key) :
      PlaceFault cs n (.duplicate n c.name c.kind c.elem)

/-- The ways to come by a catalog. -/
inductive Obtained (catalog : Catalog) : Prop where
  | embedded (h : Fma4.catalog = .ok catalog)
  | checked {cs : List Case} (h : ofCases cs = .ok catalog)
  | parsed {text defaultFeature : String} (h : parse text defaultFeature = .ok catalog)
  | loaded {source : CatalogSource} {files : Files} {defaultFeature : String}
      (h : source.load files defaultFeature = .ok catalog)

variable {cs ds : List Case} {b c : Case} {n : Nat} {e : CatalogError} {catalog : Catalog}

theorem valid_iff : Valid cs ↔ (∀ c ∈ cs, c.Complete) ∧ (cs.map Case.key).Nodup := by
  rw [List.Nodup, List.pairwise_map]
  constructor
  · intro h
    exact ⟨h.complete, h.apart⟩
  · rintro ⟨hcomplete, hapart⟩
    exact ⟨hcomplete, hapart⟩

theorem Valid.perm (h : Valid cs) (hperm : cs.Perm ds) : Valid ds := by
  obtain ⟨hcomplete, hdistinct⟩ := valid_iff.1 h
  refine valid_iff.2 ⟨fun c hc => hcomplete c (hperm.mem_iff.2 hc), ?_⟩
  exact (hperm.map Case.key).nodup_iff.1 hdistinct

theorem exists_ofCases_iff : (∃ catalog, ofCases cs = .ok catalog) ↔ Valid cs := by
  rw [valid_iff]
  constructor
  · rintro ⟨catalog, h⟩
    obtain rfl := ofCases_eq_ok_iff.1 h
    exact ⟨catalog.complete, catalog.distinct⟩
  · rintro ⟨hcomplete, hdistinct⟩
    exact ⟨⟨cs, hcomplete, hdistinct⟩, ofCases_eq_ok_iff.2 rfl⟩

/-- The cases with their places, as they are checked. -/
def places (cs : List Case) : List Numbered :=
  (cs.zipIdx 1).map fun (c, n) => (n, c)

theorem mem_places_iff : (n, c) ∈ places cs ↔ CaseAt cs n c := by
  simp only [places, List.mem_map, Prod.mk.injEq, Prod.exists, CaseAt,
    List.mk_mem_zipIdx_iff_le_and_getElem?_sub]
  constructor
  · rintro ⟨d, m, ⟨hm, hd⟩, rfl, rfl⟩
    exact ⟨m - 1, hd, by omega⟩
  · rintro ⟨i, hi, rfl⟩
    exact ⟨c, i + 1, ⟨by omega, by simpa using hi⟩, rfl, rfl⟩

theorem increasing_places (cs : List Case) : (places cs).Pairwise fun p q => p.1 < q.1 :=
  List.pairwise_map.2 (Earliest.pairwise_zipIdx cs 1)

/-- A place is at fault when the case there is, among the cases with their places. -/
theorem placeFault_iff : PlaceFault cs n e ↔ ∃ c, CaseAt cs n c ∧ ListFault (places cs) n c e := by
  constructor
  · intro h
    cases h with
    | name there empty => exact ⟨_, there, .name empty⟩
    | pattern there name empty => exact ⟨_, there, .pattern name empty⟩
    | feature there name pattern empty => exact ⟨_, there, .feature name pattern empty⟩
    | duplicate there complete earlier there_earlier same =>
      exact ⟨_, there, .duplicate complete earlier (mem_places_iff.2 there_earlier) same⟩
  · rintro ⟨c, there, h⟩
    cases h with
    | name empty => exact .name there empty
    | pattern name empty => exact .pattern there name empty
    | feature name pattern empty => exact .feature there name pattern empty
    | duplicate complete smaller hb same =>
      exact .duplicate there complete smaller (mem_places_iff.1 hb) same

theorem ofCases_eq_error_iff : ofCases cs = .error e ↔
    ∃ n, PlaceFault cs n e ∧ ∀ m d, m < n → ¬ PlaceFault cs m d := by
  have hcheck : ofCases cs = check (places cs) := rfl
  rw [hcheck, check_eq_error_iff (increasing_places cs)]
  simp only [placeFault_iff, Prod.exists, Prod.forall, mem_places_iff]
  constructor
  · rintro ⟨n, c, there, hfault, hnone⟩
    refine ⟨n, ⟨c, there, hfault⟩, ?_⟩
    rintro m d hlt ⟨b, hb, hd⟩
    exact hnone m b hb hlt d hd
  · rintro ⟨n, ⟨c, there, hfault⟩, hnone⟩
    refine ⟨n, c, there, hfault, ?_⟩
    intro m b hb hlt d hd
    exact hnone m d hlt ⟨b, hb, hd⟩

/-- The list of the catalog built in is valid. -/
theorem valid_fma4 : Valid Fma4.cases :=
  valid_iff.2 ⟨by decide, by decide⟩

/-- Every way to a catalog leads through the check of a list of cases. -/
theorem Obtained.exists_ofCases (h : Obtained catalog) : ∃ cs, ofCases cs = .ok catalog := by
  have hembedded : ∀ {c : Catalog}, Fma4.catalog = .ok c → ∃ cs, ofCases cs = .ok c :=
    fun h => ⟨Fma4.cases, h⟩
  have hparsed : ∀ {text defaultFeature : String} {c : Catalog},
      parse text defaultFeature = .ok c → ∃ cs, ofCases cs = .ok c := by
    intro text defaultFeature c h
    obtain ⟨numbered, -, hcheck⟩ := Paired.bind_eq_ok_iff.1 h
    exact ⟨numbered.map Prod.snd, ofCases_eq_ok_iff.2 (check_eq_ok_iff.1 hcheck).symm⟩
  cases h with
  | embedded h => exact hembedded h
  | checked h => exact ⟨_, h⟩
  | parsed h => exact hparsed h
  | @loaded source files defaultFeature h =>
    cases source with
    | embedded => exact hembedded h
    | file path =>
      cases hread : files.readText path with
      | error cause => simp [CatalogSource.load, hread] at h
      | ok text =>
        simp only [CatalogSource.load, hread] at h
        exact hparsed h

/-- A list of cases makes a catalog exactly when it is valid, and then the catalog of just these
cases in their order; else the error is that of the least place at fault. So the order of a list
does not decide whether it is accepted, and the cases of every catalog are valid and make that
catalog again. -/
theorem ofCases_exact (cs : List Case) :
    ((∃ catalog, ofCases cs = .ok catalog) ↔ Valid cs) ∧
    (∀ catalog, ofCases cs = .ok catalog → catalog.cases = cs) ∧
    (∀ e, ofCases cs = .error e ↔ ∃ n, PlaceFault cs n e ∧ ∀ m d, m < n → ¬ PlaceFault cs m d) ∧
    (∀ ds, cs.Perm ds →
      ((∃ catalog, ofCases cs = .ok catalog) ↔ ∃ catalog, ofCases ds = .ok catalog)) ∧
    ∀ catalog, Obtained catalog → Valid catalog.cases ∧ ofCases catalog.cases = .ok catalog := by
  refine ⟨exists_ofCases_iff, fun catalog h => ofCases_eq_ok_iff.1 h,
    fun e => ofCases_eq_error_iff, fun ds hperm => ?_, fun catalog h => ?_⟩
  · rw [exists_ofCases_iff, exists_ofCases_iff]
    exact ⟨fun h => h.perm hperm, fun h => h.perm hperm.symm⟩
  · obtain ⟨ds, hds⟩ := h.exists_ofCases
    obtain rfl := ofCases_eq_ok_iff.1 hds
    exact ⟨exists_ofCases_iff.1 ⟨catalog, hds⟩, hds⟩

/-- The third place repeats the key of the first and has no feature, which is looked at before. -/
example : ofCases [⟨"a", .packed128, .float32, "x", "f"⟩, ⟨"b", .packed128, .float32, "x", "f"⟩,
    ⟨"a", .packed128, .float32, "y", ""⟩] = .error (.emptyFeature 3 "a") := by
  rfl

end LoweringAudit.Catalog
