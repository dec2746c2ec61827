import LoweringAudit.Engine.Reference
import LoweringAudit.Proofs.Audit.Run
/-!
Audits of the reference engine. Two gates stand before its table, the feature of the case and the
feature of the table, and behind them a case has one operation at most. Main statement: the engine
never ends a run; a case passes exactly when both gates are open and its one intrinsic contains the
pattern and begins with the prefix; features count only where a gate asks for them, and more of them
take no case away that passes.
-/
namespace LoweringAudit

/-- The case's operations: those of the FMA4 table, where both the case and the table have their
feature. -/
def Case.referenceOps (features : FeatureSet) (c : Case) : List String :=
  if c.feature ∈ features ∧ Fma4.feature ∈ features then
    (Fma4.intrinsicFor c.name c.kind c.elem).toList
  else []

namespace Case

variable {features more : FeatureSet} {c : Case} {targetPrefix op : String}

theorem mem_referenceOps_iff : op ∈ c.referenceOps features ↔
    c.feature ∈ features ∧ Fma4.feature ∈ features ∧
      Fma4.intrinsicFor c.name c.kind c.elem = some op := by
  unfold referenceOps
  split
  · next h => simp [h.1, h.2]
  · next h =>
    simp only [List.not_mem_nil, false_iff]
    rintro ⟨hcase, hown, -⟩
    exact h ⟨hcase, hown⟩

/-- Only the two gates look at the features. -/
theorem referenceOps_congr (hcase : c.feature ∈ features ↔ c.feature ∈ more)
    (hown : Fma4.feature ∈ features ↔ Fma4.feature ∈ more) :
    c.referenceOps features = c.referenceOps more := by
  simp only [referenceOps, hcase, hown]

/-- The verdict on the case's operations. -/
def referenceVerdict (targetPrefix : String) (features : FeatureSet) (c : Case) : Verdict :=
  .judge targetPrefix c ⟨c.referenceOps features⟩

/-- The pattern and the prefix are looked for in the same operation, because there is no other. -/
theorem passed_referenceVerdict_iff : (c.referenceVerdict targetPrefix features).passed = true ↔
    c.feature ∈ features ∧ Fma4.feature ∈ features ∧
      ∃ op, Fma4.intrinsicFor c.name c.kind c.elem = some op ∧
        c.pattern.toList <:+: op.toList ∧ targetPrefix.toList <+: op.toList := by
  simp only [referenceVerdict, Verdict.judge, Verdict.passed, Bool.and_eq_true,
    Trace.isSome_firstMatch_iff, Trace.hasPrefix_eq_true_iff, mem_referenceOps_iff]
  constructor
  · rintro ⟨⟨op, ⟨hcase, hown, hop⟩, hpattern⟩, other, ⟨-, -, hother⟩, hprefix⟩
    rw [hop] at hother
    cases hother
    exact ⟨hcase, hown, op, hop, hpattern, hprefix⟩
  · rintro ⟨hcase, hown, op, hop, hpattern, hprefix⟩
    exact ⟨⟨op, ⟨hcase, hown, hop⟩, hpattern⟩, op, ⟨hcase, hown, hop⟩, hprefix⟩

/-- A case that passes has both gates open, and they stay open with more features. -/
theorem referenceVerdict_of_passed (hmore : ∀ f ∈ features, f ∈ more)
    (h : (c.referenceVerdict targetPrefix features).passed = true) :
    c.referenceVerdict targetPrefix more = c.referenceVerdict targetPrefix features := by
  obtain ⟨hcase, hown, -⟩ := passed_referenceVerdict_iff.1 h
  have hops : c.referenceOps more = c.referenceOps features := by
    apply referenceOps_congr
    · exact iff_of_true (hmore _ hcase) hcase
    · exact iff_of_true (hmore _ hown) hown
  rw [referenceVerdict, hops, referenceVerdict]

end Case

namespace Audit

/-- A fresh audit of the reference engine. -/
def ofReference (catalog : Catalog) (targetPrefix : String) (verbose : Bool)
    (features : FeatureSet) : Audit where
  catalog := catalog
  engine := .reference
  features := features
  targetPrefix := targetPrefix
  verbose := verbose

variable (catalog : Catalog) (targetPrefix : String) (verbose : Bool) (features : FeatureSet)

theorem judges_referenceVerdict (c : Case) :
    (ofReference catalog targetPrefix verbose features).Judges c
      (c.referenceVerdict targetPrefix features) := by
  refine judges_judge (a := ofReference catalog targetPrefix verbose features) ?_ ?_
  · intro hcase
    exact if_neg fun h => hcase h.1
  · intro hcase
    simp only [ofReference] at hcase
    simp [ofReference, Engine.reference, Engine.ofFunction, Engine.referenceOps, Case.request,
      Case.referenceOps, hcase]

/-- Every case has a verdict, so a run of some cases completes unless there is no room. -/
theorem judges_referenceVerdicts (cs : List Case) :
    List.Forall₂ (ofReference catalog targetPrefix verbose features).Judges cs
      (cs.map (Case.referenceVerdict targetPrefix features)) := by
  rw [List.forall₂_map_right_iff, List.forall₂_same]
  intro c _
  exact judges_referenceVerdict catalog targetPrefix verbose features c

theorem run_ofReference (s : Sink) :
    ((ofReference catalog targetPrefix verbose features).run s).2.outcome =
        .ok (catalog.cases.map (Case.referenceVerdict targetPrefix features)) ∨
      ((ofReference catalog targetPrefix verbose features).run s).2.outcome =
        .error (.report .sinkFull) := by
  rw [run_of_notStarted rfl]
  exact outcome_runCases
    (judges_referenceVerdicts catalog targetPrefix verbose features catalog.cases) s

theorem run_ofReference_unlimited :
    ((ofReference catalog targetPrefix verbose features).run .unlimited).2.outcome =
      .ok (catalog.cases.map (Case.referenceVerdict targetPrefix features)) := by
  exact (run_of_judges rfl
    (judges_referenceVerdicts catalog targetPrefix verbose features catalog.cases)).1

variable {catalog targetPrefix verbose features} in
theorem eq_of_run_ofReference {s : Sink} {vs : List Verdict}
    (h : ((ofReference catalog targetPrefix verbose features).run s).2.outcome = .ok vs) :
    vs = catalog.cases.map (Case.referenceVerdict targetPrefix features) := by
  rcases run_ofReference catalog targetPrefix verbose features s with hrun | hrun
  · rw [hrun] at h
    cases h
    rfl
  · rw [hrun] at h
    cases h

/-- Whatever the catalog, the prefix and the verbosity: no run of the reference engine fails by the
engine, and one with room for its report completes. A case passes exactly when its feature and the
table's are enabled and its intrinsic contains its pattern and begins with the prefix. A case that
passes does so with more features, and with the same trace. Features that agree on that of the table
and on those of the cases give the same results and the same report in every sink. -/
theorem reference_verdicts (catalog : Catalog) (targetPrefix : String) (verbose : Bool)
    (features : FeatureSet) :
    (∀ s e, ((ofReference catalog targetPrefix verbose features).run s).2.outcome ≠
      .error (.lowering e)) ∧
    (∃ vs, ((ofReference catalog targetPrefix verbose features).run .unlimited).2.outcome =
      .ok vs) ∧
    (∀ s vs, ((ofReference catalog targetPrefix verbose features).run s).2.outcome = .ok vs →
      vs.map Verdict.case = catalog.cases ∧
      ∀ v ∈ vs, v.passed = true ↔ v.case.feature ∈ features ∧ Fma4.feature ∈ features ∧
        ∃ op, Fma4.intrinsicFor v.case.name v.case.kind v.case.elem = some op ∧
          v.case.pattern.toList <:+: op.toList ∧ targetPrefix.toList <+: op.toList) ∧
    (∀ more : FeatureSet, (∀ f ∈ features, f ∈ more) → ∀ s t vs ws,
      ((ofReference catalog targetPrefix verbose features).run s).2.outcome = .ok vs →
      ((ofReference catalog targetPrefix verbose more).run t).2.outcome = .ok ws →
      List.Forall₂ (fun v w => w.case = v.case ∧
        (v.passed = true → w.passed = true ∧ w.trace = v.trace)) vs ws) ∧
    ∀ other : FeatureSet, (Fma4.feature ∈ features ↔ Fma4.feature ∈ other) →
      (∀ c ∈ catalog.cases, c.feature ∈ features ↔ c.feature ∈ other) → ∀ s,
      ((ofReference catalog targetPrefix verbose features).run s).2.outcome =
          ((ofReference catalog targetPrefix verbose other).run s).2.outcome ∧
        ((ofReference catalog targetPrefix verbose features).run s).2.sink =
          ((ofReference catalog targetPrefix verbose other).run s).2.sink := by
  refine ⟨?_, ⟨_, run_ofReference_unlimited catalog targetPrefix verbose features⟩, ?_, ?_, ?_⟩
  · intro s e h
    rcases run_ofReference catalog targetPrefix verbose features s with hrun | hrun
    · rw [hrun] at h
      cases h
    · rw [hrun] at h
      cases h
  · intro s vs h
    obtain rfl := eq_of_run_ofReference h
    refine ⟨by simp [Function.comp_def, Case.referenceVerdict, Verdict.judge], ?_⟩
    intro v hv
    obtain ⟨c, -, rfl⟩ := List.mem_map.1 hv
    exact Case.passed_referenceVerdict_iff
  · intro more hmore s t vs ws hvs hws
    obtain rfl := eq_of_run_ofReference hvs
    obtain rfl := eq_of_run_ofReference hws
    rw [List.forall₂_map_left_iff, List.forall₂_map_right_iff, List.forall₂_same]
    intro c _
    refine ⟨rfl, fun hpassed => ?_⟩
    rw [Case.referenceVerdict_of_passed hmore hpassed]
    exact ⟨hpassed, rfl⟩
  · intro other hown hcases s
    refine run_congr (a := ofReference catalog targetPrefix verbose features)
      (b := ofReference catalog targetPrefix verbose other) rfl rfl rfl (fun c hc => ?_)
      (fun _ => rfl) s
    have hops := Case.referenceOps_congr (hcases c hc) hown
    rw [judged_eq_ok_iff.2 (judges_referenceVerdict catalog targetPrefix verbose features c),
      judged_eq_ok_iff.2 (judges_referenceVerdict catalog targetPrefix verbose other c),
      Case.referenceVerdict, hops, Case.referenceVerdict]

/-- Three cases of the table's feature, of another one, and of a form that the table lacks. -/
def twoGates : Catalog :=
  ⟨[⟨"macc_ps", .packed128, .float32, "vfmadd.ps", "fma4"⟩,
    ⟨"macc_ps", .packed256, .float32, "vfmadd.ps.256", "avx"⟩,
    ⟨"maddsub_ss", .scalar128, .float32, "vfmaddsub", "fma4"⟩], by decide, by decide⟩

/-- One more feature lets one more case pass, and a feature that nothing asks for changes nothing.
-/
theorem reference_verdicts_two_gates :
    let runWith := fun features =>
      ((ofReference twoGates "" false (.ofList features)).run .unlimited).2
    (∃ vs ws, (runWith ["fma4"]).outcome = .ok vs ∧ (runWith ["avx", "fma4"]).outcome = .ok ws ∧
      List.Forall₂ (fun v w => w.case = v.case ∧
        (v.passed = true → w.passed = true ∧ w.trace = v.trace)) vs ws ∧
      vs.map Verdict.passed = [true, false, false] ∧
      ws.map Verdict.passed = [true, true, false]) ∧
    (runWith ["fma4"]).outcome = (runWith ["fma4", "sse2"]).outcome ∧
      (runWith ["fma4"]).sink = (runWith ["fma4", "sse2"]).sink := by
  intro runWith
  obtain ⟨-, -, -, hmore, hsame⟩ := reference_verdicts twoGates "" false (.ofList ["fma4"])
  refine ⟨⟨_, _, run_ofReference_unlimited .., run_ofReference_unlimited .., ?_, ?_, ?_⟩, ?_⟩
  · refine hmore (.ofList ["avx", "fma4"]) ?_ _ _ _ _ (run_ofReference_unlimited ..)
      (run_ofReference_unlimited ..)
    simp
  · decide
  · decide
  · exact hsame (.ofList ["fma4", "sse2"]) (by decide) (by decide) .unlimited

end Audit

end LoweringAudit
