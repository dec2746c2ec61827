import LoweringAudit.Proofs.Audit.Limit
import LoweringAudit.Proofs.Catalog.Validity
/-!
The same cases in other arrangements. The verdict on a case is a function of the case and of what an
audit is set to, so nothing of one case reaches another, and a run goes through its list without
looking back. Main statement: another order of the cases puts the verdicts in that order and changes
nothing else about them, and a run of two parts is the run of the first followed by that of the
second.
-/
namespace LoweringAudit

namespace Summary

variable {vs ws : List Verdict}

/-- The order of the verdicts shows only in the order of the names. -/
theorem ofVerdicts_perm (h : vs.Perm ws) :
    (ofVerdicts vs).total = (ofVerdicts ws).total ∧
      (ofVerdicts vs).passed = (ofVerdicts ws).passed ∧
      (ofVerdicts vs).failed = (ofVerdicts ws).failed ∧
      (ofVerdicts vs).failingNames.Perm (ofVerdicts ws).failingNames ∧
      (ofVerdicts vs).isSuccess = (ofVerdicts ws).isSuccess := by
  have houtcomes := h.map fun v => (v.case.name, v.passed)
  have hfailed : (ofVerdicts vs).failed = (ofVerdicts ws).failed := houtcomes.countP_eq _
  refine ⟨houtcomes.length_eq, houtcomes.countP_eq _, hfailed, ?_, ?_⟩
  · exact (houtcomes.filter _).map Prod.fst
  · rw [isSuccess, isSuccess, hfailed]

end Summary

namespace Catalog

variable {cs first second : List Case}

theorem Valid.of_append (h : Valid (first ++ second)) : Valid first ∧ Valid second := by
  obtain ⟨hfirst, hsecond, -⟩ := List.pairwise_append.1 h.apart
  exact ⟨⟨fun c hc => h.complete c (List.mem_append_left second hc), hfirst⟩,
    ⟨fun c hc => h.complete c (List.mem_append_right first hc), hsecond⟩⟩

/-- A valid list makes a catalog of just its cases. -/
theorem Valid.exists_catalog (h : Valid cs) :
    ∃ catalog, ofCases cs = .ok catalog ∧ catalog.cases = cs := by
  obtain ⟨catalog, hcatalog⟩ := exists_ofCases_iff.2 h
  exact ⟨catalog, hcatalog, ofCases_eq_ok_iff.1 hcatalog⟩

end Catalog

namespace Audit

variable {a : Audit} {c : Case} {cs first second : List Case} {vs : List Verdict}

/-- The operations of a case, of which there are none without its feature. -/
def operations (a : Audit) (c : Case) : List String :=
  if c.feature ∈ a.features then (a.engine.lower (c.request a.features)).toOption.getD [] else []

/-- The verdict on a case that the engine answers on. -/
def verdictOn (a : Audit) (c : Case) : Verdict :=
  .judge a.targetPrefix c ⟨a.operations c⟩

theorem judges_verdictOn (h : a.Answers c) : a.Judges c (a.verdictOn c) := by
  apply judges_judge
  · intro hf
    exact if_neg hf
  · intro hf
    obtain ⟨ops, hops⟩ := h hf
    have hall : a.operations c = ops := by simp [operations, hf, hops, Except.toOption]
    rw [hops, hall]

theorem judges_map_verdictOn (h : ∀ c ∈ cs, a.Answers c) :
    List.Forall₂ a.Judges cs (cs.map a.verdictOn) := by
  rw [List.forall₂_map_right_iff, List.forall₂_same]
  intro c hc
  exact judges_verdictOn (h c hc)

/-- The audit with the cases of another catalog. -/
def withCatalog (a : Audit) (catalog : Catalog) : Audit :=
  { a with catalog := catalog }

/-- Its catalog has a part in a run only by the cases. -/
theorem run_withCatalog (fresh : a.stage = .notStarted) (catalog : Catalog) (s : Sink) :
    ((a.withCatalog catalog).run s).2.outcome = (a.runCases catalog.cases s).outcome ∧
      ((a.withCatalog catalog).run s).2.sink = (a.runCases catalog.cases s).sink := by
  rw [run_of_notStarted (a := a.withCatalog catalog) fresh]
  exact runCases_congr (a := a.withCatalog catalog) (b := a) (fun _ _ => rfl) (fun _ => rfl) s

/-- What a sink without limit holds already has no part in a run. -/
theorem runCases_unlimited (a : Audit) (cs : List Case) (held : List UInt8) :
    (a.runCases cs ⟨none, held⟩).outcome = (a.runCases cs .unlimited).outcome ∧
      (a.runCases cs ⟨none, held⟩).sink.held = held ++ (a.runCases cs .unlimited).sink.held := by
  obtain ⟨before, rest, vs, outcome, log, calls, rfl, hvs, hrest⟩ := exists_judged_prefix a cs
  rw [Sink.unlimited, runCases_append hvs (Sink.fits_unlimited held _),
    runCases_append hvs (Sink.fits_unlimited [] _), hrest, hrest]
  simp [Run.after, Sink.add]

/-- After a first part that completes, the run goes on as that of the second part alone. -/
theorem runCases_parts (h : (a.runCases first .unlimited).outcome = .ok vs) (second : List Case) :
    (a.runCases (first ++ second) .unlimited).outcome =
        (a.runCases second .unlimited).outcome.map (vs ++ ·) ∧
      (a.runCases (first ++ second) .unlimited).sink.held =
        (a.runCases first .unlimited).sink.held ++ (a.runCases second .unlimited).sink.held := by
  obtain ⟨hvs, hsink⟩ := judges_of_runCases h
  have hrun := runCases_append hvs (Sink.fits_unlimited [] _) second
  obtain ⟨hout, hheld⟩ := runCases_unlimited a second (a.text vs)
  have hadd : (Sink.mk none []).add (a.text vs) = ⟨none, a.text vs⟩ := rfl
  rw [hadd] at hrun
  rw [hsink]
  simp only [Sink.unlimited] at hout hheld ⊢
  rw [hrun]
  simp only [Run.after, hout, hheld, hadd, and_self]

theorem runCases_of_answers (h : ∀ c ∈ cs, a.Answers c) :
    (a.runCases cs .unlimited).outcome = .ok (cs.map a.verdictOn) := by
  have hrun := runCases_of_judges (judges_map_verdictOn h) (Sink.fits_unlimited [] _)
  rw [Sink.unlimited, hrun]

/-- A valid list of cases makes a catalog in every order, and with an engine that answers on the
cases that have their feature the run completes. Each case has its verdict, the same one in every
order, so that the counts and the success are the same and the failing names are in another order
only. Cut into two parts, both make catalogs, and the run has the results and the report of the
first part followed by those of the second. -/
theorem run_rearranged {a : Audit} (fresh : a.stage = .notStarted) {cs : List Case}
    (valid : Catalog.Valid cs) (answers : ∀ c ∈ cs, a.Answers c) :
    ∃ catalog, Catalog.ofCases cs = .ok catalog ∧
    (∀ ds, cs.Perm ds → ∃ rearranged verdict,
      Catalog.ofCases ds = .ok rearranged ∧ (∀ c ∈ cs, a.Judges c (verdict c)) ∧
      ((a.withCatalog catalog).run .unlimited).2.outcome = .ok (cs.map verdict) ∧
      ((a.withCatalog rearranged).run .unlimited).2.outcome = .ok (ds.map verdict) ∧
      (cs.map verdict).Perm (ds.map verdict) ∧
      let summary := Summary.ofVerdicts (cs.map verdict)
      let other := Summary.ofVerdicts (ds.map verdict)
      summary.passed = other.passed ∧ summary.failed = other.failed ∧
        summary.failingNames.Perm other.failingNames ∧ summary.isSuccess = other.isSuccess) ∧
    ∀ first second, cs = first ++ second → ∃ above below vs ws,
      Catalog.ofCases first = .ok above ∧ Catalog.ofCases second = .ok below ∧
      ((a.withCatalog above).run .unlimited).2.outcome = .ok vs ∧
      ((a.withCatalog below).run .unlimited).2.outcome = .ok ws ∧
      ((a.withCatalog catalog).run .unlimited).2.outcome = .ok (vs ++ ws) ∧
      ((a.withCatalog catalog).run .unlimited).2.sink.held =
        ((a.withCatalog above).run .unlimited).2.sink.held ++
          ((a.withCatalog below).run .unlimited).2.sink.held := by
  obtain ⟨catalog, hcatalog, hcases⟩ := valid.exists_catalog
  refine ⟨catalog, hcatalog, fun ds hperm => ?_, ?_⟩
  · obtain ⟨rearranged, hrearranged, hother⟩ := (valid.perm hperm).exists_catalog
    have hanswers : ∀ c ∈ ds, a.Answers c := fun c hc => answers c (hperm.mem_iff.2 hc)
    have hverdicts : (cs.map a.verdictOn).Perm (ds.map a.verdictOn) := hperm.map a.verdictOn
    refine ⟨rearranged, a.verdictOn, hrearranged, fun c hc => judges_verdictOn (answers c hc), ?_,
      ?_, hverdicts, (Summary.ofVerdicts_perm hverdicts).2⟩
    · rw [(run_withCatalog fresh catalog _).1, hcases, runCases_of_answers answers]
    · rw [(run_withCatalog fresh rearranged _).1, hother, runCases_of_answers hanswers]
  · rintro first second rfl
    obtain ⟨hfirst, hsecond⟩ := valid.of_append
    obtain ⟨above, habove, hfirstCases⟩ := hfirst.exists_catalog
    obtain ⟨below, hbelow, hsecondCases⟩ := hsecond.exists_catalog
    have hvs := runCases_of_answers fun c hc => answers c (List.mem_append_left second hc)
    have hws := runCases_of_answers fun c hc => answers c (List.mem_append_right first hc)
    obtain ⟨hout, hheld⟩ := runCases_parts hvs second
    refine ⟨above, below, first.map a.verdictOn, second.map a.verdictOn, habove, hbelow, ?_, ?_, ?_,
      ?_⟩
    · rw [(run_withCatalog fresh above _).1, hfirstCases, hvs]
    · rw [(run_withCatalog fresh below _).1, hsecondCases, hws]
    · rw [(run_withCatalog fresh catalog _).1, hcases, hout, hws]
      rfl
    · rw [(run_withCatalog fresh catalog _).2, (run_withCatalog fresh above _).2,
        (run_withCatalog fresh below _).2, hcases, hfirstCases, hsecondCases, hheld]

/-- The cases of `mixed` in the opposite order, and the first of them apart from the rest. -/
theorem run_rearranged_mixed :
    mixed.stage = .notStarted ∧ Catalog.Valid mixed.catalog.cases ∧
    (∀ c ∈ mixed.catalog.cases, mixed.Answers c) ∧
    (∃ rearranged verdict, Catalog.ofCases mixed.catalog.cases.reverse = .ok rearranged ∧
      ((mixed.withCatalog mixed.catalog).run .unlimited).2.outcome =
        .ok (mixed.catalog.cases.map verdict) ∧
      ((mixed.withCatalog rearranged).run .unlimited).2.outcome =
        .ok (mixed.catalog.cases.reverse.map verdict)) ∧
    ∃ above below vs ws, Catalog.ofCases (mixed.catalog.cases.take 1) = .ok above ∧
      Catalog.ofCases (mixed.catalog.cases.drop 1) = .ok below ∧
      ((mixed.withCatalog above).run .unlimited).2.outcome = .ok vs ∧
      ((mixed.withCatalog below).run .unlimited).2.outcome = .ok ws ∧
      ((mixed.withCatalog mixed.catalog).run .unlimited).2.outcome = .ok (vs ++ ws) := by
  have valid : Catalog.Valid mixed.catalog.cases :=
    Catalog.valid_iff.2 ⟨mixed.catalog.complete, mixed.catalog.distinct⟩
  have answers : ∀ c ∈ mixed.catalog.cases, mixed.Answers c := fun c _ _ => ⟨_, rfl⟩
  obtain ⟨catalog, hcatalog, hperm, hparts⟩ := run_rearranged (a := mixed) rfl valid answers
  have hsame : catalog = mixed.catalog := Catalog.ext_cases (Catalog.ofCases_eq_ok_iff.1 hcatalog)
  rw [hsame] at hperm hparts
  obtain ⟨rearranged, verdict, hother, -, hrun, hrunOther, -⟩ := hperm _ (List.reverse_perm _).symm
  obtain ⟨above, below, vs, ws, habove, hbelow, hvs, hws, hwhole, -⟩ :=
    hparts (mixed.catalog.cases.take 1) (mixed.catalog.cases.drop 1)
      (List.take_append_drop 1 _).symm
  exact ⟨rfl, valid, answers, ⟨rearranged, verdict, hother, hrun, hrunOther⟩,
    above, below, vs, ws, habove, hbelow, hvs, hws, hwhole⟩

end Audit

end LoweringAudit
