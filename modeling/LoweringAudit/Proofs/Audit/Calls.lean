import LoweringAudit.Proofs.Audit.Run
import Mathlib.Data.List.Nodup
/-!
What the engine hears in a run. It is called for the cases that have their feature, in catalog
order, until it fails, and never for a case that lacks its feature. Main statement: the calls of an
unlimited run are exactly these, no two of them alike, and each case that lacks its feature fails
with a line that says so, whatever the engine and the target's prefix are.
-/
namespace LoweringAudit

/-- The requests up to the first one on which the engine fails, and this one. -/
def Engine.upToFailure (engine : Engine) (requests : List Request) : List Request :=
  (requests.takeWhile fun r => (engine.lower r).isOk) ++
    (requests.dropWhile fun r => (engine.lower r).isOk).take 1

namespace Engine

variable {engine : Engine} {r : Request} {rs : List Request}

theorem upToFailure_cons_of_ok {ops : List String} (h : engine.lower r = .ok ops) :
    engine.upToFailure (r :: rs) = r :: engine.upToFailure rs := by
  simp [upToFailure, h, Except.isOk, Except.toBool]

theorem upToFailure_cons_of_error {e : LoweringError} (h : engine.lower r = .error e) :
    engine.upToFailure (r :: rs) = [r] := by
  simp [upToFailure, h, Except.isOk, Except.toBool]

theorem isPrefix_upToFailure (engine : Engine) (rs : List Request) :
    engine.upToFailure rs <+: rs := by
  have hsplit := List.takeWhile_append_dropWhile (p := fun r => (engine.lower r).isOk) (l := rs)
  conv => rhs; rw [← hsplit]
  exact List.prefix_append_right_inj _ |>.2 (List.take_prefix _ _)

end Engine

namespace Audit

variable {a : Audit} {c : Case} {v : Verdict}

theorem asked_of_mem (h : c.feature ∈ a.features) : a.asked [c] = [c.request a.features] := by
  simp [asked, h]

theorem asked_of_not_mem (h : ¬ c.feature ∈ a.features) : a.asked [c] = [] := by
  simp [asked, h]

/-- The engine is called until it fails. -/
theorem calls_runCases (a : Audit) (cs : List Case) (held : List UInt8) :
    (a.runCases cs ⟨none, held⟩).calls = a.engine.upToFailure (a.asked cs) := by
  induction cs generalizing held with
  | nil => rfl
  | cons c cs ih =>
    have hcons : a.asked (c :: cs) = a.asked [c] ++ a.asked cs := asked_append a [c] cs
    cases hc : a.judged c with
    | error e =>
      obtain ⟨hf, hl⟩ := judged_eq_error_iff.1 hc
      rw [runCases_cons_of_error hc, hcons, asked_of_mem hf, List.singleton_append,
        Engine.upToFailure_cons_of_error hl]
    | ok v =>
      have hrun := runCases_cons_of_fits hc (Sink.fits_unlimited held _) cs
      rw [hrun, Run.after, Sink.add, ih, hcons]
      -- A case with a verdict was either answered by the engine or never put to it.
      by_cases hf : c.feature ∈ a.features
      · have hl := (judged_eq_ok_iff.1 hc).answered hf
        rw [asked_of_mem hf, List.singleton_append, List.singleton_append,
          Engine.upToFailure_cons_of_ok hl]
      · rw [asked_of_not_mem hf, List.nil_append, List.nil_append]

/-- Cases of distinct keys make distinct requests. -/
theorem nodup_asked {cs : List Case} (h : (cs.map Case.key).Nodup) : (a.asked cs).Nodup := by
  -- The features are the same for all requests, so a request tells the key of its case.
  let ofKey : Case.Key → Request := fun k => ⟨k.1, k.2.1, k.2.2, a.features⟩
  have hinj : Function.Injective ofKey := by
    rintro ⟨n, k, e⟩ ⟨m, j, d⟩ he
    simpa [ofKey] using he
  have hkeys : a.asked cs = ((cs.filter fun c => decide (c.feature ∈ a.features)).map
      Case.key).map ofKey := by
    rw [List.map_map]
    rfl
  rw [hkeys]
  exact (h.sublist (List.filter_sublist.map _)).map hinj

/-- The request of a case without its feature is not made for another case either. -/
theorem request_not_mem_asked {cs : List Case} (h : (cs.map Case.key).Nodup) (hc : c ∈ cs)
    (hf : ¬ c.feature ∈ a.features) : c.request a.features ∉ a.asked cs := by
  intro hmem
  obtain ⟨d, hd, hsame⟩ := List.mem_map.1 hmem
  obtain ⟨hd, hon⟩ := List.mem_filter.1 hd
  have hkey : d.key = c.key := by
    simp only [Case.request, Request.mk.injEq] at hsame
    simp [Case.key, hsame.1, hsame.2.1, hsame.2.2.1]
  rw [List.inj_on_of_nodup_map h hd hc hkey] at hon
  exact hf (of_decide_eq_true hon)

/-- A case without its feature has no operation, so nothing is found in it. -/
theorem Judges.of_not_mem (h : a.Judges c v) (hf : ¬ c.feature ∈ a.features) :
    v.passed = false ∧ a.line v =
      "FAIL " ++ c.title ++ ": expected \"" ++ c.pattern ++ "\" not found in []\n" := by
  have hops := h.skipped hf
  have hpassed : ¬ v.passed = true := by
    rw [h.passed, hops]
    simp
  have hmatched : v.matched = none := by
    rw [h.eq_judge, Verdict.judge, Trace.firstMatch, hops]
    rfl
  have hclosing : "\" not found in [" ++ "" ++ "]\n" = "\" not found in []\n" := by decide
  refine ⟨by simpa using hpassed, ?_⟩
  simp only [line, hmatched, hops, h.case, ← hclosing, String.append_assoc]
  rfl

/-- The cases of an unlimited run up to the engine's failure have verdicts, the report is that of
these verdicts, and so are the results of a run that completes. -/
theorem exists_verdicts_run (fresh : a.stage = .notStarted) :
    ∃ reached vs, reached <+: a.catalog.cases ∧ List.Forall₂ a.Judges reached vs ∧
      (a.run .unlimited).2.sink.held = a.text vs ∧
      ∀ results, (a.run .unlimited).2.outcome = .ok results →
        reached = a.catalog.cases ∧ results = vs := by
  obtain ⟨reached, rest, vs, hcases, hvs, hrest⟩ := a.exists_reached a.catalog.cases
  have hrun := runCases_append hvs (Sink.fits_unlimited [] _) rest
  rw [← hcases] at hrun
  refine ⟨reached, vs, ⟨rest, hcases.symm⟩, hvs, ?_⟩
  rw [run_of_notStarted fresh, Sink.unlimited, hrun]
  rcases hrest with rfl | ⟨c, later, e, rfl, hc⟩
  · refine ⟨rfl, fun results hresults => ⟨by simpa using hcases.symm, ?_⟩⟩
    simpa [runCases, Run.after, Except.map] using hresults.symm
  · rw [runCases_cons_of_error hc]
    refine ⟨rfl, fun results hresults => ?_⟩
    cases hresults

/-- A fresh run calls the engine for the cases that have their feature, each with its own form and
the whole set of features, in catalog order and up to the first call that fails. It makes no call
twice. A case without its feature is not called for; where it is reached it does not pass, and its
line says that the pattern was not found in an empty trace. -/
theorem run_calls (fresh : a.stage = .notStarted) :
    (a.run .unlimited).2.calls = a.engine.upToFailure (a.asked a.catalog.cases) ∧
    (a.run .unlimited).2.calls.Nodup ∧
    (∀ c ∈ a.catalog.cases, ¬ c.feature ∈ a.features →
      c.request a.features ∉ (a.run .unlimited).2.calls) ∧
    ∃ reached vs, reached <+: a.catalog.cases ∧ List.Forall₂ a.Judges reached vs ∧
      (a.run .unlimited).2.sink.held = a.text vs ∧
      (∀ results, (a.run .unlimited).2.outcome = .ok results →
        reached = a.catalog.cases ∧ results = vs) ∧
      ∀ v ∈ vs, ¬ v.case.feature ∈ a.features → v.passed = false ∧ a.line v =
        "FAIL " ++ v.case.title ++ ": expected \"" ++ v.case.pattern ++ "\" not found in []\n" := by
  have hcalls : (a.run .unlimited).2.calls = a.engine.upToFailure (a.asked a.catalog.cases) := by
    rw [run_of_notStarted fresh]
    exact calls_runCases a a.catalog.cases []
  have hheard := a.engine.isPrefix_upToFailure (a.asked a.catalog.cases)
  obtain ⟨reached, vs, hreached, hvs, hheld, hresults⟩ := exists_verdicts_run fresh
  refine ⟨hcalls, ?_, ?_, reached, vs, hreached, hvs, hheld, hresults, ?_⟩
  · rw [hcalls]
    exact (nodup_asked a.catalog.distinct).sublist hheard.sublist
  · intro c hc hf hmem
    rw [hcalls] at hmem
    exact request_not_mem_asked a.catalog.distinct hc hf (hheard.subset hmem)
  · intro v hv hf
    obtain ⟨c, -, hjudges⟩ := Paired.exists_left hvs hv
    rw [hjudges.case] at hf ⊢
    exact hjudges.of_not_mem hf

/-- An engine that fails on the third of four cases, of which it is not asked about the first. -/
def gated : Audit where
  catalog :=
    ⟨[⟨"wide_ps", .packed256, .float32, "vfmadd.ps", "avx"⟩,
      ⟨"macc_ps", .packed128, .float32, "vfmadd.ps", "fma4"⟩,
      ⟨"lost_ps", .packed128, .float32, "vfmadd.ps", "fma4"⟩,
      ⟨"msub_ps", .packed128, .float32, "vfmsub.ps", "fma4"⟩], by decide, by decide⟩
  engine :=
    { name := "sample"
      lower := fun r =>
        if r.builtin = "lost_ps" then .error (.notConfigured "sample" "no target")
        else .ok ["llvm.x86.fma4.vfmadd.ps"] }
  features := .ofList ["fma4", "sse2"]

theorem run_calls_gated :
    gated.stage = .notStarted ∧
    (gated.run .unlimited).2.calls =
      [⟨"macc_ps", .packed128, .float32, gated.features⟩,
        ⟨"lost_ps", .packed128, .float32, gated.features⟩] := by
  refine ⟨rfl, (run_calls (a := gated) rfl).1.trans ?_⟩
  decide

end Audit

end LoweringAudit
