import LoweringAudit.Proofs.Audit.Run
/-!
Runs that fail. The engine ends a run at the first case it cannot answer, and a sink ends it at the
first line it has no room for, whichever comes first in catalog order. Main statement: a run into a
sink of `n` octets is the unlimited run if that one's report fits, and else fails at the line that
crosses the limit and leaves the first `n` octets of that report.
-/
namespace LoweringAudit.Audit

variable {a : Audit} {s : Sink} {n : Nat}

/-- A list of cases has verdicts up to its end, or up to a case on which the engine fails. Either
way the rest writes nothing, so that its outcome is the same in every sink. -/
theorem exists_judged_prefix (a : Audit) (cs : List Case) :
    ∃ before rest vs outcome log calls, cs = before ++ rest ∧ List.Forall₂ a.Judges before vs ∧
      ∀ s, a.runCases rest s = ⟨outcome, s, log, calls⟩ := by
  obtain ⟨before, rest, vs, rfl, hvs, rfl | ⟨c, later, e, rfl, hc⟩⟩ := a.exists_reached cs
  · exact ⟨before, [], vs, _, _, _, rfl, hvs, fun s => rfl⟩
  · exact ⟨before, c :: later, vs, _, _, _, rfl, hvs, fun s => runCases_cons_of_error hc later s⟩

/-- A report longer than `n` octets has a line at which it becomes so. -/
theorem exists_crossing {cs : List Case} {vs : List Verdict} (h : List.Forall₂ a.Judges cs vs)
    (hn : n < (a.text vs).length) :
    ∃ before c after us v ws, cs = before ++ c :: after ∧ vs = us ++ v :: ws ∧
      List.Forall₂ a.Judges before us ∧ a.Judges c v ∧
      (a.text us).length ≤ n ∧ n < (a.text (us ++ [v])).length := by
  induction h generalizing n with
  | nil => simp at hn
  | @cons c v cs vs hc _ ih =>
    have hcons : ∀ ws, a.text (v :: ws) = a.text [v] ++ a.text ws := text_append a [v]
    rw [hcons, List.length_append] at hn
    by_cases hv : n < (a.text [v]).length
    · exact ⟨[], c, cs, [], v, vs, rfl, rfl, .nil, hc, by simp, hv⟩
    · obtain ⟨before, d, after, us, w, ws, rfl, rfl, hus, hd, hle, hlt⟩ :=
        ih (n := n - (a.text [v]).length) (by omega)
      refine ⟨c :: before, d, after, v :: us, w, ws, rfl, rfl, .cons hc hus, hd, ?_, ?_⟩
      · rw [hcons, List.length_append]
        omega
      · rw [List.cons_append, hcons, List.length_append]
        omega

theorem fits_ofLimit (n k : Nat) : (Sink.ofLimit n).Fits k ↔ k ≤ n := by
  rw [Sink.fits_iff_of_limit rfl]
  simp [Sink.ofLimit]

/-- The run ends at the line that crosses the limit, of which as much is left as there is room. -/
theorem runCases_of_crossing {before : List Case} {us : List Verdict} {c : Case} {v : Verdict}
    (hus : List.Forall₂ a.Judges before us) (hc : a.Judges c v) (hle : (a.text us).length ≤ n)
    (hlt : n < (a.text (us ++ [v])).length) (after : List Case) :
    a.runCases (before ++ c :: after) (.ofLimit n) =
      ⟨.error (.report .sinkFull), (Sink.ofLimit n).add ((a.text (us ++ [v])).take n),
        us.flatMap a.logged ++ a.logged v, a.asked (before ++ [c])⟩ := by
  rw [text_append, List.length_append] at hlt
  have hfits := (fits_ofLimit n _).2 hle
  have hfull : ¬ ((Sink.ofLimit n).add (a.text us)).Fits (a.text [v]).length := by
    intro h
    have := (fits_ofLimit n _).1 ((Sink.fits_append _ _ _).2 ⟨hfits, h⟩)
    rw [List.length_append] at this
    omega
  have hroom : ((Sink.ofLimit n).add (a.text us)).room (a.text [v]).length =
      n - (a.text us).length := by
    simp only [Sink.room, Sink.add, Sink.ofLimit, List.nil_append]
    omega
  rw [runCases_append hus hfits, runCases_cons_of_not_fits (judged_eq_ok_iff.2 hc) hfull, hroom,
    Sink.add_add, text_append, List.take_append, List.take_of_length_le hle, asked_append]
  rfl

/-- A run into a sink of `n` octets, told from the unlimited one. -/
theorem runCases_ofLimit (a : Audit) (cs : List Case) (n : Nat) :
    ((a.runCases cs .unlimited).sink.held.length ≤ n →
      a.runCases cs (.ofLimit n) =
        { a.runCases cs .unlimited with
          sink := ⟨some n, (a.runCases cs .unlimited).sink.held⟩ }) ∧
    (n < (a.runCases cs .unlimited).sink.held.length →
      ∃ before c after us v log, cs = before ++ c :: after ∧ List.Forall₂ a.Judges before us ∧
        a.Judges c v ∧ (a.text us).length ≤ n ∧ n < (a.text (us ++ [v])).length ∧
        a.runCases cs (.ofLimit n) =
          ⟨.error (.report .sinkFull), ⟨some n, (a.runCases cs .unlimited).sink.held.take n⟩,
            log, a.asked (before ++ [c])⟩) := by
  obtain ⟨before, rest, vs, outcome, log, calls, rfl, hvs, hrest⟩ := exists_judged_prefix a cs
  have hfull := runCases_append hvs (Sink.fits_unlimited [] _) rest
  have hheld : (a.runCases (before ++ rest) .unlimited).sink.held = a.text vs := by
    rw [Sink.unlimited, hfull, hrest]
    rfl
  rw [hheld]
  constructor
  · intro hn
    rw [runCases_append hvs ((fits_ofLimit n _).2 hn), hrest, Sink.unlimited, hfull, hrest]
    rfl
  · intro hn
    obtain ⟨first, c, last, us, v, ws, rfl, rfl, hus, hc, hle, hlt⟩ := exists_crossing hvs hn
    refine ⟨first, c, last ++ rest, us, v, us.flatMap a.logged ++ a.logged v, by simp, hus, hc, hle,
      hlt, ?_⟩
    have htake : (a.text (us ++ v :: ws)).take n = (a.text (us ++ [v])).take n := by
      have hsplit : us ++ v :: ws = us ++ [v] ++ ws := by simp
      rw [hsplit, text_append, List.take_append_of_le_length (by omega)]
    rw [List.append_assoc, List.cons_append, runCases_of_crossing hus hc hle hlt, htake]
    rfl

/-- The unlimited run of cases of which one is the first that the engine fails on. -/
theorem runCases_of_failure {before : List Case} {c : Case} {e : LoweringError}
    (hbefore : ∀ b ∈ before, a.Answers b) (hc : c.feature ∈ a.features)
    (he : a.engine.lower (c.request a.features) = .error e) (after : List Case) :
    ∃ vs, List.Forall₂ a.Judges before vs ∧
      (a.runCases (before ++ c :: after) .unlimited).outcome = .error (.lowering e) ∧
      (a.runCases (before ++ c :: after) .unlimited).sink.held = a.text vs := by
  have hall : ∀ b ∈ before, ∃ v, a.Judges b v := fun b hb => exists_judges_iff.2 (hbefore b hb)
  obtain ⟨vs, hvs⟩ := Paired.exists_of_forall hall
  obtain ⟨hout, hsink⟩ := runCases_of_refused hvs (Sink.fits_unlimited [] _) hc he after
  exact ⟨vs, hvs, hout, congrArg Sink.held hsink⟩

/-- A fresh run into a sink of `n` octets is the unlimited run where that one's report fits. Else it
fails to write, it leaves the first `n` octets of that report, and the engine has heard of the cases
up to the one whose line crosses the limit and of no other. No failing run gives results, and the
audit is over after it. -/
theorem run_ofLimit {a : Audit} (fresh : a.stage = .notStarted) (n : Nat) :
    (∀ before c after e, a.catalog.cases = before ++ c :: after → (∀ b ∈ before, a.Answers b) →
      c.feature ∈ a.features → a.engine.lower (c.request a.features) = .error e →
      ∃ vs, List.Forall₂ a.Judges before vs ∧
        (a.run .unlimited).2.outcome = .error (.lowering e) ∧
        (a.run .unlimited).2.sink.held = a.text vs) ∧
    ((a.run .unlimited).2.sink.held.length ≤ n →
      (a.run (.ofLimit n)).2.outcome = (a.run .unlimited).2.outcome ∧
      (a.run (.ofLimit n)).2.sink.held = (a.run .unlimited).2.sink.held) ∧
    (n < (a.run .unlimited).2.sink.held.length →
      (a.run (.ofLimit n)).2.outcome = .error (.report .sinkFull) ∧
      (a.run (.ofLimit n)).2.sink.held = (a.run .unlimited).2.sink.held.take n ∧
      ∃ before c after us v, a.catalog.cases = before ++ c :: after ∧
        List.Forall₂ a.Judges before us ∧ a.Judges c v ∧
        (a.text us).length ≤ n ∧ n < (a.text (us ++ [v])).length ∧
        (a.run (.ofLimit n)).2.calls = a.asked (before ++ [c])) ∧
    ∀ s e, (a.run s).2.outcome = .error e →
      (a.run s).2.outcome.toOption = none ∧ (a.run s).1 = { a with stage := .completed } := by
  simp only [run_of_notStarted fresh]
  obtain ⟨hfits, hcross⟩ := runCases_ofLimit a a.catalog.cases n
  refine ⟨?_, ?_, ?_, ?_⟩
  · intro before c after e hcases hbefore hc he
    rw [hcases]
    exact runCases_of_failure hbefore hc he after
  · intro hn
    rw [hfits hn]
    exact ⟨rfl, rfl⟩
  · intro hn
    obtain ⟨before, c, after, us, v, log, hcases, hus, hc, hle, hlt, hrun⟩ := hcross hn
    rw [hrun]
    exact ⟨rfl, rfl, before, c, after, us, v, hcases, hus, hc, hle, hlt, rfl⟩
  · intro s e he
    rw [he]
    exact ⟨rfl, trivial⟩

/-- An engine that fails on the second of three cases, after a failure line for the first. -/
def faltering : Audit where
  catalog :=
    ⟨[⟨"bare_ps", .packed128, .float32, "vfmadd.ps", "fma4"⟩,
      ⟨"macc_ps", .packed128, .float32, "vfmadd.ps", "fma4"⟩,
      ⟨"macc_ps", .packed256, .float32, "vfmadd.ps", "fma4"⟩], by decide, by decide⟩
  engine :=
    { name := "sample"
      lower := fun r =>
        if r.builtin = "bare_ps" then .ok ["ret"] else .error (.notConfigured "sample" "no target") }
  features := .ofList ["fma4"]

/-- With room the run fails at the engine, and with none at the first line. -/
theorem run_ofLimit_faltering :
    faltering.stage = .notStarted ∧
    (faltering.run .unlimited).2.outcome =
      .error (.lowering (.notConfigured "sample" "no target")) ∧
    (faltering.run (.ofLimit 0)).2.outcome = .error (.report .sinkFull) ∧
    (faltering.run (.ofLimit 0)).1.stage = .completed := by
  obtain ⟨hfails, -, hcut, hover⟩ := run_ofLimit (a := faltering) rfl 0
  obtain ⟨vs, hvs, hout, hheld⟩ := hfails [⟨"bare_ps", .packed128, .float32, "vfmadd.ps", "fma4"⟩]
    ⟨"macc_ps", .packed128, .float32, "vfmadd.ps", "fma4"⟩ _ (.notConfigured "sample" "no target")
    rfl (by simp [Answers, faltering, Case.request]) (by decide) rfl
  cases hvs with
  | @cons _ v _ _ hv hnil =>
    cases hnil
    have hops : v.trace.ops = ["ret"] := by
      have hok := hv.answered (by decide)
      exact (Except.ok.inj hok).symm
    have hmatched : v.matched = none := by
      rw [hv.eq_judge]
      simp only [Verdict.judge, Trace.firstMatch, hops]
      decide
    have hline : 0 < (faltering.text [v]).length := by
      have hfail : 0 < (Utf8.encode "FAIL ".toList).length := by decide
      simp only [text, List.map_cons, List.map_nil, line, hmatched, String.join, List.foldl,
        String.toList_append, Utf8.encode_append, List.length_append]
      omega
    obtain ⟨hfull, -⟩ := hcut (by rw [hheld]; exact hline)
    exact ⟨rfl, hout, hfull, congrArg Audit.stage (hover _ _ hfull).2⟩

end LoweringAudit.Audit
