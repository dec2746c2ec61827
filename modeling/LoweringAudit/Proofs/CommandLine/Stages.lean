import LoweringAudit.CommandLine.Command
import LoweringAudit.Proofs.Audit.Run
/-!
The stages of the command. Each stage works on what the one before it gave: the configuration, the
catalog, the engine and the run, in this order, with the way out for a listing after the catalog.
Main statements: what the command ends with and has written when a stage is the first to fail, when
it lists, and when its run completes; and one of these is always the case.
-/
namespace LoweringAudit

namespace CommandLine

variable {s : Surroundings} {o : Options} {c : Config} {catalog : Catalog} {engine : Engine}
  {arguments : List String}

/-- The configuration and the catalog are there. -/
structure Loaded (s : Surroundings) (o : Options) (c : Config) (catalog : Catalog) : Prop where
  configured : (loadConfig s o).1 = .ok c
  cataloged : (catalogSource o c).load s.files c.target.defaultFeature = .ok catalog

/-- An audit is asked for, and the engine is there as well. -/
structure Ready (s : Surroundings) (o : Options) (c : Config) (catalog : Catalog)
    (engine : Engine) : Prop extends Loaded s o c catalog where
  audits : o.list = false
  built : c.engine.build s.programs (o.engine.getD c.engine.kind) = .ok engine

/-- The run completes: every case has its verdict. -/
structure Completes (s : Surroundings) (o : Options) (c : Config) (catalog : Catalog)
    (engine : Engine) (results : List Verdict) : Prop extends Ready s o c catalog engine where
  judged : List.Forall₂ (auditOf o c catalog engine).Judges catalog.cases results

/-- The engine fails on a case with its feature, after verdicts on all cases before it. -/
structure Falters (s : Surroundings) (o : Options) (c : Config) (catalog : Catalog)
    (engine : Engine) (before : List Case) (results : List Verdict) (e : LoweringError) : Prop
    extends Ready s o c catalog engine where
  judged : List.Forall₂ (auditOf o c catalog engine).Judges before results
  refused : ∃ case later, catalog.cases = before ++ case :: later ∧ case.feature ∈ features o c ∧
    engine.lower (case.request (features o c)) = .error e

/-- The failure of the first stage that fails. -/
inductive Fails (s : Surroundings) (o : Options) : Failure → Prop where
  | config (e : ConfigError) (h : (loadConfig s o).1 = .error e) :
      Fails s o (.config o.config e (refusal? s o e))
  | catalog (c : Config) (e : CatalogError) (loaded : (loadConfig s o).1 = .ok c)
      (h : (catalogSource o c).load s.files c.target.defaultFeature = .error e) :
      Fails s o (.catalog (catalogSource o c) e)
  | engine (c : Config) (catalog : Catalog) (e : LoweringError) (loaded : Loaded s o c catalog)
      (audits : o.list = false)
      (h : c.engine.build s.programs (o.engine.getD c.engine.kind) = .error e) :
      Fails s o (.engine e)
  | run (c : Config) (catalog : Catalog) (engine : Engine) (before : List Case)
      (results : List Verdict) (e : LoweringError)
      (h : Falters s o c catalog engine before results e) : Fails s o (.run (.lowering e))

/-- One way or another the command goes. -/
theorem course (s : Surroundings) (o : Options) :
    (∃ f, Fails s o f) ∨ (∃ c catalog, Loaded s o c catalog ∧ o.list = true) ∨
      ∃ c catalog engine results, Completes s o c catalog engine results := by
  cases hconfig : (loadConfig s o).1 with
  | error e => exact .inl ⟨_, .config e hconfig⟩
  | ok c =>
  cases hcatalog : (catalogSource o c).load s.files c.target.defaultFeature with
  | error e => exact .inl ⟨_, .catalog c e hconfig hcatalog⟩
  | ok catalog =>
  have hloaded : Loaded s o c catalog := ⟨hconfig, hcatalog⟩
  cases hlist : o.list with
  | true => exact .inr (.inl ⟨c, catalog, hloaded, rfl⟩)
  | false =>
  cases hengine : c.engine.build s.programs (o.engine.getD c.engine.kind) with
  | error e => exact .inl ⟨_, .engine c catalog e hloaded hlist hengine⟩
  | ok engine =>
  have hready : Ready s o c catalog engine := ⟨hloaded, hlist, hengine⟩
  obtain ⟨before, rest, vs, hcases, hjudged, hrest⟩ :=
    (auditOf o c catalog engine).exists_reached catalog.cases
  rcases hrest with rfl | ⟨case, later, e, rfl, hcase⟩
  · rw [List.append_nil] at hcases
    exact .inr (.inr ⟨c, catalog, engine, vs, hready, hcases ▸ hjudged⟩)
  · exact .inl ⟨_, .run c catalog engine before vs e
      ⟨hready, hjudged, case, later, hcases, Audit.judged_eq_error_iff.1 hcase⟩⟩

/-- What the run of a command has written when it fails. -/
def writtenBefore (o : Options) (c : Config) (a : Audit) (results : List Verdict) : List UInt8 :=
  match format o c with
  | .text => a.text results
  | .json => []

/-- What a command has written whose run completes. -/
def writtenReport (o : Options) (c : Config) (a : Audit) (results : List Verdict) : List UInt8 :=
  match format o c with
  | .text => a.text results ++ written ((Summary.ofVerdicts results).render ++ "\n")
  | .json => written (Report.render
      ⟨(catalogSource o c).render, a.engine.name, a.features, a.targetPrefix, results⟩)

/-- What the filter of the log leaves of the outcome. -/
theorem execute_accepted (accepted : Options.ofArguments arguments = .ok o) :
    (execute s arguments).output = (verify s o).output ∧
      (execute s arguments).calls = (verify s o).calls ∧
      (execute s arguments).ending = (verify s o).ending := by
  simp [execute, accepted, Outcome.filtered]

theorem verify_of_configured (h : (loadConfig s o).1 = .ok c) :
    (verify s o).output = (withConfig s o c).output ∧
      (verify s o).calls = (withConfig s o c).calls ∧
      (verify s o).ending = (withConfig s o c).ending := by
  simp [verify, h, Outcome.after]

theorem withConfig_of_ready (h : Ready s o c catalog engine) :
    withConfig s o c =
      match format o c with
      | .text => textOutcome ((auditOf o c catalog engine).run .unlimited).2
      | .json => jsonOutcome (catalogSource o c) (auditOf o c catalog engine)
          ((auditOf o c catalog engine).run .unlimited).2 := by
  cases hformat : format o c <;> simp [withConfig, h.cataloged, h.audits, audit, h.built, hformat]

/-- A completed run ends with the summary of its results. -/
theorem verify_of_completes {results : List Verdict}
    (h : Completes s o c catalog engine results) :
    (verify s o).ending = .audited (Summary.ofVerdicts results) ∧
      (verify s o).output = writtenReport o c (auditOf o c catalog engine) results := by
  obtain ⟨houtput, -, hending⟩ := verify_of_configured h.configured
  obtain ⟨houtcome, hheld⟩ := Audit.run_of_judges (a := auditOf o c catalog engine) rfl h.judged
  rw [houtput, hending, withConfig_of_ready h.toReady, writtenReport]
  cases format o c with
  | text => simp [textOutcome, houtcome, hheld]
  | json => simp [jsonOutcome, houtcome]

/-- A failing run ends with the engine's error, and a report in text stands as far as it got. -/
theorem verify_of_falters {before : List Case} {results : List Verdict} {e : LoweringError}
    (h : Falters s o c catalog engine before results e) :
    (verify s o).ending = .failed (.run (.lowering e)) ∧
      (verify s o).output = writtenBefore o c (auditOf o c catalog engine) results := by
  obtain ⟨houtput, -, hending⟩ := verify_of_configured h.configured
  obtain ⟨case, later, hcases, hfeature, hrefused⟩ := h.refused
  obtain ⟨houtcome, hheld⟩ := Audit.run_of_refused (a := auditOf o c catalog engine) rfl h.judged
    hcases hfeature hrefused
  rw [houtput, hending, withConfig_of_ready h.toReady, writtenBefore]
  cases format o c with
  | text => simp [textOutcome, houtcome, hheld]
  | json => simp [jsonOutcome, houtcome]

/-- A listing is what the catalog renders to. -/
theorem verify_of_listed (h : Loaded s o c catalog) (hlist : o.list = true) :
    (verify s o).ending = .listed ∧ (verify s o).output = written catalog.render := by
  obtain ⟨houtput, -, hending⟩ := verify_of_configured h.configured
  rw [houtput, hending]
  simp [withConfig, h.cataloged, hlist]

/-- The first stage that fails is the one that the command reports. -/
theorem ending_of_fails {f : Failure} (h : Fails s o f) : (verify s o).ending = .failed f := by
  cases h with
  | config e h => simp [verify, h]
  | catalog c e loaded h =>
    rw [(verify_of_configured loaded).2.2]
    simp [withConfig, h]
  | engine c catalog e loaded audits h =>
    rw [(verify_of_configured loaded.configured).2.2]
    simp [withConfig, loaded.cataloged, audits, audit, h]
  | run c catalog engine before results e h => exact (verify_of_falters h).1

/-- Before the run nothing is written, and the engine hears of nothing. -/
theorem silent_of_fails {f : Failure} (h : Fails s o f) (hrun : ∀ e, f ≠ .run e) :
    (verify s o).output = [] ∧ (verify s o).calls = [] := by
  cases h with
  | config e h => simp [verify, h]
  | catalog c e loaded h =>
    obtain ⟨houtput, hcalls, -⟩ := verify_of_configured loaded
    rw [houtput, hcalls]
    simp [withConfig, h]
  | engine c catalog e loaded audits h =>
    obtain ⟨houtput, hcalls, -⟩ := verify_of_configured loaded.configured
    rw [houtput, hcalls]
    simp [withConfig, loaded.cataloged, audits, audit, h]
  | run c catalog engine before results e h => exact absurd rfl (hrun _)

/-- What the command reports is the failure of the first stage that fails. -/
theorem ending_eq_failed_iff {f : Failure} : (verify s o).ending = .failed f ↔ Fails s o f := by
  refine ⟨fun h => ?_, ending_of_fails⟩
  rcases course s o with ⟨g, hg⟩ | ⟨c, catalog, hloaded, hlist⟩ |
    ⟨c, catalog, engine, results, hcompletes⟩
  · rw [ending_of_fails hg] at h
    cases h
    exact hg
  · rw [(verify_of_listed hloaded hlist).1] at h
    cases h
  · rw [(verify_of_completes hcompletes).1] at h
    cases h

theorem ending_eq_audited_iff {summary : Summary} :
    (verify s o).ending = .audited summary ↔
      ∃ c catalog engine results, Completes s o c catalog engine results ∧
        summary = Summary.ofVerdicts results := by
  constructor
  · intro h
    rcases course s o with ⟨g, hg⟩ | ⟨c, catalog, hloaded, hlist⟩ |
      ⟨c, catalog, engine, results, hcompletes⟩
    · rw [ending_of_fails hg] at h
      cases h
    · rw [(verify_of_listed hloaded hlist).1] at h
      cases h
    · rw [(verify_of_completes hcompletes).1] at h
      cases h
      exact ⟨c, catalog, engine, results, hcompletes, rfl⟩
  · rintro ⟨c, catalog, engine, results, hcompletes, rfl⟩
    exact (verify_of_completes hcompletes).1

end CommandLine

end LoweringAudit
