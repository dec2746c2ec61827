import LoweringAudit.Proofs.Catalog.Validity
import LoweringAudit.Proofs.CommandLine.Listing
import LoweringAudit.Proofs.Config.File
/-!
The exit status of the command. It is 2 when some stage fails, and then the failure reported is that
of the first one; a listing gives 0, and so does a completed run in which every case passes; any
other completed run gives 1. Main statement: all of this for every command line that is accepted,
with what is written on the way; and that a report in text ends with the line of its summary exactly
when the run completed, but a listing ends so when its last case takes a default feature that does.
-/
namespace LoweringAudit

namespace Summary

variable {vs : List Verdict}

theorem total_ofVerdicts (vs : List Verdict) : (ofVerdicts vs).total = vs.length := by
  simp [ofVerdicts, ofOutcomes]

theorem passed_ofVerdicts (vs : List Verdict) :
    (ofVerdicts vs).passed = vs.countP (·.passed) := by
  simp [ofVerdicts, ofOutcomes, List.countP_map, Function.comp_def]

theorem failingNames_ofVerdicts (vs : List Verdict) :
    (ofVerdicts vs).failingNames = (vs.filter (!·.passed)).map (·.case.name) := by
  simp [ofVerdicts, ofOutcomes, List.filter_map, Function.comp_def]

/-- What is left of all results without those that pass is the names of those that do not. -/
theorem total_sub_passed (vs : List Verdict) :
    (ofVerdicts vs).total - (ofVerdicts vs).passed = (ofVerdicts vs).failingNames.length := by
  have hsum : (ofVerdicts vs).passed + (ofVerdicts vs).failed = (ofVerdicts vs).total :=
    passed_add_failed _
  have hnames : (ofVerdicts vs).failingNames.length = (ofVerdicts vs).failed :=
    length_failingNames _
  omega

theorem isSuccess_ofVerdicts : (ofVerdicts vs).isSuccess = true ↔ ∀ v ∈ vs, v.passed = true := by
  simp [isSuccess, ofVerdicts, ofOutcomes]

theorem passed_eq_total_iff :
    (ofVerdicts vs).passed = (ofVerdicts vs).total ↔ ∀ v ∈ vs, v.passed = true := by
  rw [passed_ofVerdicts, total_ofVerdicts, List.countP_eq_length]

end Summary

namespace CommandLine

variable {s : Surroundings} {o : Options} {c : Config} {catalog : Catalog} {engine : Engine}
  {results : List Verdict} {arguments : List String}

theorem Loaded.unique {c' : Config} {catalog' : Catalog} (h : Loaded s o c catalog)
    (h' : Loaded s o c' catalog') : c = c' ∧ catalog = catalog' := by
  have hc := h.configured.symm.trans h'.configured
  cases hc
  have hcatalog := h.cataloged.symm.trans h'.cataloged
  cases hcatalog
  exact ⟨rfl, rfl⟩

theorem Ready.unique {c' : Config} {catalog' : Catalog} {engine' : Engine}
    (h : Ready s o c catalog engine) (h' : Ready s o c' catalog' engine') :
    c = c' ∧ catalog = catalog' ∧ engine = engine' := by
  obtain ⟨rfl, rfl⟩ := h.toLoaded.unique h'.toLoaded
  have hengine := h.built.symm.trans h'.built
  cases hengine
  exact ⟨rfl, rfl, rfl⟩

/-- The exit code tells whether a stage failed. -/
theorem exitCode_eq_two_iff : (verify s o).ending.exitCode = 2 ↔ ∃ f, Fails s o f := by
  constructor
  · intro h
    rcases course s o with hfails | ⟨c, catalog, hloaded, hlist⟩ |
      ⟨c, catalog, engine, results, hcompletes⟩
    · exact hfails
    · rw [(verify_of_listed hloaded hlist).1] at h
      cases h
    · rw [(verify_of_completes hcompletes).1, Ending.exitCode] at h
      split at h <;> cases h
  · rintro ⟨f, hf⟩
    rw [ending_of_fails hf]
    rfl

/-- A case that the engine refuses has no place in a run that completes. -/
theorem Completes.answers (h : Completes s o c catalog engine results) {case : Case}
    (hcase : case ∈ catalog.cases) (hfeature : case.feature ∈ features o c) (e : LoweringError) :
    engine.lower (case.request (features o c)) ≠ .error e := by
  intro hrefused
  obtain ⟨v, -, hv⟩ := Paired.exists_right h.judged hcase
  have hok := hv.answered hfeature
  have hsame := hok.symm.trans hrefused
  cases hsame

/-- Some stage fails, told stage by stage. -/
theorem exists_fails_iff : (∃ f, Fails s o f) ↔
    (∃ e, (loadConfig s o).1 = .error e) ∨ ∃ c, (loadConfig s o).1 = .ok c ∧
      ((∃ e, (catalogSource o c).load s.files c.target.defaultFeature = .error e) ∨
        ∃ catalog, (catalogSource o c).load s.files c.target.defaultFeature = .ok catalog ∧
          o.list = false ∧
          ((∃ e, c.engine.build s.programs (o.engine.getD c.engine.kind) = .error e) ∨
            ∃ engine, c.engine.build s.programs (o.engine.getD c.engine.kind) = .ok engine ∧
              ∃ case ∈ catalog.cases, case.feature ∈ features o c ∧
                ∃ e, engine.lower (case.request (features o c)) = .error e)) := by
  constructor
  · rintro ⟨f, hf⟩
    cases hf with
    | config e h => exact .inl ⟨e, h⟩
    | catalog c e loaded h => exact .inr ⟨c, loaded, .inl ⟨e, h⟩⟩
    | engine c catalog e loaded audits h =>
      exact .inr ⟨c, loaded.configured, .inr ⟨catalog, loaded.cataloged, audits, .inl ⟨e, h⟩⟩⟩
    | run c catalog engine before results e h =>
      obtain ⟨case, later, hcases, hfeature, hrefused⟩ := h.refused
      refine .inr ⟨c, h.configured, .inr ⟨catalog, h.cataloged, h.audits, .inr ⟨engine, h.built,
        case, ?_, hfeature, e, hrefused⟩⟩⟩
      rw [hcases]
      simp
  · rintro (⟨e, h⟩ | ⟨c, hc, ⟨e, h⟩ | ⟨catalog, hcatalog, hlist, ⟨e, h⟩ | ⟨engine, hengine, case,
      hcase, hfeature, e, hrefused⟩⟩⟩)
    · exact ⟨_, .config e h⟩
    · exact ⟨_, .catalog c e hc h⟩
    · exact ⟨_, .engine c catalog e ⟨hc, hcatalog⟩ hlist h⟩
    · have hready : Ready s o c catalog engine := ⟨⟨hc, hcatalog⟩, hlist, hengine⟩
      rcases course s o with hfails | ⟨c', catalog', -, hlisting⟩ |
        ⟨c', catalog', engine', results, hcompletes⟩
      · exact hfails
      · rw [hlist] at hlisting
        cases hlisting
      · obtain ⟨rfl, rfl, rfl⟩ := hready.unique hcompletes.toReady
        exact absurd hrefused (hcompletes.answers hcase hfeature e)

theorem loadConfig_eq (s : Surroundings) (o : Options) :
    (loadConfig s o).1 =
      match configPath? s o with
      | some path => Config.load s.files path
      | none => .ok {} := by
  unfold loadConfig configPath?
  cases o.config with
  | some path => rfl
  | none =>
    simp only [Config.findAndLoad]
    cases Config.find? s.files s.workingDirectory <;> rfl

/-- A text that is no configuration is reported with what the reader of TOML says of it. -/
theorem render_of_malformed (h : (loadConfig s o).1 = .error .malformed) :
    ∃ path text said, configPath? s o = some path ∧ s.files.readText path = .ok text ∧
      Config.parse? text = none ∧
      (Failure.config o.config .malformed (refusal? s o .malformed)).render =
        said ++ ": failed to parse config: " ++ s.refusal text := by
  rw [loadConfig_eq] at h
  cases hpath : configPath? s o with
  | none => simp [hpath] at h
  | some path =>
    rw [hpath] at h
    obtain ⟨text, hread, hparse⟩ := (Config.load_eq_malformed_iff s.files path).1 h
    have hrefusal : refusal? s o .malformed = some (s.refusal text) := by
      simp [refusal?, hpath, hread, Except.toOption]
    obtain ⟨first, hchain⟩ : ∃ first, (Failure.config o.config .malformed
        (refusal? s o .malformed)).chain = [first, "failed to parse config", s.refusal text] := by
      rw [hrefusal]
      exact ⟨_, rfl⟩
    have hmiddle : ": failed to parse config: " = ": " ++ "failed to parse config" ++ ": " := by
      decide
    refine ⟨path, text, "error: " ++ first, rfl, hread, hparse, ?_⟩
    rw [Failure.render, hchain, hmiddle]
    simp only [String.intercalate_cons_cons, String.intercalate_singleton, String.append_assoc]

/-- The failure that ended the command is the last thing said. -/
theorem complaint_of_failed {out : Outcome} {f : Failure} (h : out.ending = .failed f) :
    ∃ said, out.complaint = said ++ f.render ++ "\n" :=
  ⟨String.join (out.filterWarnings.map (· ++ "\n")) ++ String.join (out.log.map Log.Entry.render),
    by simp [Outcome.complaint, h, String.append_assoc]⟩

/-- No operation that makes a case pass holds a slash, because engines give symbols. -/
theorem slash_not_mem {before : List Case} (hready : Ready s o c catalog engine)
    (hjudged : List.Forall₂ (auditOf o c catalog engine).Judges before results) :
    ∀ v ∈ results, ∀ op, v.matched = some op → '/' ∉ op.toList := by
  intro v hv op hmatched hslash
  obtain ⟨case, -, hjudges⟩ := Paired.exists_left hjudged hv
  obtain ⟨ahead, after, hops, -⟩ := (hjudges.matched op).1 hmatched
  have hop : op ∈ v.trace.ops := by rw [hops]; simp
  by_cases hfeature : case.feature ∈ features o c
  · have hsymbols := EngineConfig.givesSymbols_of_build hready.built
    have hchar := hsymbols _ _ (hjudges.answered hfeature) op hop '/' hslash
    exact absurd hchar (by decide)
  · rw [hjudges.skipped hfeature] at hop
    cases hop

theorem not_lastLine_nil (line : String) : ¬ LastLine [] line := by
  rintro ⟨before, hwritten, -, -⟩
  have hempty : before ++ line ++ "\n" = "" := written_inj.1 hwritten.symm
  exact absurd (String.append_eq_empty_iff.1 hempty).2 (by decide)

/-- A report in text ends with the line of its summary when the run completed, and only then. -/
theorem lastLine_iff (audits : o.list = false)
    (text : ∀ c, (loadConfig s o).1 = .ok c → format o c = .text) (p t : Nat) :
    LastLine (verify s o).output (passedLine p t) ↔
      ∃ c catalog engine results, Completes s o c catalog engine results ∧
        p = results.countP (·.passed) ∧ t = catalog.cases.length := by
  have hcompleted : ∀ c catalog engine results, Completes s o c catalog engine results →
      LastLine (verify s o).output
        (passedLine (results.countP (·.passed)) catalog.cases.length) := by
    intro c catalog engine results h
    rw [(verify_of_completes h).2, writtenReport, text c h.configured, h.judged.length_eq,
      ← Summary.passed_ofVerdicts, ← Summary.total_ofVerdicts]
    exact Audit.lastLine_summary _ results _
  constructor
  · intro hlast
    rcases course s o with ⟨f, hf⟩ | ⟨c, catalog, -, hlist⟩ |
      ⟨c, catalog, engine, results, h⟩
    · exfalso
      -- Only the run writes before it fails, and what it writes are whole lines of cases.
      cases hf with
      | run c catalog engine before results e h =>
        rw [(verify_of_falters h).2, writtenBefore, text c h.configured] at hlast
        exact Audit.not_lastLine_text (slash_not_mem h.toReady h.judged) p t hlast
      | config e h =>
        rw [(silent_of_fails (.config e h) (by simp)).1] at hlast
        exact not_lastLine_nil _ hlast
      | catalog c e hc h =>
        rw [(silent_of_fails (.catalog c e hc h) (by simp)).1] at hlast
        exact not_lastLine_nil _ hlast
      | engine c catalog e hc hlist h =>
        rw [(silent_of_fails (.engine c catalog e hc hlist h) (by simp)).1] at hlast
        exact not_lastLine_nil _ hlast
    · rw [audits] at hlist
      cases hlist
    · obtain ⟨hp, ht⟩ := passedLine_inj.1 (hlast.unique (hcompleted c catalog engine results h))
      exact ⟨c, catalog, engine, results, h, hp, ht⟩
  · rintro ⟨c, catalog, engine, results, h, rfl, rfl⟩
    exact hcompleted c catalog engine results h

/-- The summary of a run that completed, and the exit code. -/
theorem completed_exact (h : Completes s o c catalog engine results) :
    ∃ summary, (verify s o).ending = .audited summary ∧
      summary.total = catalog.cases.length ∧ summary.passed = results.countP (·.passed) ∧
      summary.failingNames = (results.filter (!·.passed)).map (·.case.name) ∧
      summary.total - summary.passed = summary.failingNames.length ∧
      (verify s o).ending.exitCode = (if results.all (·.passed) then 0 else 1) ∧
      (summary.passed = summary.total ↔ (verify s o).ending.exitCode = 0) := by
  have hending := (verify_of_completes h).1
  have hcode : (verify s o).ending.exitCode = if results.all (·.passed) then 0 else 1 := by
    rw [hending, Ending.exitCode]
    congr 1
    rw [eq_iff_iff, Summary.isSuccess_ofVerdicts, List.all_eq_true]
  refine ⟨_, hending, ?_, Summary.passed_ofVerdicts results,
    Summary.failingNames_ofVerdicts results, Summary.total_sub_passed results, hcode, ?_⟩
  · rw [Summary.total_ofVerdicts, h.judged.length_eq]
  · rw [hcode, Summary.passed_eq_total_iff]
    simp

/-- Every command line that is accepted: the exit code is 2 exactly when a stage fails, and the
first one that fails is reported, silently for the output and the engine unless it is the run; for a
text that is no configuration, with what the reader of TOML says of it. Otherwise a listing is the
catalog's rendering, and a completed run is told by its summary. A report in text ends with the line
of a summary exactly when the run completed. A listing does so exactly when its last case takes a
default feature that ends in this way. -/
theorem exit_status (accepted : Options.ofArguments arguments = .ok o) :
    ((execute s arguments).exitCode = 2 ↔
      (∃ e, (loadConfig s o).1 = .error e) ∨ ∃ c, (loadConfig s o).1 = .ok c ∧
        ((∃ e, (catalogSource o c).load s.files c.target.defaultFeature = .error e) ∨
          ∃ catalog, (catalogSource o c).load s.files c.target.defaultFeature = .ok catalog ∧
            o.list = false ∧
            ((∃ e, c.engine.build s.programs (o.engine.getD c.engine.kind) = .error e) ∨
              ∃ engine, c.engine.build s.programs (o.engine.getD c.engine.kind) = .ok engine ∧
                ∃ case ∈ catalog.cases, case.feature ∈ features o c ∧
                  ∃ e, engine.lower (case.request (features o c)) = .error e))) ∧
    (∀ f, (execute s arguments).ending = .failed f ↔ Fails s o f) ∧
    (∀ f, Fails s o f →
      (∃ said, (execute s arguments).complaint = said ++ f.render ++ "\n") ∧
      ((∀ e, f ≠ .run e) →
        (execute s arguments).output = [] ∧ (execute s arguments).calls = [])) ∧
    ((loadConfig s o).1 = .error .malformed →
      ∃ path text said, configPath? s o = some path ∧ s.files.readText path = .ok text ∧
        Config.parse? text = none ∧ (execute s arguments).complaint =
          said ++ ": failed to parse config: " ++ s.refusal text ++ "\n") ∧
    ((∃ f, Fails s o f) ∨ (∃ c catalog, Loaded s o c catalog ∧ o.list = true) ∨
      ∃ c catalog engine results, Completes s o c catalog engine results) ∧
    (∀ c catalog, Loaded s o c catalog → o.list = true →
      (execute s arguments).exitCode = 0 ∧
      (execute s arguments).output = written catalog.render ∧
      ∀ p t, (LastLine (execute s arguments).output (passedLine p t) ↔
        ∃ before case start, catalog.cases = before ++ [case] ∧
          case.feature = c.target.defaultFeature ∧
          c.target.defaultFeature = start ++ "\n" ++ passedLine p t)) ∧
    (∀ c catalog engine results, Completes s o c catalog engine results →
      ∃ summary, (execute s arguments).ending = .audited summary ∧
        summary.total = catalog.cases.length ∧ summary.passed = results.countP (·.passed) ∧
        summary.failingNames = (results.filter (!·.passed)).map (·.case.name) ∧
        summary.total - summary.passed = summary.failingNames.length ∧
        (execute s arguments).exitCode = (if results.all (·.passed) then 0 else 1) ∧
        (summary.passed = summary.total ↔ (execute s arguments).exitCode = 0)) ∧
    (o.list = false → (∀ c, (loadConfig s o).1 = .ok c → format o c = .text) → ∀ p t,
      (LastLine (execute s arguments).output (passedLine p t) ↔
        ∃ c catalog engine results, Completes s o c catalog engine results ∧
          p = results.countP (·.passed) ∧ t = catalog.cases.length)) := by
  obtain ⟨houtput, hcalls, hending⟩ := execute_accepted (s := s) accepted
  have hcode : (execute s arguments).exitCode = (verify s o).ending.exitCode := by
    rw [Outcome.exitCode, hending]
  rw [houtput, hcalls, hcode]
  refine ⟨exitCode_eq_two_iff.trans exists_fails_iff, ?_, ?_, ?_, course s o, ?_, ?_,
    lastLine_iff⟩
  · intro f
    rw [hending, ending_eq_failed_iff]
  · intro f hf
    exact ⟨complaint_of_failed (hending.trans (ending_of_fails hf)), silent_of_fails hf⟩
  · intro h
    obtain ⟨path, text, said, hpath, hread, hparse, hrender⟩ := render_of_malformed h
    obtain ⟨before, hcomplaint⟩ :=
      complaint_of_failed (hending.trans (ending_of_fails (.config .malformed h)))
    refine ⟨path, text, before ++ said, hpath, hread, hparse, ?_⟩
    rw [hcomplaint, hrender]
    simp only [String.append_assoc]
  · intro c catalog hloaded hlist
    obtain ⟨hlisted, hlisting⟩ := verify_of_listed hloaded hlist
    rw [hlisted]
    exact ⟨rfl, hlisting, lastLine_of_listed hloaded hlist⟩
  · intro c catalog engine results h
    rw [hending]
    exact completed_exact h

/-- Surroundings without files and programs. -/
def nowhere : Surroundings where
  workingDirectory := "/"
  files := ⟨fun _ => .error .notFound, fun _ => false⟩
  programs := fun _ _ => .error .notFound
  logSpec := none

/-- The reader of TOML has the last word on a text that is no configuration. -/
example :
    let broken : Surroundings :=
      { nowhere with
        files := ⟨fun _ => .ok (Utf8.encode "= 1".toList), fun _ => false⟩
        refusal := fun text => "no key in " ++ text }
    (execute broken ["--config", "c.toml"]).complaint =
      "error: Failed to load config c.toml: failed to parse config: no key in = 1\n" := by
  decide +kernel

/-- Options that enable a feature of none of the cases built in. -/
def featureless : Options where
  features := some "avx"

/-- Then the run completes, and no case passes. -/
theorem completes_featureless : ∃ catalog results,
    Completes nowhere featureless {} catalog .reference results ∧ catalog.cases = Fma4.cases ∧
      ∀ v ∈ results, v.passed = false := by
  obtain ⟨catalog, hcatalog⟩ := Catalog.exists_ofCases_iff.2 Catalog.valid_fma4
  have hcases := Catalog.ofCases_eq_ok_iff.1 hcatalog
  have hsource : catalogSource featureless {} = .embedded := by decide
  have hready : Ready nowhere featureless {} catalog .reference := by
    refine ⟨⟨rfl, ?_⟩, rfl, rfl⟩
    rw [hsource]
    exact hcatalog
  have hall : ∀ case ∈ catalog.cases,
      ∃ v, (auditOf featureless {} catalog .reference).Judges case v := by
    intro case _
    exact Audit.exists_judges_iff.2 fun _ => ⟨_, rfl⟩
  obtain ⟨results, hjudged⟩ := Paired.exists_of_forall hall
  refine ⟨catalog, results, ⟨hready, hjudged⟩, hcases, fun v hv => ?_⟩
  obtain ⟨case, hcase, hjudges⟩ := Paired.exists_left hjudged hv
  have hfeature : case.feature = "fma4" := by
    have hfma4 : ∀ case ∈ Fma4.cases, case.feature = "fma4" := by decide
    rw [hcases] at hcase
    exact hfma4 case hcase
  have hdisabled : ¬ "fma4" ∈ features featureless {} := by decide
  have hskipped : v.trace.ops = [] := by
    apply hjudges.skipped
    rw [hfeature]
    exact hdisabled
  rw [← Bool.not_eq_true, hjudges.passed, hskipped]
  simp

theorem exit_status_featureless :
    Options.ofArguments ["--features", "avx"] = .ok featureless ∧
      (execute nowhere ["--features", "avx"]).exitCode = 1 ∧
      LastLine (execute nowhere ["--features", "avx"]).output "PASSED 0/32" := by
  have accepted : Options.ofArguments ["--features", "avx"] = .ok featureless := by rfl
  obtain ⟨catalog, results, hcompletes, hcases, hnone⟩ := completes_featureless
  obtain ⟨-, -, -, -, -, -, hcompleted, htext⟩ := exit_status (s := nowhere) accepted
  have hlength : catalog.cases.length = 32 := by
    rw [hcases]
    decide
  obtain ⟨v, more, hresults⟩ : ∃ v more, results = v :: more := by
    apply List.exists_cons_of_length_pos
    rw [← hcompletes.judged.length_eq, hlength]
    omega
  have hcount : results.countP (·.passed) = 0 := by
    simpa [List.countP_eq_zero] using hnone
  refine ⟨accepted, ?_, ?_⟩
  · obtain ⟨summary, -, -, -, -, -, hcode, -⟩ := hcompleted _ _ _ _ hcompletes
    have hfirst := hnone v (by simp [hresults])
    simpa [hresults, hfirst] using hcode
  · have hformat : ∀ c, (loadConfig nowhere featureless).1 = .ok c →
        format featureless c = .text := by
      intro c hc
      cases hc
      rfl
    exact (htext rfl hformat 0 32).2
      ⟨_, _, _, _, hcompletes, hcount.symm, hlength.symm⟩

/-- A configuration with a default feature that goes on in a second line. -/
def twoLined : Config where
  target := { defaultFeature := "fma4\nPASSED 1/1" }

def twoLinedText : String :=
  "[target]\ndefault_feature = \"fma4\\nPASSED 1/1\"\n"

/-- Surroundings with this configuration, and with a catalog of one case that takes the default. -/
def twoFiles : Surroundings :=
  { nowhere with
    files :=
      { read := fun path =>
          if path = "c.toml" then .ok (Utf8.encode twoLinedText.toList)
          else .ok (Utf8.encode "a,Packed128,f32,x\n".toList)
        isFile := fun _ => false } }

def listing : Options where
  catalog := some "a.csv"
  config := some "c.toml"
  list := true

def takesTwoLines : Case :=
  ⟨"a", .packed128, .float32, "x", "fma4\nPASSED 1/1"⟩

theorem loaded_twoFiles :
    Loaded twoFiles listing { twoLined with baseDir := some "" }
      ⟨[takesTwoLines], by decide, by decide⟩ := by
  constructor
  · rfl
  · rfl

/-- No run is asked for, and the listing ends like the report of one all the same. -/
theorem lastLine_listing_twoFiles :
    let arguments := ["--config", "c.toml", "--catalog", "a.csv", "--list"]
    Options.ofArguments arguments = .ok listing ∧
      (∀ c, (loadConfig twoFiles listing).1 = .ok c → format listing c = .text) ∧
      ¬ (LastLine (execute twoFiles arguments).output (passedLine 1 1) ↔
        ∃ c catalog engine results, Completes twoFiles listing c catalog engine results ∧
          1 = results.countP (·.passed) ∧ 1 = catalog.cases.length) := by
  intro arguments
  have accepted : Options.ofArguments arguments = .ok listing := by rfl
  have hlast : LastLine (verify twoFiles listing).output (passedLine 1 1) :=
    (lastLine_of_listed loaded_twoFiles rfl 1 1).2 ⟨[], takesTwoLines, "fma4", rfl, rfl, by decide⟩
  refine ⟨accepted, ?_, fun h => ?_⟩
  · intro c hc
    cases loaded_twoFiles.configured.symm.trans hc
    rfl
  · rw [(execute_accepted accepted).1] at h
    obtain ⟨c, catalog, engine, results, hcompletes, -⟩ := h.1 hlast
    exact absurd hcompletes.audits (by decide)

end CommandLine

end LoweringAudit
