import LoweringAudit.Proofs.Audit.Calls
import LoweringAudit.Proofs.Catalog.RoundTrip
import LoweringAudit.Proofs.CommandLine.ExitStatus
import LoweringAudit.Proofs.Config.File
import LoweringAudit.Proofs.Feature
/-!
Which features can be enabled at all, and what becomes of a case whose feature cannot. Lists of
features are read from the command line and from configurations, features of cases from catalog
lines, and the default feature is taken as it stands; a case is enabled when the same text comes out
of both. Main statement: the texts that come out of some list, which of the features that a line
writes are among them, and that a case with a default feature that is not fails in every run without
the engine having heard of it.
-/
namespace LoweringAudit

namespace Catalog

variable {defaultFeature : String} {text line : List Char} {c : Case}

/-- A line of four fields leaves the feature to the default. -/
theorem Writes.feature_eq (hw : Writes defaultFeature line c) (hfour : (fields line).length = 4) :
    c.feature = defaultFeature := by
  cases hw with
  | short written ofKind ofElem feature => exact feature
  | long written =>
    rw [written] at hfour
    cases hfour

/-- A line of five fields writes a name for its feature unless it writes a plus sign first. -/
theorem Writes.isName_feature_iff (hline : line ∈ statements text)
    (hw : Writes defaultFeature line c) (hfive : (fields line).length = 5) (complete : c.Complete) :
    FeatureSet.IsName c.feature.toList ↔ c.feature.toList.head? ≠ some '+' := by
  have hfield : IsField c.feature.toList := by
    cases hw with
    | short written =>
      rw [written] at hfive
      cases hfive
    | long written => exact isField_of_mem_fields (mem_statements hline).1 (by simp [written])
  obtain ⟨hcomma, -, htrimmed⟩ := hfield
  have hnonempty : c.feature.toList ≠ [] := fun h => complete.2.2 (String.toList_eq_nil_iff.1 h)
  exact ⟨fun h => h.noPlus, fun hplus => ⟨hnonempty, hcomma, hplus, htrimmed.2⟩⟩

end Catalog

namespace CommandLine

variable {s : Surroundings} {o : Options} {c : Config} {catalog : Catalog} {engine : Engine}
  {results : List Verdict} {case : Case} {f : String}

theorem isName_of_mem_features (h : f ∈ features o c) : FeatureSet.IsName f.toList := by
  unfold features at h
  split at h
  · exact FeatureSet.isName_of_mem_parse h
  · exact FeatureSet.isName_of_mem_parse h

/-- Whatever the configuration, a name is enabled by the option with a plus sign before it. -/
theorem ofArguments_on (h : FeatureSet.IsName f.toList) :
    ∃ o, Options.ofArguments ["--features", "+" ++ f] = .ok o ∧ ∀ c, f ∈ features o c := by
  refine ⟨{ features := some ("+" ++ f) }, ?_, fun c => FeatureSet.mem_parse_on h⟩
  have hplain : Argument.ofText ("+" ++ f) = .plain ("+" ++ f) := by simp [Argument.ofText]
  have hoption : Argument.ofText "--features" = .long "features" none := by decide
  simp only [Options.ofArguments, Options.read, hoption, hplain]
  rfl

theorem mem_features_on (h : FeatureSet.IsName f.toList) :
    f ∈ ({ target := { features := ["+" ++ f] } } : Config).features :=
  FeatureSet.mem_parse_on h

theorem calls_textOutcome (r : Run) : (textOutcome r).calls = r.calls := by
  unfold textOutcome
  split <;> rfl

theorem calls_jsonOutcome (source : CatalogSource) (a : Audit) (r : Run) :
    (jsonOutcome source a r).calls = r.calls := by
  unfold jsonOutcome
  split <;> rfl

/-- What the engine hears of a command is what it hears of the run. -/
theorem calls_of_ready (h : Ready s o c catalog engine) :
    (verify s o).calls =
      engine.upToFailure ((auditOf o c catalog engine).asked catalog.cases) := by
  have hrun : ((auditOf o c catalog engine).run .unlimited).2.calls =
      engine.upToFailure ((auditOf o c catalog engine).asked catalog.cases) := by
    rw [Audit.run_of_notStarted rfl]
    exact Audit.calls_runCases (auditOf o c catalog engine) catalog.cases []
  rw [(verify_of_configured h.configured).2.1, withConfig_of_ready h, ← hrun]
  cases format o c with
  | text => exact calls_textOutcome _
  | json => exact calls_jsonOutcome _ _ _

/-- Every call is made for a case of the catalog that has its feature. -/
theorem exists_case_of_mem_calls (h : Loaded s o c catalog) {r : Request}
    (hr : r ∈ (verify s o).calls) :
    ∃ case ∈ catalog.cases, case.feature ∈ features o c ∧ case.request (features o c) = r := by
  by_cases hlist : o.list = true
  · rw [(verify_of_configured h.configured).2.1] at hr
    simp [withConfig, h.cataloged, hlist] at hr
  · have audits : o.list = false := by simpa using hlist
    cases hengine : c.engine.build s.programs (o.engine.getD c.engine.kind) with
    | error e =>
      rw [(silent_of_fails (.engine c catalog e h audits hengine) (by simp)).2] at hr
      cases hr
    | ok engine =>
      rw [calls_of_ready ⟨h, audits, hengine⟩] at hr
      obtain ⟨case, hcase, rfl⟩ := List.mem_map.1 ((engine.isPrefix_upToFailure _).subset hr)
      obtain ⟨hcase, hon⟩ := List.mem_filter.1 hcase
      exact ⟨case, hcase, of_decide_eq_true hon, rfl⟩

/-- No call is made for the name, kind and element type of a case without its feature. -/
theorem key_not_called (h : Loaded s o c catalog) (hcase : case ∈ catalog.cases)
    (hdisabled : ¬ case.feature ∈ features o c) :
    ∀ r ∈ (verify s o).calls, (r.builtin, r.kind, r.elem) ≠ case.key := by
  intro r hr hkey
  obtain ⟨d, hd, hon, rfl⟩ := exists_case_of_mem_calls h hr
  have hsame : d = case := List.inj_on_of_nodup_map catalog.distinct hd hcase hkey
  exact hdisabled (hsame ▸ hon)

/-- A case without its feature makes a run that completes fail, by its name. -/
theorem Completes.of_disabled (h : Completes s o c catalog engine results)
    (hcase : case ∈ catalog.cases) (hdisabled : ¬ case.feature ∈ features o c) :
    (verify s o).ending.exitCode = 1 ∧
      ∃ summary, (verify s o).ending = .audited summary ∧ case.name ∈ summary.failingNames := by
  obtain ⟨v, hv, hjudges⟩ := Paired.exists_right h.judged hcase
  have hfailed : v.passed = false := (hjudges.of_not_mem hdisabled).1
  obtain ⟨summary, hending, -, -, hnames, -, hcode, -⟩ := completed_exact h
  have hall : ¬ results.all (·.passed) = true := by
    intro hall
    rw [List.all_eq_true.1 hall v hv] at hfailed
    cases hfailed
  refine ⟨by rw [hcode, if_neg hall], summary, hending, ?_⟩
  rw [hnames, List.mem_map]
  exact ⟨v, List.mem_filter.2 ⟨hv, by simp [hfailed]⟩, by rw [hjudges.case]⟩

theorem exitCode_ne_zero (h : Loaded s o c catalog) (audits : o.list = false)
    (hcase : case ∈ catalog.cases) (hdisabled : ¬ case.feature ∈ features o c) :
    (verify s o).ending.exitCode ≠ 0 := by
  rcases course s o with hfails | ⟨c', catalog', -, hlisting⟩ |
    ⟨c', catalog', engine, results, hcompletes⟩
  · rw [exitCode_eq_two_iff.2 hfails]
    decide
  · rw [audits] at hlisting
    cases hlisting
  · obtain ⟨rfl, rfl⟩ := h.unique hcompletes.toLoaded
    rw [(hcompletes.of_disabled hcase hdisabled).1]
    decide

/-- The command has loaded a catalog from a file, and a line of it writes this case and leaves the
feature to the default of the configuration. -/
structure TakesDefault (s : Surroundings) (o : Options) (c : Config) (catalog : Catalog)
    (case : Case) : Prop extends Loaded s o c catalog where
  line : ∃ path text line, catalogSource o c = .file path ∧ s.files.readText path = .ok text ∧
    line ∈ Catalog.statements text.toList ∧ (Catalog.fields line).length = 4 ∧
    Catalog.Writes c.target.defaultFeature line case

namespace TakesDefault

theorem feature_eq (h : TakesDefault s o c catalog case) :
    case.feature = c.target.defaultFeature := by
  obtain ⟨-, -, line, -, -, -, hfour, hwrites⟩ := h.line
  exact hwrites.feature_eq hfour

theorem mem_cases (h : TakesDefault s o c catalog case) : case ∈ catalog.cases := by
  obtain ⟨path, text, line, hsource, hread, hline, -, hwrites⟩ := h.line
  have hparse : Catalog.parse text c.target.defaultFeature = .ok catalog := by
    have hload := h.cataloged
    rw [hsource] at hload
    simpa only [CatalogSource.load, hread] using hload
  obtain ⟨d, hd, hwritten⟩ := Paired.exists_right (Catalog.parse_eq_ok_iff.1 hparse) hline
  exact hwrites.unique hwritten ▸ hd

end TakesDefault

/-- A feature can be enabled, by a list and as well by the command line under every configuration or
by a configuration, when it is not empty, holds no comma, and neither begins with a plus sign nor
ends in a blank. Of the features that catalog lines write these are all but those that begin with a
plus sign. A case with any other feature for its default is not put to the engine: where there is a
verdict on it, it fails on an empty trace, and the command fails. -/
theorem enabling :
    (∀ f : String,
      ((∃ list, f ∈ FeatureSet.parse list) ↔ FeatureSet.IsName f.toList) ∧
      ((∃ arguments o, Options.ofArguments arguments = .ok o ∧ ∀ c, f ∈ features o c) ↔
        FeatureSet.IsName f.toList) ∧
      ((∃ c : Config, f ∈ c.features) ↔ FeatureSet.IsName f.toList)) ∧
    (∀ text defaultFeature catalog, Catalog.parse text defaultFeature = .ok catalog →
      ∀ line ∈ Catalog.statements text.toList, (Catalog.fields line).length = 5 →
        ∀ case, Catalog.Writes defaultFeature line case →
          ((∃ list, case.feature ∈ FeatureSet.parse list) ↔
            case.feature.toList.head? ≠ some '+')) ∧
    ∀ s arguments o c catalog case, Options.ofArguments arguments = .ok o →
      TakesDefault s o c catalog case → ¬ FeatureSet.IsName c.target.defaultFeature.toList →
      (∀ r ∈ (execute s arguments).calls, (r.builtin, r.kind, r.elem) ≠ case.key) ∧
      (∀ engine v, (auditOf o c catalog engine).Judges case v →
        v.passed = false ∧ (auditOf o c catalog engine).line v =
          "FAIL " ++ case.title ++ ": expected \"" ++ case.pattern ++ "\" not found in []\n") ∧
      (∀ engine results, Completes s o c catalog engine results →
        (execute s arguments).exitCode = 1 ∧ ∃ summary,
          (execute s arguments).ending = .audited summary ∧
            case.name ∈ summary.failingNames) ∧
      (o.list = false → (execute s arguments).exitCode ≠ 0) := by
  refine ⟨fun f => ⟨FeatureSet.exists_mem_parse_iff, ?_, ?_⟩, ?_, ?_⟩
  · constructor
    · rintro ⟨arguments, o, -, hon⟩
      exact isName_of_mem_features (hon {})
    · intro h
      exact ⟨_, ofArguments_on h⟩
  · exact ⟨fun ⟨_, h⟩ => FeatureSet.isName_of_mem_parse h, fun h => ⟨_, mem_features_on h⟩⟩
  · intro text defaultFeature catalog hparse line hline hfive case hwrites
    obtain ⟨d, hd, hwritten⟩ := Paired.exists_right (Catalog.parse_eq_ok_iff.1 hparse) hline
    have hcomplete : case.Complete := hwrites.unique hwritten ▸ catalog.complete d hd
    rw [FeatureSet.exists_mem_parse_iff]
    exact hwrites.isName_feature_iff hline hfive hcomplete
  · intro s arguments o c catalog case accepted takes hdefault
    obtain ⟨-, hcalls, hending⟩ := execute_accepted (s := s) accepted
    have hdisabled : ¬ case.feature ∈ features o c := by
      intro hon
      rw [takes.feature_eq] at hon
      exact hdefault (isName_of_mem_features hon)
    rw [Outcome.exitCode, hcalls, hending]
    exact ⟨key_not_called takes.toLoaded takes.mem_cases hdisabled,
      fun engine v h => h.of_not_mem hdisabled,
      fun engine results h => h.of_disabled takes.mem_cases hdisabled,
      fun audits => exitCode_ne_zero takes.toLoaded audits takes.mem_cases hdisabled⟩

/-- A case whose feature keeps its plus sign. -/
def signedCase : Case :=
  ⟨"macc_ps", .packed128, .float32, "vfmadd.ps", "+fma4"⟩

def signedCatalog : Catalog :=
  ⟨[signedCase], by decide, by decide⟩

/-- A configuration that enables a feature and has it for a default, with its plus sign in both
places. -/
def signed : Config where
  target := { features := ["+fma4"], defaultFeature := "+fma4" }

/-- Surroundings with this configuration and a catalog that leaves the feature to the default. -/
def desk : Surroundings :=
  { nowhere with
    files := ⟨fun path =>
      if path = "cases.csv" then .ok (written "macc_ps,Packed128,f32,vfmadd.ps")
      else if path = "conf/lowercheck.toml" then .ok (Utf8.encode signed.render.toList)
      else .error .notFound, fun _ => false⟩ }

theorem takesDefault_desk :
    TakesDefault desk { config := some "conf/lowercheck.toml", catalog := some "cases.csv" }
      { signed with baseDir := some "conf" } signedCatalog signedCase := by
  have hconfig : desk.files.read "conf/lowercheck.toml" =
      .ok (Utf8.encode signed.render.toList) := by simp [desk]
  have hparent : Path.parent? "conf/lowercheck.toml" = some "conf" := by decide
  have htext : desk.files.readText "cases.csv" = .ok "macc_ps,Packed128,f32,vfmadd.ps" := by
    simp [Files.readText, desk, written]
  have hline : Catalog.statements "macc_ps,Packed128,f32,vfmadd.ps".toList =
      ["macc_ps,Packed128,f32,vfmadd.ps".toList] := by decide
  have hfields : Catalog.fields "macc_ps,Packed128,f32,vfmadd.ps".toList =
      ["macc_ps".toList, "Packed128".toList, "f32".toList, "vfmadd.ps".toList] := by decide
  have hwrites : Catalog.Writes "+fma4" "macc_ps,Packed128,f32,vfmadd.ps".toList signedCase :=
    .short hfields rfl (.inr rfl) rfl
  have hparse : Catalog.parse "macc_ps,Packed128,f32,vfmadd.ps" "+fma4" = .ok signedCatalog := by
    rw [Catalog.parse_eq_ok_iff, hline]
    exact .cons hwrites .nil
  have hsource : ∀ c, catalogSource
      { config := some "conf/lowercheck.toml", catalog := some "cases.csv" } c =
        .file "cases.csv" := fun _ => rfl
  refine ⟨⟨?_, ?_⟩, _, _, _, hsource _, htext, by rw [hline]; exact .head _,
    by rw [hfields]; rfl, hwrites⟩
  · simp only [loadConfig, Config.load_of_read signed desk.files hconfig, hparent]
  · rw [hsource, CatalogSource.load, htext]
    exact hparse

/-- The default feature with its plus sign is enabled by nothing, so the run on it fails; nor is the
feature of a line that writes the plus sign itself. -/
theorem enabling_signed :
    let arguments := ["--config", "conf/lowercheck.toml", "--catalog", "cases.csv"]
    (∃ o c, Options.ofArguments arguments = .ok o ∧
      TakesDefault desk o c signedCatalog signedCase ∧ "fma4" ∈ features o c ∧
      o.list = false ∧ (execute desk arguments).exitCode ≠ 0) ∧
    Catalog.parse "macc_ps,Packed128,f32,vfmadd.ps,+fma4" "fma4" = .ok signedCatalog ∧
      ¬ ∃ list, signedCase.feature ∈ FeatureSet.parse list := by
  intro arguments
  obtain ⟨-, hwritten, hruns⟩ := enabling
  have hhead : signedCase.feature.toList.head? = some '+' := by decide
  constructor
  · have hdefault : ¬ FeatureSet.IsName signedCase.feature.toList := fun h => h.noPlus hhead
    obtain ⟨-, -, -, hcode⟩ := hruns desk arguments _ _ _ _ rfl takesDefault_desk hdefault
    exact ⟨_, _, rfl, takesDefault_desk, by decide, rfl, hcode rfl⟩
  · have hline : Catalog.statements "macc_ps,Packed128,f32,vfmadd.ps,+fma4".toList =
        ["macc_ps,Packed128,f32,vfmadd.ps,+fma4".toList] := by decide
    have hfields : Catalog.fields "macc_ps,Packed128,f32,vfmadd.ps,+fma4".toList =
        ["macc_ps".toList, "Packed128".toList, "f32".toList, "vfmadd.ps".toList,
          "+fma4".toList] := by decide
    have hwrites : Catalog.Writes "fma4" "macc_ps,Packed128,f32,vfmadd.ps,+fma4".toList
        signedCase := .long hfields rfl (.inr rfl)
    have hparse : Catalog.parse "macc_ps,Packed128,f32,vfmadd.ps,+fma4" "fma4" =
        .ok signedCatalog := by
      rw [Catalog.parse_eq_ok_iff, hline]
      exact .cons hwrites .nil
    have hnever := hwritten _ _ _ hparse _ (by rw [hline]; exact .head _)
      (by rw [hfields]; rfl) _ hwrites
    exact ⟨hparse, fun hlist => hnever.1 hlist hhead⟩

end CommandLine

end LoweringAudit
