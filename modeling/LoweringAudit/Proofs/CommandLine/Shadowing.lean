import LoweringAudit.Proofs.CommandLine.ExitStatus
import LoweringAudit.Proofs.Config.File
/-!
What the options leave to the configuration. An option that is given replaces its field of the
configuration, and the catalog that an option names is seen from the working directory, not from
that of the configuration. Main statement: with features, catalog, engine and format given, output
and exit code depend on the default feature, the prefix and the verbosity of the configuration
alone, and a listing of a catalog that is given depends on the default feature alone.
-/
namespace LoweringAudit.CommandLine

variable {s t : Surroundings} {o p : Options} {c d : Config} {argument : String}
  {first second : List String}

/-- The options are the same but for the place of the configuration. -/
structure Alike (o p : Options) : Prop where
  features : o.features = p.features
  catalog : o.catalog = p.catalog
  engine : o.engine = p.engine
  format : o.format = p.format
  list : o.list = p.list
  verbose : o.verbose = p.verbose

/-- Features, engine and format are given, the engine being the one that needs no configuration. -/
structure Explicit (o : Options) : Prop where
  features : o.features.isSome
  engine : o.engine = some .reference
  format : o.format.isSome

/-- Two configurations have the same in the fields that an audit takes from them even so. -/
structure Agree (c d : Config) : Prop where
  targetPrefix : c.target.targetPrefix = d.target.targetPrefix
  verbose : c.report.verbose = d.report.verbose

/-- What a catalog argument names is the same in two surroundings, and so is the default feature. -/
structure SameCatalog (s t : Surroundings) (c d : Config) (argument : String) : Prop where
  contents : ∀ path, CatalogSource.ofWord argument = .file path →
    s.files.read path = t.files.read path
  defaultFeature : c.target.defaultFeature = d.target.defaultFeature

theorem SameCatalog.load_eq (same : SameCatalog s t c d argument) :
    (CatalogSource.ofWord argument).load s.files c.target.defaultFeature =
      (CatalogSource.ofWord argument).load t.files d.target.defaultFeature := by
  rw [same.defaultFeature]
  cases hsource : CatalogSource.ofWord argument with
  | embedded => rfl
  | file path =>
    have hread := same.contents path hsource
    simp only [CatalogSource.load, Files.readText, hread]

theorem catalogSource_of_named (named : o.catalog = some argument) (c : Config) :
    catalogSource o c = .ofWord argument := by
  rw [catalogSource, named]

/-- The explicit engine is built whatever the configuration says of engines. -/
theorem build_of_explicit (explicit : Explicit o) (programs : Programs) (c : Config) :
    c.engine.build programs (o.engine.getD c.engine.kind) = .ok .reference := by
  rw [explicit.engine]
  rfl

theorem format_eq (alike : Alike o p) (explicit : Explicit o) : format o c = format p d := by
  obtain ⟨f, hf⟩ := Option.isSome_iff_exists.1 explicit.format
  rw [format, format, ← alike.format, hf, Option.getD_some, Option.getD_some]

theorem features_eq (alike : Alike o p) (explicit : Explicit o) : features o c = features p d := by
  obtain ⟨list, hlist⟩ := Option.isSome_iff_exists.1 explicit.features
  rw [features, features, ← alike.features, hlist]

theorem auditOf_eq (alike : Alike o p) (explicit : Explicit o) (agree : Agree c d)
    (catalog : Catalog) (engine : Engine) :
    auditOf o c catalog engine = auditOf p d catalog engine := by
  rw [auditOf, auditOf, features_eq alike explicit, agree.targetPrefix, alike.verbose,
    agree.verbose, format_eq alike explicit]

theorem Alike.explicit (alike : Alike o p) (explicit : Explicit o) : Explicit p where
  features := alike.features ▸ explicit.features
  engine := alike.engine ▸ explicit.engine
  format := alike.format ▸ explicit.format

theorem audit_eq (alike : Alike o p) (explicit : Explicit o) (agree : Agree c d)
    (named : o.catalog = some argument) (catalog : Catalog) :
    audit s o c catalog = audit t p d catalog := by
  have alsoNamed : p.catalog = some argument := alike.catalog ▸ named
  have hformat : format o c = format p d := format_eq alike explicit
  rw [audit, audit, build_of_explicit explicit, build_of_explicit (alike.explicit explicit)]
  simp only [hformat, auditOf_eq alike explicit agree, catalogSource_of_named named,
    catalogSource_of_named alsoNamed]

theorem withConfig_of_explicit (alike : Alike o p) (explicit : Explicit o) (agree : Agree c d)
    (named : o.catalog = some argument) (same : SameCatalog s t c d argument) :
    withConfig s o c = withConfig t p d := by
  have alsoNamed : p.catalog = some argument := alike.catalog ▸ named
  have haudit : ∀ catalog, audit s o c catalog = audit t p d catalog := fun catalog =>
    audit_eq alike explicit agree named catalog
  simp only [withConfig, catalogSource_of_named named, catalogSource_of_named alsoNamed,
    same.load_eq, alike.list, haudit]

/-- A listing leaves the command before the engine is built. -/
theorem withConfig_of_listing (alike : Alike o p) (listing : o.list = true)
    (named : o.catalog = some argument) (same : SameCatalog s t c d argument) :
    withConfig s o c = withConfig t p d := by
  have alsoNamed : p.catalog = some argument := alike.catalog ▸ named
  have alsoListing : p.list = true := alike.list ▸ listing
  simp only [withConfig, catalogSource_of_named named, catalogSource_of_named alsoNamed,
    same.load_eq, listing, alsoListing, if_true]

/-- What the command does after the configuration decides its output and its exit code. -/
theorem execute_of_withConfig_eq (accepted : Options.ofArguments first = .ok o)
    (alsoAccepted : Options.ofArguments second = .ok p) (configured : (loadConfig s o).1 = .ok c)
    (alsoConfigured : (loadConfig t p).1 = .ok d) (h : withConfig s o c = withConfig t p d) :
    (execute s first).output = (execute t second).output ∧
      (execute s first).exitCode = (execute t second).exitCode := by
  obtain ⟨houtput, -, hending⟩ := execute_accepted (s := s) accepted
  obtain ⟨houtput', -, hending'⟩ := execute_accepted (s := t) alsoAccepted
  obtain ⟨hwritten, -, hended⟩ := verify_of_configured configured
  obtain ⟨hwritten', -, hended'⟩ := verify_of_configured alsoConfigured
  constructor
  · rw [houtput, houtput', hwritten, hwritten', h]
  · rw [Outcome.exitCode, Outcome.exitCode, hending, hending', hended, hended', h]

/-- Two calls with the same options but for the place of the configuration, on a catalog that the
options name: if the other options are given as well, they end alike under configurations that agree
on prefix, verbosity and default feature. A listing asks for the same default feature only, and is
given whenever the catalog can be loaded. -/
theorem options_shadow (accepted : Options.ofArguments first = .ok o)
    (alsoAccepted : Options.ofArguments second = .ok p) (alike : Alike o p)
    (configured : (loadConfig s o).1 = .ok c) (alsoConfigured : (loadConfig t p).1 = .ok d)
    (named : o.catalog = some argument) (same : SameCatalog s t c d argument) :
    (Explicit o → Agree c d →
      (execute s first).output = (execute t second).output ∧
        (execute s first).exitCode = (execute t second).exitCode) ∧
    (o.list = true →
      ((execute s first).output = (execute t second).output ∧
        (execute s first).exitCode = (execute t second).exitCode) ∧
      ∀ catalog,
        (CatalogSource.ofWord argument).load s.files c.target.defaultFeature = .ok catalog →
        (execute s first).output = written catalog.render ∧ (execute s first).exitCode = 0) := by
  have hends := execute_of_withConfig_eq accepted alsoAccepted configured alsoConfigured
  constructor
  · intro explicit agree
    exact hends (withConfig_of_explicit alike explicit agree named same)
  · intro listing
    refine ⟨hends (withConfig_of_listing alike listing named same), fun catalog hload => ?_⟩
    have hloaded : Loaded s o c catalog :=
      ⟨configured, by rw [catalogSource_of_named named]; exact hload⟩
    obtain ⟨houtput, -, hending⟩ := execute_accepted (s := s) accepted
    obtain ⟨hlisted, hlisting⟩ := verify_of_listed hloaded listing
    rw [Outcome.exitCode, houtput, hending, hlisted]
    exact ⟨hlisting, rfl⟩

/-- A configuration whose engine cannot be built. -/
def unbuildable : Config where
  target := { features := ["avx"] }
  catalog := { source := "elsewhere.csv" }
  engine := { kind := .command }
  report := { format := .json }

/-- Surroundings with a catalog and, off the way of the search, this configuration. -/
def shelf : Surroundings :=
  { nowhere with
    files := ⟨fun path =>
      if path = "cases.csv" then .ok (written "macc_ps,Packed128,f32,vfmadd.ps")
      else if path = "conf/lowercheck.toml" then .ok (Utf8.encode unbuildable.render.toList)
      else .error .notFound, fun _ => false⟩ }

/-- The unbuildable configuration makes no difference to the default one. -/
theorem options_shadow_unbuildable :
    let first := ["--features=fma4", "--catalog=cases.csv", "--engine=reference", "--format=text"]
    let second := first ++ ["--config", "conf/lowercheck.toml"]
    (∃ o p d, Options.ofArguments first = .ok o ∧ Options.ofArguments second = .ok p ∧
      (loadConfig shelf o).1 = .ok {} ∧ (loadConfig shelf p).1 = .ok d ∧
      ∃ e, d.engine.build shelf.programs d.engine.kind = .error e) ∧
    (execute shelf first).output = (execute shelf second).output ∧
      (execute shelf first).exitCode = (execute shelf second).exitCode := by
  intro first second
  let o : Options :=
    ⟨some "fma4", some "cases.csv", none, some .reference, some .text, false, false⟩
  let p : Options := { o with config := some "conf/lowercheck.toml" }
  let d : Config := { unbuildable with baseDir := some "conf" }
  have accepted : Options.ofArguments first = .ok o := by rfl
  have alsoAccepted : Options.ofArguments second = .ok p := by rfl
  have configured : (loadConfig shelf o).1 = .ok {} := by rfl
  have hread : shelf.files.read "conf/lowercheck.toml" =
      .ok (Utf8.encode unbuildable.render.toList) := by simp [shelf]
  have hparent : Path.parent? "conf/lowercheck.toml" = some "conf" := by decide
  have alsoConfigured : (loadConfig shelf p).1 = .ok d := by
    simp only [loadConfig, p, d, Config.load_of_read unbuildable shelf.files hread, hparent]
  have hends := (options_shadow accepted alsoAccepted ⟨rfl, rfl, rfl, rfl, rfl, rfl⟩ configured
    alsoConfigured rfl ⟨fun _ _ => rfl, rfl⟩).1 ⟨rfl, rfl, rfl⟩ ⟨rfl, rfl⟩
  exact ⟨⟨o, p, d, accepted, alsoAccepted, configured, alsoConfigured, _, rfl⟩, hends⟩

end LoweringAudit.CommandLine
