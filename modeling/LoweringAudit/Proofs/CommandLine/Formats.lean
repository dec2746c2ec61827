import LoweringAudit.Proofs.CommandLine.ExitStatus
import LoweringAudit.Proofs.Json.RoundTrip
/-!
The two report formats. A report in text is written case by case while the run goes on, and one in
JSON after it, from the results; they say the same all the same. Main statement: without verbosity
the command ends in the same way in both formats; the report in JSON is read as one document, and the
lines of the text are the messages of its results, before the line of its summary; and when the
engine fails, the JSON report is empty and the text stops after the lines of the cases before.
-/
namespace LoweringAudit

namespace Json

/-- The member of this name, of an object that has one. -/
def field? (j : Json) (key : String) : Option Json :=
  match j with
  | .object members => only? members key
  | _ => none

/-- The message of a result. -/
def message? (j : Json) : Option String :=
  (j.field? "message").bind text?

/-- A result on a case, which can be read from it: it has a message when the case did not pass, and
only then. -/
structure IsResultOn (j : Json) (c : Case) : Prop where
  case : ∃ shown, j.field? "case" = some shown ∧ Case.ofJson? shown = some c
  verdict : j.field? "passed" = some (.bool true) ∧ j.field? "message" = none ∨
    j.field? "passed" = some (.bool false) ∧ ∃ m, j.field? "message" = some (.text m)

end Json

/-- The order of the keys does not matter to the reader. -/
theorem Case.ofJson?_toSortedJson (c : Case) : ofJson? c.toSortedJson = some c := by
  simp [toSortedJson, Json.record, ofJson?, Json.only?, List.filter, ofValues?, Json.text,
    Json.text?, Json.word?]

namespace Verdict

variable {v : Verdict} {targetPrefix : String}

theorem isResultOn_toJson (v : Verdict) (targetPrefix : String) :
    (v.toJson targetPrefix).IsResultOn v.case := by
  refine ⟨⟨v.case.toSortedJson, ?_, v.case.ofJson?_toSortedJson⟩, ?_⟩ <;>
    cases hpassed : v.passed <;>
    simp [toJson, Json.record, Json.field?, Json.only?, List.filter, hpassed]

theorem message?_toJson (v : Verdict) (targetPrefix : String) :
    (v.toJson targetPrefix).message? =
      if v.passed then none else some (v.failureLine targetPrefix) := by
  cases hpassed : v.passed <;>
    simp [toJson, Json.record, Json.message?, Json.field?, Json.only?, List.filter, Json.text?,
      Json.text, hpassed]

/-- The messages of results are the failure lines of the verdicts that did not pass. -/
theorem filterMap_message? (vs : List Verdict) (targetPrefix : String) :
    (vs.map (·.toJson targetPrefix)).filterMap Json.message? =
      (vs.filter (!·.passed)).map (·.failureLine targetPrefix) := by
  induction vs with
  | nil => rfl
  | cons v vs ih =>
    cases hpassed : v.passed <;> simp [message?_toJson, hpassed, ih]

theorem valid_toJson (v : Verdict) (targetPrefix : String) :
    (v.toJson targetPrefix).Valid := by
  cases hpassed : v.passed <;> simp [toJson, Case.toSortedJson, hpassed]

end Verdict

theorem Summary.valid_toJson (summary : Summary) : summary.toJson.Valid := by
  simp [toJson]

namespace Report

theorem valid_toJson (r : Report) : r.toJson.Valid := by
  simp [toJson, Verdict.valid_toJson, Summary.valid_toJson]

/-- What is written of a report is read as its document. -/
theorem parse?_render (r : Report) : Json.parse? r.render = some r.toJson :=
  Json.parse?_pretty r.valid_toJson

end Report

/-- What a report in text says of verdicts when it is not verbose. -/
theorem Audit.text_of_quiet {a : Audit} (quiet : a.verbose = false) (vs : List Verdict) :
    a.text vs = CommandLine.written
      (String.join ((vs.filter (!·.passed)).map (·.failureLine a.targetPrefix ++ "\n"))) := by
  have hjoin : String.join (vs.map a.line) =
      String.join ((vs.filter (!·.passed)).map (·.failureLine a.targetPrefix ++ "\n")) := by
    induction vs with
    | nil => rfl
    | cons v vs ih =>
      cases hpassed : v.passed <;>
        simp [← report_eq_line, Verdict.report, hpassed, quiet, ← ih]
  rw [text, hjoin]
  rfl

namespace CommandLine

variable {s : Surroundings} {o : Options} {c : Config} {catalog : Catalog} {engine : Engine}
  {before : List Case} {results : List Verdict} {e : LoweringError}
  {textArguments jsonArguments : List String}

/-- Nothing asks for verbosity. -/
structure Quiet (s : Surroundings) (o : Options) : Prop where
  option : o.verbose = false
  config : ∀ c, (loadConfig s o).1 = .ok c → c.report.verbose = false

theorem Quiet.verbose (h : Quiet s o) (hc : (loadConfig s o).1 = .ok c) (catalog : Catalog)
    (engine : Engine) :
    (auditOf o c catalog engine).verbose = false := by
  simp [auditOf, h.option, h.config c hc]

/-- The format changes nothing of an audit that is not verbose. -/
theorem Quiet.auditOf_format (h : Quiet s o) (hc : (loadConfig s o).1 = .ok c)
    (f : ReportFormat) :
    auditOf { o with format := some f } c catalog engine = auditOf o c catalog engine := by
  simp [auditOf, h.option, h.config c hc, features]

theorem Completes.withFormat (quiet : Quiet s o) (h : Completes s o c catalog engine results)
    (f : ReportFormat) : Completes s { o with format := some f } c catalog engine results := by
  refine ⟨⟨⟨h.configured, h.cataloged⟩, h.audits, h.built⟩, ?_⟩
  rw [quiet.auditOf_format h.configured]
  exact h.judged

theorem Falters.withFormat (quiet : Quiet s o)
    (h : Falters s o c catalog engine before results e) (f : ReportFormat) :
    Falters s { o with format := some f } c catalog engine before results e := by
  refine ⟨⟨⟨h.configured, h.cataloged⟩, h.audits, h.built⟩, ?_, h.refused⟩
  rw [quiet.auditOf_format h.configured]
  exact h.judged

/-- The first stage that fails is the same in every format. -/
theorem Fails.withFormat (quiet : Quiet s o) {failure : Failure} (h : Fails s o failure)
    (f : ReportFormat) : Fails s { o with format := some f } failure := by
  cases h with
  | config e h => exact .config e h
  | catalog c e hc h => exact .catalog c e hc h
  | engine c catalog e hloaded hlist h => exact .engine c catalog e ⟨hloaded.1, hloaded.2⟩ hlist h
  | run c catalog engine before results e h =>
    exact .run c catalog engine before results e (h.withFormat quiet f)

/-- The command ends in the same way in every format. -/
theorem ending_withFormat (quiet : Quiet s o) (audits : o.list = false) (f : ReportFormat) :
    (verify s { o with format := some f }).ending = (verify s o).ending := by
  rcases course s o with ⟨failure, hfails⟩ | ⟨c, catalog, -, hlist⟩ |
    ⟨c, catalog, engine, results, h⟩
  · rw [ending_of_fails hfails, ending_of_fails (hfails.withFormat quiet f)]
  · rw [audits] at hlist
    cases hlist
  · rw [(verify_of_completes h).1, (verify_of_completes (h.withFormat quiet f)).1]

/-- The report in text of a run that completed. -/
theorem output_text (quiet : Quiet s o) (h : Completes s o c catalog engine results) :
    (verify s { o with format := some .text }).output =
      written (String.join ((results.filter (!·.passed)).map
        (·.failureLine c.target.targetPrefix ++ "\n")) ++
          (Summary.ofVerdicts results).render ++ "\n") := by
  have hverbose := quiet.verbose h.configured catalog engine
  have hformat : format { o with format := some .text } c = .text := rfl
  rw [(verify_of_completes (h.withFormat quiet .text)).2, writtenReport, hformat,
    quiet.auditOf_format h.configured]
  simp only
  rw [Audit.text_of_quiet hverbose, ← written_append, String.append_assoc]
  rfl

/-- The document of a run that completed: its results are on the cases, in order. -/
theorem output_json (quiet : Quiet s o) (h : Completes s o c catalog engine results) :
    ∃ (report : String) (doc : Json) (items : List Json) (summary : Json),
      (verify s { o with format := some .json }).output = written report ∧
      Json.parse? report = some doc ∧ doc.field? "results" = some (.array items) ∧
      List.Forall₂ (fun case item => item.IsResultOn case) catalog.cases items ∧
      items.filterMap Json.message? =
        (results.filter (!·.passed)).map (·.failureLine c.target.targetPrefix) ∧
      doc.field? "summary" = some summary ∧
      summary.field? "passed" = some (.nat (Summary.ofVerdicts results).passed) ∧
      summary.field? "total" = some (.nat (Summary.ofVerdicts results).total) := by
  have hformat : format { o with format := some .json } c = .json := rfl
  have houtput := (verify_of_completes (h.withFormat quiet .json)).2
  rw [writtenReport, hformat, quiet.auditOf_format h.configured] at houtput
  refine ⟨_, _, results.map (·.toJson c.target.targetPrefix), (Summary.ofVerdicts results).toJson,
    houtput, Report.parse?_render _, ?_, ?_, Verdict.filterMap_message? results _, ?_, ?_, ?_⟩
  · rfl
  · rw [List.forall₂_map_right_iff]
    refine h.judged.imp fun case v hjudges => ?_
    have hresult := v.isResultOn_toJson c.target.targetPrefix
    rw [hjudges.case] at hresult
    exact hresult
  · rfl
  · rfl
  · rfl

/-- Two command lines that ask for the same audit without verbosity, one in text and one in JSON. -/
theorem formats_agree
    (inText : Options.ofArguments textArguments = .ok { o with format := some .text })
    (inJson : Options.ofArguments jsonArguments = .ok { o with format := some .json })
    (audits : o.list = false) (quiet : Quiet s o) :
    (execute s textArguments).exitCode = (execute s jsonArguments).exitCode ∧
    (execute s textArguments).ending = (execute s jsonArguments).ending ∧
    (∀ total, (execute s jsonArguments).ending = .audited total →
      ∃ c catalog, Loaded s o c catalog ∧
        ∃ (report : String) (doc : Json) (items : List Json) (summary : Json) (p t : Nat),
        (execute s jsonArguments).output = written report ∧ Json.parse? report = some doc ∧
        doc.field? "results" = some (.array items) ∧
        List.Forall₂ (fun case item => item.IsResultOn case) catalog.cases items ∧
        doc.field? "summary" = some summary ∧ summary.field? "passed" = some (.nat p) ∧
        summary.field? "total" = some (.nat t) ∧
        (execute s textArguments).output = written (String.join
          ((items.filterMap Json.message?).map (· ++ "\n")) ++ passedLine p t ++ "\n")) ∧
    (∀ e, (execute s jsonArguments).ending = .failed (.run (.lowering e)) →
      (execute s jsonArguments).output = [] ∧
      ∃ c catalog engine before results, Falters s o c catalog engine before results e ∧
        (execute s textArguments).output = written (String.join
          ((results.filter (!·.passed)).map (·.failureLine c.target.targetPrefix ++ "\n"))) ∧
        ∀ p t, ¬ LastLine (execute s textArguments).output (passedLine p t)) := by
  obtain ⟨htext, -, htextEnding⟩ := execute_accepted (s := s) inText
  obtain ⟨hjson, -, hjsonEnding⟩ := execute_accepted (s := s) inJson
  -- Neither ending depends on the format: both are that of the command without one.
  rw [ending_withFormat quiet audits] at htextEnding hjsonEnding
  refine ⟨?_, by rw [htextEnding, hjsonEnding], ?_, ?_⟩
  · rw [Outcome.exitCode, Outcome.exitCode, htextEnding, hjsonEnding]
  · intro total h
    rw [hjsonEnding] at h
    obtain ⟨c, catalog, engine, results, hcompletes, -⟩ := ending_eq_audited_iff.1 h
    obtain ⟨report, doc, items, summary, houtput, hparse, hresults, hitems, hmessages, hsummary,
      hp, ht⟩ := output_json quiet hcompletes
    refine ⟨c, catalog, hcompletes.toLoaded, report, doc, items, summary, _, _,
      hjson.trans houtput, hparse, hresults, hitems, hsummary, hp, ht, ?_⟩
    rw [htext, output_text quiet hcompletes, hmessages, List.map_map]
    rfl
  · intro e h
    rw [hjsonEnding, ending_eq_failed_iff] at h
    cases h with
    | run c catalog engine before results e h =>
      have hverbose := quiet.verbose h.configured catalog engine
      obtain ⟨-, hstopped⟩ := verify_of_falters (h.withFormat quiet .text)
      obtain ⟨-, hnothing⟩ := verify_of_falters (h.withFormat quiet .json)
      have hreport : (execute s textArguments).output =
          (auditOf o c catalog engine).text results := by
        rw [htext, hstopped, writtenBefore, quiet.auditOf_format h.configured]
        rfl
      refine ⟨hjson.trans hnothing, c, catalog, engine, before, results, h, ?_, fun p t => ?_⟩
      · rw [hreport, Audit.text_of_quiet hverbose]
        rfl
      · rw [hreport]
        exact Audit.not_lastLine_text (slash_not_mem h.toReady h.judged) p t

theorem formats_agree_featureless :
    Options.ofArguments ["--features", "avx", "--format", "text"] =
        .ok { featureless with format := some .text } ∧
      Options.ofArguments ["--format=json", "--features=avx"] =
        .ok { featureless with format := some .json } ∧
      Quiet nowhere featureless ∧
      ∃ (report : String) (doc : Json) (items : List Json) (p t : Nat), items.length = 32 ∧
        (execute nowhere ["--format=json", "--features=avx"]).output = written report ∧
        Json.parse? report = some doc ∧ doc.field? "results" = some (.array items) ∧
        (execute nowhere ["--features", "avx", "--format", "text"]).output = written (String.join
          ((items.filterMap Json.message?).map (· ++ "\n")) ++ passedLine p t ++ "\n") := by
  have inText : Options.ofArguments ["--features", "avx", "--format", "text"] =
      .ok { featureless with format := some .text } := by rfl
  have inJson : Options.ofArguments ["--format=json", "--features=avx"] =
      .ok { featureless with format := some .json } := by rfl
  have hquiet : Quiet nowhere featureless := by
    refine ⟨rfl, fun c hc => ?_⟩
    cases hc
    rfl
  obtain ⟨catalog, results, hcompletes, hcases, -⟩ := completes_featureless
  have hending : (execute nowhere ["--format=json", "--features=avx"]).ending =
      .audited (Summary.ofVerdicts results) := by
    rw [(execute_accepted inJson).2.2, ending_withFormat hquiet rfl]
    exact (verify_of_completes hcompletes).1
  obtain ⟨-, -, hagree, -⟩ := formats_agree inText inJson rfl hquiet
  obtain ⟨c, listed, hloaded, report, doc, items, summary, p, t, hreport, hdoc, hitems, hon, -, -,
    -, htext⟩ := hagree _ hending
  obtain ⟨-, rfl⟩ := hloaded.unique hcompletes.toLoaded
  refine ⟨inText, inJson, hquiet, report, doc, items, p, t, ?_, hreport, hdoc, hitems, htext⟩
  rw [← hon.length_eq, hcases]
  decide

end CommandLine

end LoweringAudit
