import LoweringAudit.Proofs.Audit.Reference
import LoweringAudit.Proofs.Catalog.RoundTrip
import LoweringAudit.Proofs.Engine.Operations
import LoweringAudit.Proofs.Text.Lines
/-!
The lines of a report. The report escapes nothing, so a case keeps to its line only if nothing that
is said of it holds a line feed: not its name or its pattern, which were read from a line; not its
operations, which are symbols; and not the prefix. Main statement: cut at its line feeds, the report
of a run is one line for each verdict that it names, in order, and each line begins with how the
case went and with its name, its kind and its element type.
-/
namespace LoweringAudit

/-- How the line of the verdict begins: how the case went, and the three things that tell it. -/
def Verdict.heading (v : Verdict) : String :=
  (if v.passed then "PASS " else "FAIL ") ++ v.case.name ++ " " ++ v.case.kind.name ++ " " ++
    v.case.elem.name ++ ": "

/-- What the report can say of the verdict stands on one line. -/
structure Verdict.OneLine (v : Verdict) : Prop where
  heading : '\n' ∉ v.heading.toList
  pattern : '\n' ∉ v.case.pattern.toList
  ops : ∀ op ∈ v.trace.ops, '\n' ∉ op.toList
  matched : ∀ op, v.matched = some op → op ∈ v.trace.ops

theorem Symbolic.newline_not_mem {op : List Char} (h : Symbolic op) : '\n' ∉ op := by
  intro hmem
  exact absurd (h _ hmem) (by decide)

theorem Verdict.newline_not_mem_heading {v : Verdict} (h : '\n' ∉ v.case.name.toList) :
    '\n' ∉ v.heading.toList := by
  have hk := v.case.kind.isField_name.2.1
  have he := v.case.elem.isField_name.2.1
  cases hpassed : v.passed <;> simp [heading, hpassed, h, hk, he]

/-- A case that was read from a line has no line feed in its name and its pattern. -/
theorem Catalog.newline_not_mem {text defaultFeature : String} {catalog : Catalog} {c : Case}
    (h : parse text defaultFeature = .ok catalog) (hc : c ∈ catalog.cases) :
    '\n' ∉ c.name.toList ∧ '\n' ∉ c.pattern.toList := by
  obtain ⟨line, hline, hw⟩ := Paired.exists_left (parse_eq_ok_iff.1 h) hc
  obtain ⟨hn, hp, -⟩ := hw.fits hline
  exact ⟨hn.2.1, hp.2.1⟩

namespace Audit

variable {a : Audit} {c : Case} {v : Verdict} {vs : List Verdict}

/-- The report names the verdict. -/
def names (a : Audit) (v : Verdict) : Bool :=
  a.verbose || !v.passed

theorem newline_not_mem_intercalate {ops : List String} (h : ∀ op ∈ ops, '\n' ∉ op.toList) :
    '\n' ∉ [',', ' '].intercalate (ops.map String.toList) := by
  induction ops with
  | nil => simp
  | cons op ops ih =>
    have hop := h op List.mem_cons_self
    have hops := ih fun o ho => h o (List.mem_cons_of_mem op ho)
    cases ops with
    | nil => simpa using hop
    | cons next more => simpa [hop] using hops

/-- A verdict that is named has its heading at the front of one closed line. -/
theorem exists_line (hclean : '\n' ∉ a.targetPrefix.toList) (hv : v.OneLine)
    (hnamed : a.names v = true) :
    ∃ line, (a.line v).toList = line ++ ['\n'] ∧ '\n' ∉ line ∧ v.heading.toList <+: line := by
  have hops := newline_not_mem_intercalate hv.ops
  have hheading := hv.heading
  have hpattern := hv.pattern
  unfold line
  split
  · next hmatched =>
    have hpassed : v.passed = false := by simp [Verdict.passed, hmatched]
    refine ⟨v.heading.toList ++ ("expected \"" ++ v.case.pattern ++ "\" not found in [" ++
      ", ".intercalate v.trace.ops ++ "]").toList, ?_, ?_, List.prefix_append _ _⟩
    · simp [Verdict.heading, Case.title, hpassed]
    · simp [hheading, hpattern, hops]
  · next hmatched hprefixed =>
    have hpassed : v.passed = false := by simp [Verdict.passed, hprefixed]
    refine ⟨v.heading.toList ++ ("no \"" ++ a.targetPrefix ++ "\" operation in [" ++
      ", ".intercalate v.trace.ops ++ "]").toList, ?_, ?_, List.prefix_append _ _⟩
    · simp [Verdict.heading, Case.title, hpassed]
    · simp [hheading, hclean, hops]
  · next op hmatched hprefixed =>
    have hpassed : v.passed = true := by simp [Verdict.passed, hmatched, hprefixed]
    have hverbose : a.verbose = true := by simpa [names, hpassed] using hnamed
    have hop := hv.ops op (hv.matched op hmatched)
    refine ⟨v.heading.toList ++ op.toList, ?_, ?_, List.prefix_append _ _⟩
    · simp [Verdict.heading, Case.title, hpassed, hverbose]
    · simp [hheading, hop]

theorem line_of_not_named (h : a.names v = false) : a.line v = "" := by
  simp only [names, Bool.or_eq_false_iff, Bool.not_eq_false'] at h
  obtain ⟨hverbose, hpassed⟩ := h
  simp only [Verdict.passed, Bool.and_eq_true, Option.isSome_iff_exists] at hpassed
  obtain ⟨⟨op, hmatched⟩, hprefixed⟩ := hpassed
  simp [line, hmatched, hprefixed, hverbose]

/-- A report is the closed lines of the verdicts that it names. -/
theorem exists_lines (hclean : '\n' ∉ a.targetPrefix.toList) (h : ∀ v ∈ vs, v.OneLine) :
    ∃ lines, a.text vs = Utf8.encode (lines.flatMap (· ++ ['\n'])) ∧
      (∀ line ∈ lines, '\n' ∉ line) ∧
      List.Forall₂ (fun v line => v.heading.toList <+: line) (vs.filter a.names) lines := by
  induction vs with
  | nil => exact ⟨[], by simp, by simp, .nil⟩
  | cons v vs ih =>
    obtain ⟨lines, htext, hlines, hheads⟩ := ih fun w hw => h w (List.mem_cons_of_mem v hw)
    have hcons : a.text (v :: vs) = Utf8.encode (a.line v).toList ++ a.text vs := by
      simp [text]
    rw [hcons, htext]
    cases hnamed : a.names v with
    | false =>
      refine ⟨lines, by simp [line_of_not_named hnamed], hlines, ?_⟩
      rwa [List.filter_cons_of_neg (by simp [hnamed])]
    | true =>
      obtain ⟨line, hline, hnew, hhead⟩ := exists_line hclean (h v List.mem_cons_self) hnamed
      refine ⟨line :: lines, by rw [hline, ← Utf8.encode_append, List.flatMap_cons], ?_, ?_⟩
      · intro l hl
        rcases List.mem_cons.1 hl with rfl | hl
        · exact hnew
        · exact hlines l hl
      · rw [List.filter_cons_of_pos hnamed]
        exact .cons hhead hheads

/-- The verdict on a case that was read from a line, with operations that are symbols. -/
theorem Judges.oneLine (h : a.Judges c v) (hsymbols : a.engine.GivesSymbols)
    (hname : '\n' ∉ c.name.toList) (hpattern : '\n' ∉ c.pattern.toList) : v.OneLine where
  heading := by
    apply Verdict.newline_not_mem_heading
    rwa [h.case]
  pattern := by
    rw [h.case]
    exact hpattern
  ops := by
    intro op hop
    by_cases hfeature : c.feature ∈ a.features
    · exact (hsymbols _ _ (h.answered hfeature) op hop).newline_not_mem
    · rw [h.skipped hfeature] at hop
      cases hop
  matched := by
    intro op hop
    obtain ⟨before, after, hops, -⟩ := (h.matched op).1 hop
    simp [hops]

/-- A run that completes, of cases read from a text, with one of the two engines and a prefix
without line feeds: cut at its line feeds, what it has written is the lines of the verdicts that it
names and nothing after the last one. These are the failing verdicts, or all of them in a verbose
report, in catalog order; each line says at its beginning how the case went and which it is. -/
theorem one_line_each {text defaultFeature : String} {s : Sink} {results : List Verdict}
    (parsed : Catalog.parse text defaultFeature = .ok a.catalog)
    (hengine : a.engine = .reference ∨
      ∃ programs program templates, a.engine = .command programs program templates)
    (hclean : '\n' ∉ a.targetPrefix.toList)
    (completed : (a.run s).2.outcome = .ok results) :
    results.map Verdict.case = a.catalog.cases ∧
    ∃ report lines, (a.run s).2.sink.held = s.held ++ Utf8.encode report ∧
      report.splitOn '\n' = lines ++ [[]] ∧
      (a.verbose = false →
        report.count '\n' = (results.filter fun v => !v.passed).length ∧
        List.Forall₂ (fun v line => ("FAIL " ++ v.case.name ++ " " ++ v.case.kind.name ++ " " ++
          v.case.elem.name ++ ": ").toList <+: line) (results.filter fun v => !v.passed) lines) ∧
      (a.verbose = true →
        report.count '\n' = results.length ∧
        List.Forall₂ (fun v line => ((if v.passed then "PASS " else "FAIL ") ++ v.case.name ++
          " " ++ v.case.kind.name ++ " " ++ v.case.elem.name ++ ": ").toList <+: line)
          results lines) := by
  obtain ⟨hjudges, hsink⟩ := judges_of_run completed
  have hsymbols : a.engine.GivesSymbols := by
    rcases hengine with h | ⟨programs, program, templates, h⟩
    · exact h ▸ Engine.givesSymbols_reference
    · exact h ▸ Engine.givesSymbols_command programs program templates
  have hone : ∀ v ∈ results, v.OneLine := by
    intro v hv
    obtain ⟨c, hc, hjudge⟩ := Paired.exists_left hjudges hv
    obtain ⟨hname, hpattern⟩ := Catalog.newline_not_mem parsed hc
    exact hjudge.oneLine hsymbols hname hpattern
  obtain ⟨lines, htext, hlines, hheads⟩ := exists_lines hclean hone
  have hcount := Text.count_closed hlines
  rw [← hheads.length_eq] at hcount
  refine ⟨?_, lines.flatMap (· ++ ['\n']), lines, ?_, Text.splitOn_closed hlines, ?_, ?_⟩
  · have hcases : List.Forall₂ (fun c v => v.case = c) a.catalog.cases results :=
      hjudges.imp fun _ _ h => h.case
    rw [← List.forall₂_eq_eq_eq, List.forall₂_map_left_iff]
    exact hcases.flip
  · rw [hsink, Sink.add, htext]
  · intro hquiet
    have hnames : a.names = fun v => !v.passed := by
      funext v
      simp [names, hquiet]
    rw [hnames] at hcount hheads
    refine ⟨hcount, ?_⟩
    have hfailed : ∀ v ∈ results.filter (fun v => !v.passed), v.passed = false := by
      intro v hv
      simpa using (List.mem_filter.1 hv).2
    refine ((List.forall₂_and_left _ _).2 ⟨hfailed, hheads⟩).imp ?_
    rintro v line ⟨hv, hhead⟩
    simpa [Verdict.heading, hv] using hhead
  · intro hverbose
    have hall : results.filter a.names = results := by
      simp [names, hverbose]
    rw [hall] at hcount hheads
    exact ⟨hcount, hheads⟩

/-- Two forms of one builtin, of which the second lacks its feature where only the first is enabled.
-/
def twoForms : Catalog :=
  ⟨[⟨"macc_ps", .packed128, .float32, "vfmadd.ps", "fma4"⟩,
    ⟨"macc_ps", .packed256, .float32, "vfmadd.ps.256", "avx"⟩], by decide, by decide⟩

/-- One form passes and one fails: the verbose report has a line for each, the other report one line
only. -/
theorem one_line_each_two_forms :
    let text :=
      "# forms\r\nmacc_ps,Packed128,f32,vfmadd.ps\n\n macc_ps,Packed256,f32,vfmadd.ps.256,avx"
    let runWith := fun verbose =>
      ((ofReference twoForms "llvm.x86." verbose (.ofList ["fma4"])).run .unlimited).2
    Catalog.parse text "fma4" = .ok twoForms ∧
    (∃ report passing failing, (runWith true).sink.held = Utf8.encode report ∧
      report.splitOn '\n' = [passing, failing, []] ∧ report.count '\n' = 2 ∧
      "PASS macc_ps Packed128 Float32: ".toList <+: passing ∧
      "FAIL macc_ps Packed256 Float32: ".toList <+: failing) ∧
    ∃ report failing, (runWith false).sink.held = Utf8.encode report ∧
      report.splitOn '\n' = [failing, []] ∧ report.count '\n' = 1 ∧
      "FAIL macc_ps Packed256 Float32: ".toList <+: failing := by
  intro text runWith
  have hlines : Catalog.statements text.toList = ["macc_ps,Packed128,f32,vfmadd.ps".toList,
      "macc_ps,Packed256,f32,vfmadd.ps.256,avx".toList] := by decide
  have parsed : Catalog.parse text "fma4" = .ok twoForms := by
    rw [Catalog.parse_eq_ok_iff, hlines]
    refine .cons (.short (by decide) rfl (.inr rfl) rfl) (.cons ?_ .nil)
    exact .long (by decide) rfl (.inr rfl)
  have hclean : '\n' ∉ "llvm.x86.".toList := by decide
  have hverbose := (one_line_each (a := ofReference twoForms "llvm.x86." true (.ofList ["fma4"]))
    parsed (.inl rfl) hclean (run_ofReference_unlimited ..)).2
  have hquiet := (one_line_each (a := ofReference twoForms "llvm.x86." false (.ofList ["fma4"]))
    parsed (.inl rfl) hclean (run_ofReference_unlimited ..)).2
  obtain ⟨long, longLines, hlong, hcut, -, hall⟩ := hverbose
  obtain ⟨short, shortLines, hshort, hshortCut, hsome, -⟩ := hquiet
  obtain ⟨hcount, hheads⟩ := hall rfl
  obtain ⟨hshortCount, hshortHeads⟩ := hsome rfl
  have hfailed : (twoForms.cases.map (Case.referenceVerdict "llvm.x86." (.ofList ["fma4"]))).filter
      (fun v => !v.passed) = [⟨twoForms.cases[1], ∅, none, false⟩] := by decide
  rw [hfailed] at hshortCount hshortHeads
  refine ⟨parsed, ⟨long, ?_⟩, short, ?_⟩
  · cases hheads with
    | @cons _ passing _ _ hpassing hmore =>
    cases hmore with
    | @cons _ failing _ _ hfailing hnil =>
    cases hnil
    exact ⟨passing, failing, hlong, hcut, hcount, hpassing, hfailing⟩
  · cases hshortHeads with
    | @cons _ failing _ _ hfailing hnil =>
    cases hnil
    exact ⟨failing, hshort, hshortCut, hshortCount, hfailing⟩

end Audit

end LoweringAudit
