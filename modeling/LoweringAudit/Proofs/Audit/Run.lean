import LoweringAudit.Proofs.Audit.Verdict
import LoweringAudit.Proofs.Paired
/-!
A run, one case at a time. A case that has a verdict and room for its line is a step that adds to
the results, the report, the log and the calls; the run goes on from there with nothing else
changed. Main statement: an unlimited run with an engine that always answers gives the one right
verdict for each case in catalog order, and a report and warnings that say exactly these verdicts.
-/
namespace LoweringAudit

namespace Sink

variable {s : Sink}

/-- There is room for so many octets more. -/
def Fits (s : Sink) (n : Nat) : Prop :=
  s.room n = n

/-- The sink with some octets more. -/
def add (s : Sink) (octets : List UInt8) : Sink :=
  ⟨s.limit, s.held ++ octets⟩

@[simp] theorem add_nil (s : Sink) : s.add [] = s := by
  simp [add]

theorem add_add (s : Sink) (xs ys : List UInt8) : (s.add xs).add ys = s.add (xs ++ ys) := by
  simp [add]

@[simp] theorem fits_unlimited (held : List UInt8) (n : Nat) : (Sink.mk none held).Fits n := rfl

theorem fits_iff_of_limit {limit : Nat} (h : s.limit = some limit) (n : Nat) :
    s.Fits n ↔ n ≤ limit - s.held.length := by
  simp only [Fits, room, h]
  omega

/-- Two texts fit together when the first does and the second does after it. -/
theorem fits_append (s : Sink) (xs ys : List UInt8) :
    s.Fits (xs ++ ys).length ↔ s.Fits xs.length ∧ (s.add xs).Fits ys.length := by
  obtain ⟨limit, held⟩ := s
  cases limit with
  | none => simp [add]
  | some limit =>
    rw [fits_iff_of_limit rfl, fits_iff_of_limit rfl, add, fits_iff_of_limit rfl]
    simp only [List.length_append]
    omega

theorem write_of_fits {text : String} (h : s.Fits (Utf8.encode text.toList).length) :
    s.write text = (true, s.add (Utf8.encode text.toList)) := by
  simp only [Fits] at h
  simp [write, h, add]

theorem write_of_not_fits {text : String} (h : ¬ s.Fits (Utf8.encode text.toList).length) :
    s.write text = (false, s.add ((Utf8.encode text.toList).take
      (s.room (Utf8.encode text.toList).length))) := by
  simp only [Fits] at h
  simp [write, h, add]

end Sink

/-- A run whose results, log and calls come after others. -/
def Run.after (vs : List Verdict) (log : List Log.Entry) (calls : List Request) (r : Run) : Run :=
  ⟨r.outcome.map (vs ++ ·), r.sink, log ++ r.log, calls ++ r.calls⟩

theorem Run.after_nil (r : Run) : r.after [] [] [] = r := by
  obtain ⟨outcome, sink, log, calls⟩ := r
  cases outcome <;> rfl

theorem Run.after_after (r : Run) (vs ws : List Verdict) (k l : List Log.Entry)
    (m n : List Request) :
    (r.after ws l n).after vs k m = r.after (vs ++ ws) (k ++ l) (m ++ n) := by
  obtain ⟨outcome, sink, log, calls⟩ := r
  cases outcome <;> simp [after, Except.map]

namespace Audit

variable {a : Audit} {c : Case} {v : Verdict} {s : Sink} {e : LoweringError}

/-- The report's text on some verdicts, as octets. -/
def text (a : Audit) (vs : List Verdict) : List UInt8 :=
  Utf8.encode (String.join (vs.map a.line)).toList

/-- What is logged of a case with its verdict. -/
def logged (a : Audit) (v : Verdict) : List Log.Entry :=
  (a.engine.lowerCase a.features v.case).log ++ a.warning v

/-- The engine's calls for some cases: one for each that has its feature, in order. -/
def asked (a : Audit) (cs : List Case) : List Request :=
  (cs.filter fun c => decide (c.feature ∈ a.features)).map (·.request a.features)

@[simp] theorem text_nil (a : Audit) : a.text [] = [] := by
  simp [text]

theorem text_append (a : Audit) (vs ws : List Verdict) :
    a.text (vs ++ ws) = a.text vs ++ a.text ws := by
  simp [text]

theorem text_singleton (a : Audit) (v : Verdict) :
    a.text [v] = Utf8.encode (v.report a.targetPrefix a.verbose).toList := by
  simp [text, report_eq_line]

theorem asked_append (a : Audit) (cs ds : List Case) :
    a.asked (cs ++ ds) = a.asked cs ++ a.asked ds := by
  simp [asked]

theorem calls_lowerCase (a : Audit) (c : Case) :
    (a.engine.lowerCase a.features c).calls = a.asked [c] := by
  by_cases hf : c.feature ∈ a.features
  · cases hl : a.engine.lower (c.request a.features) with
    | error e => simp [Engine.lowerCase_of_error hf hl, asked, hf]
    | ok ops => simp [Engine.lowerCase_of_ok hf hl, asked, hf]
  · simp [Engine.lowerCase_of_not_mem hf, asked, hf]

/-- The engine's error ends the run where it stands. -/
theorem runCases_cons_of_error (h : a.judged c = .error e) (rest : List Case) (s : Sink) :
    a.runCases (c :: rest) s =
      ⟨.error (.lowering e), s, (a.engine.lowerCase a.features c).log, a.asked [c]⟩ := by
  have hl : (a.engine.lowerCase a.features c).outcome = .error e := by
    cases hl : (a.engine.lowerCase a.features c).outcome with
    | error d => rw [judged, hl] at h; cases h; rfl
    | ok t => rw [judged, hl] at h; cases h
  simp only [runCases, hl, calls_lowerCase]

/-- A case with a verdict is one write, after which the run goes on or ends. -/
theorem runCases_cons_of_ok (h : a.judged c = .ok v) (rest : List Case) (s : Sink) :
    a.runCases (c :: rest) s =
      if (s.write (v.report a.targetPrefix a.verbose)).1 then
        (a.runCases rest (s.write (v.report a.targetPrefix a.verbose)).2).after [v] (a.logged v)
          (a.asked [c])
      else ⟨.error (.report .sinkFull), (s.write (v.report a.targetPrefix a.verbose)).2,
        a.logged v, a.asked [c]⟩ := by
  cases hl : (a.engine.lowerCase a.features c).outcome with
  | error d => rw [judged, hl] at h; cases h
  | ok t =>
    rw [judged, hl] at h
    cases h
    simp only [runCases, hl, calls_lowerCase, logged, Run.after, List.singleton_append]
    rfl

theorem runCases_cons_of_fits (h : a.judged c = .ok v) (hs : s.Fits (a.text [v]).length)
    (rest : List Case) : a.runCases (c :: rest) s =
      (a.runCases rest (s.add (a.text [v]))).after [v] (a.logged v) (a.asked [c]) := by
  rw [text_singleton] at hs ⊢
  rw [runCases_cons_of_ok h, Sink.write_of_fits hs]
  rfl

theorem runCases_cons_of_not_fits (h : a.judged c = .ok v) (hs : ¬ s.Fits (a.text [v]).length)
    (rest : List Case) : a.runCases (c :: rest) s =
      ⟨.error (.report .sinkFull), s.add ((a.text [v]).take (s.room (a.text [v]).length)),
        a.logged v, a.asked [c]⟩ := by
  rw [text_singleton] at hs ⊢
  rw [runCases_cons_of_ok h, Sink.write_of_not_fits hs]
  rfl

/-- Cases with verdicts, whose lines all fit, come before whatever the rest of the run does. -/
theorem runCases_append {before : List Case} {vs : List Verdict}
    (h : List.Forall₂ a.Judges before vs) (hs : s.Fits (a.text vs).length) (rest : List Case) :
    a.runCases (before ++ rest) s =
      (a.runCases rest (s.add (a.text vs))).after vs (vs.flatMap a.logged) (a.asked before) := by
  induction h generalizing s with
  | nil => simpa [asked] using (Run.after_nil _).symm
  | @cons c v before vs hc _ ih =>
    have hcons : a.text (v :: vs) = a.text [v] ++ a.text vs := text_append a [v] vs
    rw [hcons, Sink.fits_append] at hs
    rw [List.cons_append, runCases_cons_of_fits (judged_eq_ok_iff.2 hc) hs.1, ih hs.2, hcons,
      Sink.add_add, Run.after_after, ← asked_append]
    rfl

/-- A run whose cases all have verdicts, with room for all their lines. -/
theorem runCases_of_judges {cs : List Case} {vs : List Verdict}
    (h : List.Forall₂ a.Judges cs vs) (hs : s.Fits (a.text vs).length) :
    a.runCases cs s = ⟨.ok vs, s.add (a.text vs), vs.flatMap a.logged, a.asked cs⟩ := by
  have hrun := runCases_append h hs []
  simpa [runCases, Run.after, Except.map] using hrun

/-- A run that completes has a verdict for each of its cases, and has written their lines. -/
theorem judges_of_runCases {cs : List Case} {vs : List Verdict}
    (h : (a.runCases cs s).outcome = .ok vs) :
    List.Forall₂ a.Judges cs vs ∧ (a.runCases cs s).sink = s.add (a.text vs) := by
  induction cs generalizing s vs with
  | nil =>
    cases h
    exact ⟨.nil, by simp [runCases]⟩
  | cons c cs ih =>
    cases hc : a.judged c with
    | error e =>
      rw [runCases_cons_of_error hc] at h
      cases h
    | ok v =>
      by_cases hs : s.Fits (a.text [v]).length
      · rw [runCases_cons_of_fits hc hs] at h ⊢
        cases hrest : (a.runCases cs (s.add (a.text [v]))).outcome with
        | error e =>
          simp [Run.after, hrest, Except.map] at h
        | ok ws =>
          obtain rfl : v :: ws = vs := by simpa [Run.after, hrest, Except.map] using h
          obtain ⟨hws, hsink⟩ := ih hrest
          refine ⟨.cons (judged_eq_ok_iff.1 hc) hws, ?_⟩
          simp only [Run.after, hsink, Sink.add_add, ← text_append, List.singleton_append]
      · rw [runCases_cons_of_not_fits hc hs] at h
        cases h

/-- A run whose cases all have verdicts completes, or else there is no room for a line. -/
theorem outcome_runCases {cs : List Case} {vs : List Verdict} (h : List.Forall₂ a.Judges cs vs)
    (s : Sink) : (a.runCases cs s).outcome = .ok vs ∨
      (a.runCases cs s).outcome = .error (.report .sinkFull) := by
  induction h generalizing s with
  | nil => exact .inl rfl
  | @cons c v cs vs hc _ ih =>
    have hc := judged_eq_ok_iff.2 hc
    by_cases hs : s.Fits (a.text [v]).length
    · rw [runCases_cons_of_fits hc hs]
      refine (ih (s.add (a.text [v]))).imp ?_ ?_
      · intro hrest
        simp [Run.after, hrest, Except.map]
      · intro hrest
        simp [Run.after, hrest, Except.map]
    · rw [runCases_cons_of_not_fits hc hs]
      exact .inr rfl

/-- Two audits that judge their cases alike and report alike run alike. -/
theorem runCases_congr {b : Audit} {cs : List Case} (h : ∀ c ∈ cs, a.judged c = b.judged c)
    (htext : ∀ vs, a.text vs = b.text vs) (s : Sink) :
    (a.runCases cs s).outcome = (b.runCases cs s).outcome ∧
      (a.runCases cs s).sink = (b.runCases cs s).sink := by
  induction cs generalizing s with
  | nil => exact ⟨rfl, rfl⟩
  | cons c cs ih =>
    have hsame := h c List.mem_cons_self
    have ih := ih fun d hd => h d (List.mem_cons_of_mem c hd)
    cases hc : a.judged c with
    | error e =>
      rw [runCases_cons_of_error hc, runCases_cons_of_error (hsame ▸ hc)]
      exact ⟨rfl, rfl⟩
    | ok v =>
      have hb : b.judged c = .ok v := hsame ▸ hc
      by_cases hs : s.Fits (a.text [v]).length
      · rw [runCases_cons_of_fits hc hs, runCases_cons_of_fits hb (htext [v] ▸ hs), ← htext]
        obtain ⟨hout, hsink⟩ := ih (s.add (a.text [v]))
        exact ⟨by rw [Run.after, Run.after, hout], hsink⟩
      · rw [runCases_cons_of_not_fits hc hs, runCases_cons_of_not_fits hb (htext [v] ▸ hs), ← htext]
        exact ⟨rfl, rfl⟩

/-- A run of which one case is the first that the engine fails on ends there, with what was written
of the cases before it. -/
theorem runCases_of_refused {before : List Case} {vs : List Verdict}
    (h : List.Forall₂ a.Judges before vs) (hs : s.Fits (a.text vs).length)
    (hfeature : c.feature ∈ a.features)
    (hrefused : a.engine.lower (c.request a.features) = .error e) (later : List Case) :
    (a.runCases (before ++ c :: later) s).outcome = .error (.lowering e) ∧
      (a.runCases (before ++ c :: later) s).sink = s.add (a.text vs) := by
  have hrun := runCases_append h hs (c :: later)
  rw [runCases_cons_of_error (judged_eq_error_iff.2 ⟨hfeature, hrefused⟩)] at hrun
  rw [hrun]
  exact ⟨rfl, rfl⟩

/-- Cases have verdicts up to the last one, or up to one on which the engine fails. -/
theorem exists_reached (a : Audit) (cs : List Case) :
    ∃ reached rest vs, cs = reached ++ rest ∧ List.Forall₂ a.Judges reached vs ∧
      (rest = [] ∨ ∃ c later e, rest = c :: later ∧ a.judged c = .error e) := by
  induction cs with
  | nil => exact ⟨[], [], [], rfl, .nil, .inl rfl⟩
  | cons c cs ih =>
    cases hc : a.judged c with
    | error e => exact ⟨[], c :: cs, [], rfl, .nil, .inr ⟨c, cs, e, rfl, hc⟩⟩
    | ok v =>
      obtain ⟨reached, rest, vs, rfl, hvs, hrest⟩ := ih
      exact ⟨c :: reached, rest, v :: vs, rfl, .cons (judged_eq_ok_iff.1 hc) hvs, hrest⟩

theorem run_of_notStarted (fresh : a.stage = .notStarted) (s : Sink) :
    a.run s = ({ a with stage := .completed },
      { a.runCases a.catalog.cases s with
        log := a.opening :: (a.runCases a.catalog.cases s).log ++
          closing (a.runCases a.catalog.cases s).outcome }) := by
  simp only [run, fresh]

/-- The first run of an audit, when every case has a verdict. -/
theorem run_of_judges (fresh : a.stage = .notStarted) {vs : List Verdict}
    (h : List.Forall₂ a.Judges a.catalog.cases vs) :
    (a.run .unlimited).2.outcome = .ok vs ∧ (a.run .unlimited).2.sink.held = a.text vs := by
  have hrun := runCases_of_judges h (Sink.fits_unlimited [] _)
  rw [run_of_notStarted fresh]
  simp only [Sink.unlimited, hrun, true_and]
  rfl

/-- The first run of an audit, when one case has none. -/
theorem run_of_refused (fresh : a.stage = .notStarted) {before later : List Case} {c : Case}
    {vs : List Verdict} {e : LoweringError} (h : List.Forall₂ a.Judges before vs)
    (hcases : a.catalog.cases = before ++ c :: later) (hfeature : c.feature ∈ a.features)
    (hrefused : a.engine.lower (c.request a.features) = .error e) :
    (a.run .unlimited).2.outcome = .error (.lowering e) ∧
      (a.run .unlimited).2.sink.held = a.text vs := by
  obtain ⟨hout, hsink⟩ := runCases_of_refused h (Sink.fits_unlimited [] _) hfeature hrefused later
  rw [run_of_notStarted fresh, hcases]
  exact ⟨hout, congrArg Sink.held hsink⟩

/-- Fresh audits of the same cases run alike when they judge and report alike. -/
theorem run_congr {b : Audit} (ha : a.stage = .notStarted) (hb : b.stage = .notStarted)
    (hcases : b.catalog.cases = a.catalog.cases)
    (h : ∀ c ∈ a.catalog.cases, a.judged c = b.judged c) (htext : ∀ vs, a.text vs = b.text vs)
    (s : Sink) :
    (a.run s).2.outcome = (b.run s).2.outcome ∧ (a.run s).2.sink = (b.run s).2.sink := by
  rw [run_of_notStarted ha, run_of_notStarted hb, hcases]
  exact runCases_congr h htext s

/-- An audit that completes was fresh, so its run is that of its cases. -/
theorem judges_of_run {vs : List Verdict} (h : (a.run s).2.outcome = .ok vs) :
    List.Forall₂ a.Judges a.catalog.cases vs ∧ (a.run s).2.sink = s.add (a.text vs) := by
  cases hstage : a.stage with
  | notStarted =>
    rw [run_of_notStarted hstage] at h ⊢
    exact judges_of_runCases h
  | running =>
    rw [run, hstage] at h
    cases h
  | completed =>
    rw [run, hstage] at h
    cases h

/-- What the engine itself warns of when it is asked about the case of a verdict. -/
def announced (a : Audit) (v : Verdict) : List String :=
  if v.case.feature ∈ a.features then
    Log.messagesAt .warn (a.engine.announce (v.case.request a.features))
  else []

theorem messagesAt_append (level : Log.Level) (k l : List Log.Entry) :
    Log.messagesAt level (k ++ l) = Log.messagesAt level k ++ Log.messagesAt level l := by
  simp [Log.messagesAt]

theorem messagesAt_logged (a : Audit) (v : Verdict) :
    Log.messagesAt .warn (a.logged v) = a.announced v ++ a.warned v := by
  rw [logged, messagesAt_append, messagesAt_warning]
  congr 1
  by_cases hf : v.case.feature ∈ a.features
  · cases hl : a.engine.lower (v.case.request a.features) with
    | error e => simp [Engine.lowerCase_of_error hf hl, announced, hf]
    | ok ops =>
      simp [Engine.lowerCase_of_ok hf hl, announced, hf, Engine.lowered,
        Log.messagesAt]
  · simp [Engine.lowerCase_of_not_mem hf, announced, hf, Engine.skipped, Log.messagesAt]

/-- The warnings of a run that completes are those of its verdicts. -/
theorem messagesAt_run (a : Audit) (vs : List Verdict) :
    Log.messagesAt .warn (a.opening :: vs.flatMap a.logged ++ closing (.ok vs)) =
      vs.flatMap fun v => a.announced v ++ a.warned v := by
  have hlogged : Log.messagesAt .warn (vs.flatMap a.logged) =
      vs.flatMap fun v => a.announced v ++ a.warned v := by
    induction vs with
    | nil => rfl
    | cons v vs ih => rw [List.flatMap_cons, messagesAt_append, messagesAt_logged, ih,
        List.flatMap_cons]
  rw [List.cons_append, ← List.singleton_append, messagesAt_append, messagesAt_append, hlogged]
  simp [Log.messagesAt, opening, closing]

/-- The engine answers on the case, if it is asked about it at all. -/
def Answers (a : Audit) (c : Case) : Prop :=
  c.feature ∈ a.features → ∃ ops, a.engine.lower (c.request a.features) = .ok ops

theorem exists_judges_iff : (∃ v, a.Judges c v) ↔ a.Answers c := by
  constructor
  · rintro ⟨v, hv⟩ hf
    exact ⟨v.trace.ops, hv.answered hf⟩
  · intro h
    cases hj : a.judged c with
    | error e =>
      obtain ⟨hf, he⟩ := judged_eq_error_iff.1 hj
      obtain ⟨ops, hops⟩ := h hf
      rw [he] at hops
      cases hops
    | ok v => exact ⟨v, judged_eq_ok_iff.1 hj⟩

/-- The first run of an audit, without limit and with an engine that always answers. -/
theorem run_unlimited {a : Audit} (fresh : a.stage = .notStarted)
    (answers : ∀ r, ∃ ops, a.engine.lower r = .ok ops) :
    ∃ results, (a.run .unlimited).2.outcome = .ok results ∧
      List.Forall₂ a.Judges a.catalog.cases results ∧
      (a.run .unlimited).2.sink.held = a.text results ∧
      Log.messagesAt .warn (a.run .unlimited).2.log =
        results.flatMap fun v => a.announced v ++ a.warned v := by
  have hall : ∀ c ∈ a.catalog.cases, ∃ v, a.Judges c v := by
    intro c _
    exact exists_judges_iff.2 fun _ => answers (c.request a.features)
  obtain ⟨vs, hvs⟩ := Paired.exists_of_forall hall
  have hrun := runCases_of_judges hvs (Sink.fits_unlimited [] _)
  rw [run_of_notStarted fresh]
  simp only [Sink.unlimited, hrun]
  exact ⟨vs, rfl, hvs, rfl, messagesAt_run a vs⟩

/-- Three cases: one passes, one has only an operation of another target, one lacks its feature. -/
def mixed : Audit where
  catalog :=
    ⟨[⟨"macc_ps", .packed128, .float32, "vfmadd.ps", "fma4"⟩,
      ⟨"bare_ps", .packed128, .float32, "vfmadd.ps", "fma4"⟩,
      ⟨"macc_ps", .packed256, .float32, "vfmadd.ps", "avx"⟩], by decide, by decide⟩
  engine := .ofFunction "sample" fun r =>
    if r.builtin = "bare_ps" then ["fma4.vfmadd.ps"] else ["ret", "llvm.x86.fma4.vfmadd.ps"]
  features := .ofList ["fma4"]
  verbose := true

def mixedResults : List Verdict :=
  [⟨⟨"macc_ps", .packed128, .float32, "vfmadd.ps", "fma4"⟩, ⟨["ret", "llvm.x86.fma4.vfmadd.ps"]⟩,
      some "llvm.x86.fma4.vfmadd.ps", true⟩,
    ⟨⟨"bare_ps", .packed128, .float32, "vfmadd.ps", "fma4"⟩, ⟨["fma4.vfmadd.ps"]⟩,
      some "fma4.vfmadd.ps", false⟩,
    ⟨⟨"macc_ps", .packed256, .float32, "vfmadd.ps", "avx"⟩, ∅, none, false⟩]

theorem run_unlimited_mixed :
    mixed.stage = .notStarted ∧ (∀ r, ∃ ops, mixed.engine.lower r = .ok ops) ∧
    (mixed.run .unlimited).2.outcome = .ok mixedResults ∧
    List.Forall₂ mixed.Judges mixed.catalog.cases mixedResults ∧
    mixedResults.map Verdict.passed = [true, false, false] ∧
    (mixed.run .unlimited).2.sink.held = Utf8.encode
      ("PASS macc_ps Packed128 Float32: llvm.x86.fma4.vfmadd.ps\n" ++
        "FAIL bare_ps Packed128 Float32: no \"llvm.x86.\" operation in [fma4.vfmadd.ps]\n" ++
        "FAIL macc_ps Packed256 Float32: expected \"vfmadd.ps\" not found in []\n").toList ∧
    Log.messagesAt .warn (mixed.run .unlimited).2.log =
      ["bare_ps Packed128 Float32: pattern matched but no 'llvm.x86.' operation in trace"] := by
  have hanswers : ∀ r, ∃ ops, mixed.engine.lower r = .ok ops := fun r => ⟨_, rfl⟩
  obtain ⟨results, houtcome, hjudges, hheld, hwarned⟩ := run_unlimited (a := mixed) rfl hanswers
  have hmixed : (mixed.run .unlimited).2.outcome = .ok mixedResults := by rfl
  obtain rfl : mixedResults = results := Except.ok.inj (hmixed.symm.trans houtcome)
  have hlines : String.join (mixedResults.map mixed.line) =
      "PASS macc_ps Packed128 Float32: llvm.x86.fma4.vfmadd.ps\n" ++
        "FAIL bare_ps Packed128 Float32: no \"llvm.x86.\" operation in [fma4.vfmadd.ps]\n" ++
        "FAIL macc_ps Packed256 Float32: expected \"vfmadd.ps\" not found in []\n" := by
    decide +kernel
  refine ⟨rfl, hanswers, hmixed, hjudges, by decide, ?_, hwarned.trans ?_⟩
  · rw [hheld, text, hlines]
  · decide +kernel

end Audit

end LoweringAudit
