import LoweringAudit.Proofs.Audit.Arrangement
/-!
What a verdict takes from a trace. Whether the pattern is found and whether the prefix is depends on
which operations there are, not on their order and number, and more of them take nothing away; which
operation is recorded as the first with the pattern depends on the order as well, but not on what
comes later. Main statement: so two runs with engines that differ in this way only have verdicts
that differ in this way only.
-/
namespace LoweringAudit

namespace Trace

variable {t u : Trace} {pattern start op : String}

theorem isSome_firstMatch_mono (h : t.ops ⊆ u.ops) (ht : (t.firstMatch pattern).isSome = true) :
    (u.firstMatch pattern).isSome = true := by
  rw [isSome_firstMatch_iff] at ht ⊢
  obtain ⟨op, hop, hpattern⟩ := ht
  exact ⟨op, h hop, hpattern⟩

theorem hasPrefix_mono (h : t.ops ⊆ u.ops) (ht : t.hasPrefix start = true) :
    u.hasPrefix start = true := by
  rw [hasPrefix_eq_true_iff] at ht ⊢
  obtain ⟨op, hop, hstart⟩ := ht
  exact ⟨op, h hop, hstart⟩

theorem isSome_firstMatch_congr (h : ∀ op, op ∈ t.ops ↔ op ∈ u.ops) :
    (t.firstMatch pattern).isSome = (u.firstMatch pattern).isSome := by
  rw [Bool.eq_iff_iff]
  exact ⟨isSome_firstMatch_mono fun op => (h op).1, isSome_firstMatch_mono fun op => (h op).2⟩

theorem hasPrefix_congr (h : ∀ op, op ∈ t.ops ↔ op ∈ u.ops) :
    t.hasPrefix start = u.hasPrefix start := by
  rw [Bool.eq_iff_iff]
  exact ⟨hasPrefix_mono fun op => (h op).1, hasPrefix_mono fun op => (h op).2⟩

/-- Operations that come later do not change the first match. -/
theorem firstMatch_of_prefix (h : t.ops <+: u.ops) (ht : t.firstMatch pattern = some op) :
    u.firstMatch pattern = some op := by
  obtain ⟨more, hmore⟩ := h
  rw [firstMatch] at ht
  rw [firstMatch, ← hmore, List.find?_append, ht]
  rfl

theorem ops_foldl_push (t : Trace) (more : List String) :
    (more.foldl push t).ops = t.ops ++ more := by
  induction more generalizing t with
  | nil => simp
  | cons op more ih => rw [List.foldl_cons, ih, ops_push, List.append_assoc, List.singleton_append]

end Trace

/-- What a failure line complains of. -/
inductive Complaint where
  /-- No operation contains the pattern. -/
  | missing
  /-- No operation starts with the target's prefix. -/
  | foreign
  deriving DecidableEq, Repr

def Complaint.words (targetPrefix : String) (c : Case) : Complaint → String
  | missing => "expected \"" ++ c.pattern ++ "\" not found in ["
  | foreign => "no \"" ++ targetPrefix ++ "\" operation in ["

namespace Verdict

variable {v w : Verdict} {targetPrefix : String} {c : Case} {t u : Trace}

/-- The failure line is of this kind, with the verdict's own operations in it. -/
def Complains (v : Verdict) (targetPrefix : String) (k : Complaint) : Prop :=
  v.failureLine targetPrefix =
    "FAIL " ++ v.case.title ++ ": " ++ k.words targetPrefix v.case ++ ", ".intercalate v.trace.ops ++
      "]"

/-- The verdicts are on one case and differ only in the operations and in which one is recorded. -/
structure Agrees (targetPrefix : String) (v w : Verdict) : Prop where
  case : w.case = v.case
  passed : w.passed = v.passed
  prefixed : w.prefixed = v.prefixed
  found : w.matched.isSome = v.matched.isSome
  complaint : ∃ k, v.Complains targetPrefix k ∧ w.Complains targetPrefix k

theorem complains (v : Verdict) (targetPrefix : String) :
    v.Complains targetPrefix (if v.matched.isSome then .foreign else .missing) := by
  unfold Complains failureLine
  cases v.matched <;> rfl

theorem judge_agrees (h : ∀ op, op ∈ t.ops ↔ op ∈ u.ops) :
    Agrees targetPrefix (judge targetPrefix c t) (judge targetPrefix c u) := by
  have hfound : (u.firstMatch c.pattern).isSome = (t.firstMatch c.pattern).isSome :=
    Trace.isSome_firstMatch_congr fun op => (h op).symm
  have hprefixed : u.hasPrefix targetPrefix = t.hasPrefix targetPrefix :=
    Trace.hasPrefix_congr fun op => (h op).symm
  refine ⟨rfl, ?_, hprefixed, hfound, _, complains _ _, ?_⟩
  · rw [passed, passed, judge, judge, hfound, hprefixed]
  · have hsame := complains (judge targetPrefix c u) targetPrefix
    rwa [judge, hfound] at hsame

theorem passed_judge_mono (h : t.ops ⊆ u.ops) (ht : (judge targetPrefix c t).passed = true) :
    (judge targetPrefix c u).passed = true := by
  rw [passed, Bool.and_eq_true] at ht ⊢
  exact ⟨Trace.isSome_firstMatch_mono h ht.1, Trace.hasPrefix_mono h ht.2⟩

end Verdict

/-- A summary counts and names what the verdicts agree on. -/
theorem Summary.ofVerdicts_congr {targetPrefix : String} {vs ws : List Verdict}
    (h : List.Forall₂ (Verdict.Agrees targetPrefix) vs ws) : ofVerdicts ws = ofVerdicts vs := by
  have houtcomes : ws.map (fun v => (v.case.name, v.passed)) =
      vs.map fun v => (v.case.name, v.passed) := by
    induction h with
    | nil => rfl
    | cons hvw _ ih => rw [List.map_cons, List.map_cons, ih, hvw.case, hvw.passed]
  rw [ofVerdicts, houtcomes, ofVerdicts]

/-- Both engines answer the request, with operations that are so related. -/
def Engine.Related (related : List String → List String → Prop) (first second : Engine)
    (r : Request) : Prop :=
  ∃ ops others, first.lower r = .ok ops ∧ second.lower r = .ok others ∧ related ops others

namespace Audit

variable {a : Audit} {related : List String → List String → Prop}

/-- The audit with another engine. -/
def withEngine (a : Audit) (engine : Engine) : Audit :=
  { a with engine := engine }

/-- Whatever two engines answer on the cases that have their feature, if their operations are
related as `related` has it, then the audit completes with either of them when there is room, and
whenever it completes with both, its results are related as `agree` has it. -/
def Transfers (a : Audit) (related : List String → List String → Prop)
    (agree : List Verdict → List Verdict → Prop) : Prop :=
  ∀ first second : Engine,
    (∀ c ∈ a.catalog.cases, c.feature ∈ a.features →
      first.Related related second (c.request a.features)) →
    (∃ vs, ((a.withEngine first).run .unlimited).2.outcome = .ok vs) ∧
    (∃ ws, ((a.withEngine second).run .unlimited).2.outcome = .ok ws) ∧
    ∀ s t vs ws, ((a.withEngine first).run s).2.outcome = .ok vs →
      ((a.withEngine second).run t).2.outcome = .ok ws → agree vs ws

theorem exists_outcome_of_answers (fresh : a.stage = .notStarted)
    (h : ∀ c ∈ a.catalog.cases, a.Answers c) : ∃ vs, (a.run .unlimited).2.outcome = .ok vs := by
  exact ⟨_, (run_of_judges fresh (judges_map_verdictOn h)).1⟩

theorem related_of_judges {first second : Engine} {c : Case} {v w : Verdict} (hnil : related [] [])
    (h : c.feature ∈ a.features → first.Related related second (c.request a.features))
    (hv : (a.withEngine first).Judges c v) (hw : (a.withEngine second).Judges c w) :
    related v.trace.ops w.trace.ops := by
  by_cases hf : c.feature ∈ a.features
  · obtain ⟨ops, others, hops, hothers, hrelated⟩ := h hf
    have hfirst : v.trace.ops = ops := Except.ok.inj ((hv.answered hf).symm.trans hops)
    have hsecond : w.trace.ops = others := Except.ok.inj ((hw.answered hf).symm.trans hothers)
    rwa [hfirst, hsecond]
  · rw [hv.skipped hf, hw.skipped hf]
    exact hnil

/-- It is enough that judging takes related operations to verdicts that agree. -/
theorem transfers_of_judge (fresh : a.stage = .notStarted) {agree : Verdict → Verdict → Prop}
    (hnil : related [] [])
    (hjudge : ∀ c t u, related t.ops u.ops →
      agree (.judge a.targetPrefix c t) (.judge a.targetPrefix c u)) :
    a.Transfers related (List.Forall₂ agree) := by
  intro first second h
  refine ⟨exists_outcome_of_answers (a := a.withEngine first) fresh fun c hc hf => ?_,
    exists_outcome_of_answers (a := a.withEngine second) fresh fun c hc hf => ?_, ?_⟩
  · obtain ⟨ops, -, hops, -⟩ := h c hc hf
    exact ⟨ops, hops⟩
  · obtain ⟨-, others, -, hothers, -⟩ := h c hc hf
    exact ⟨others, hothers⟩
  · intro s t vs ws hvs hws
    refine (Paired.of_common (judges_of_run hvs).1 (judges_of_run hws).1).imp ?_
    rintro v w ⟨c, hc, hv, hw⟩
    have hrelated := related_of_judges hnil (h c hc) hv hw
    rw [hv.eq_judge, hw.eq_judge]
    exact hjudge c v.trace w.trace hrelated

/-- With an engine that has the same operations on each case, in whatever order and however often, a
run has verdicts that agree with those of the first, case by case, and the same summary. With an
engine that has these operations and others, every case passes that passed; and if the others come
after them, the operation that is recorded stays the same where there is one. -/
theorem run_by_trace_set {a : Audit} (fresh : a.stage = .notStarted) :
    a.Transfers (fun ops others => ∀ op, op ∈ ops ↔ op ∈ others) (fun vs ws =>
      List.Forall₂ (Verdict.Agrees a.targetPrefix) vs ws ∧
        Summary.ofVerdicts ws = Summary.ofVerdicts vs) ∧
    a.Transfers (fun ops others => ∀ op ∈ ops, op ∈ others) (List.Forall₂ fun v w =>
      w.case = v.case ∧ (v.passed = true → w.passed = true)) ∧
    a.Transfers (fun ops others => ∃ more, others = ops ++ more) (List.Forall₂ fun v w =>
      w.case = v.case ∧ ∀ op, v.matched = some op → w.matched = some op) ∧
    ∀ (t : Trace) (more : List String) (pattern op : String), t.firstMatch pattern = some op →
      (more.foldl Trace.push t).firstMatch pattern = some op := by
  refine ⟨fun first second h => ?_, ?_, ?_, ?_⟩
  · obtain ⟨hfirst, hsecond, hagree⟩ := transfers_of_judge fresh (fun _ => Iff.rfl)
      (fun c t u => Verdict.judge_agrees) first second h
    refine ⟨hfirst, hsecond, fun s t vs ws hvs hws => ?_⟩
    have hall := hagree s t vs ws hvs hws
    exact ⟨hall, Summary.ofVerdicts_congr hall⟩
  · exact transfers_of_judge fresh (fun _ hop => hop)
      fun c t u h => ⟨rfl, Verdict.passed_judge_mono fun op hop => h op hop⟩
  · refine transfers_of_judge fresh ⟨[], rfl⟩ fun c t u h => ⟨rfl, fun op hop => ?_⟩
    obtain ⟨more, hmore⟩ := h
    exact Trace.firstMatch_of_prefix ⟨more, hmore.symm⟩ hop
  · intro t more pattern op h
    exact Trace.firstMatch_of_prefix ⟨more, (Trace.ops_foldl_push t more).symm⟩ h

/-- The operations of `mixed` the other way round, and the last of them once more. -/
def turned : Engine :=
  .ofFunction "turned" fun r =>
    if r.builtin = "bare_ps" then ["fma4.vfmadd.ps", "fma4.vfmadd.ps"]
    else ["llvm.x86.fma4.vfmadd.ps", "ret", "llvm.x86.fma4.vfmadd.ps"]

/-- The operations of `mixed` and one more after them, which has the prefix. -/
def grown : Engine :=
  .ofFunction "grown" fun r =>
    if r.builtin = "bare_ps" then ["fma4.vfmadd.ps", "llvm.x86.ret"]
    else ["ret", "llvm.x86.fma4.vfmadd.ps", "llvm.x86.ret"]

theorem related_turned (r : Request) :
    mixed.engine.Related (fun ops others => ∀ op, op ∈ ops ↔ op ∈ others) turned r := by
  refine ⟨_, _, rfl, rfl, fun op => ?_⟩
  by_cases hb : r.builtin = "bare_ps"
  · simp [hb]
  · simp only [if_neg hb, List.mem_cons, List.not_mem_nil, or_false]
    tauto

theorem related_grown (r : Request) :
    mixed.engine.Related (fun ops others => ∃ more, others = ops ++ more) grown r := by
  refine ⟨_, _, rfl, rfl, ["llvm.x86.ret"], ?_⟩
  by_cases hb : r.builtin = "bare_ps"
  · simp [hb]
  · simp [hb]

/-- The verdicts on `mixed` agree with those that `turned` has, and what is recorded stays with
`grown`. -/
theorem run_by_trace_set_mixed :
    mixed.stage = .notStarted ∧
    (∃ vs ws, ((mixed.withEngine mixed.engine).run .unlimited).2.outcome = .ok vs ∧
      ((mixed.withEngine turned).run .unlimited).2.outcome = .ok ws ∧
      List.Forall₂ (Verdict.Agrees "llvm.x86.") vs ws ∧
      Summary.ofVerdicts ws = Summary.ofVerdicts vs) ∧
    ∃ vs ws, ((mixed.withEngine mixed.engine).run .unlimited).2.outcome = .ok vs ∧
      ((mixed.withEngine grown).run .unlimited).2.outcome = .ok ws ∧
      List.Forall₂ (fun v w => w.case = v.case ∧ ∀ op, v.matched = some op → w.matched = some op)
        vs ws := by
  obtain ⟨hsame, -, hafter, -⟩ := run_by_trace_set (a := mixed) rfl
  obtain ⟨⟨vs, hvs⟩, ⟨ws, hws⟩, hagree⟩ := hsame _ _ fun c _ _ => related_turned _
  obtain ⟨⟨vs', hvs'⟩, ⟨us, hus⟩, hkeep⟩ := hafter _ _ fun c _ _ => related_grown _
  exact ⟨rfl, ⟨vs, ws, hvs, hws, hagree _ _ _ _ hvs hws⟩,
    vs', us, hvs', hus, hkeep _ _ _ _ hvs' hus⟩

end Audit

end LoweringAudit
