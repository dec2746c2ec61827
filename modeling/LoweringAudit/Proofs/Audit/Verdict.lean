import LoweringAudit.Audit.Run
/-!
What is right to say of one case, in words that do not mention how it is found: its operations, the
first that contains the pattern, whether some operation has the target's prefix, the line of the
report and the warning. Main statements: lowering and judging a case gives the one right verdict or
the engine's error, and the report's line and the warning are those of the verdict.
-/
namespace LoweringAudit

/-- The operation contains the pattern, and none before it does. -/
def FirstWith (pattern : String) (ops : List String) (op : String) : Prop :=
  ∃ before after, ops = before ++ op :: after ∧ pattern.toList <:+: op.toList ∧
    ∀ other ∈ before, ¬ pattern.toList <:+: other.toList

namespace Trace

variable {t : Trace} {pattern start op : String}

theorem firstMatch_eq_some_iff : t.firstMatch pattern = some op ↔ FirstWith pattern t.ops op := by
  simp only [firstMatch, List.find?_eq_some_iff_append, Text.contains_eq_true_iff, FirstWith,
    Bool.not_eq_true', ← Bool.not_eq_true]
  constructor
  · rintro ⟨hop, before, after, he, hbefore⟩
    exact ⟨before, after, he, hop, hbefore⟩
  · rintro ⟨before, after, he, hop, hbefore⟩
    exact ⟨hop, before, after, he, hbefore⟩

theorem isSome_firstMatch_iff :
    (t.firstMatch pattern).isSome = true ↔ ∃ op ∈ t.ops, pattern.toList <:+: op.toList := by
  simp only [firstMatch, List.find?_isSome, Text.contains_eq_true_iff]

theorem hasPrefix_eq_true_iff :
    t.hasPrefix start = true ↔ ∃ op ∈ t.ops, start.toList <+: op.toList := by
  simp only [hasPrefix, List.any_eq_true, List.isPrefixOf_iff_prefix]

end Trace

namespace Engine

variable {engine : Engine} {features : FeatureSet} {c : Case}

theorem lowerCase_of_error {e : LoweringError} (hf : c.feature ∈ features)
    (h : engine.lower (c.request features) = .error e) :
    engine.lowerCase features c =
      ⟨.error e, engine.announce (c.request features), [c.request features]⟩ := by
  simp [lowerCase, hf, h]

theorem lowerCase_of_ok {ops : List String} (hf : c.feature ∈ features)
    (h : engine.lower (c.request features) = .ok ops) :
    engine.lowerCase features c =
      ⟨.ok ⟨ops⟩, engine.announce (c.request features) ++ [engine.lowered c ops],
        [c.request features]⟩ := by
  simp [lowerCase, hf, h]

end Engine

namespace Audit

variable {a : Audit} {c : Case} {v : Verdict}

/-- The verdict is right for the case. -/
structure Judges (a : Audit) (c : Case) (v : Verdict) : Prop where
  case : v.case = c
  skipped : ¬ c.feature ∈ a.features → v.trace.ops = []
  answered : c.feature ∈ a.features → a.engine.lower (c.request a.features) = .ok v.trace.ops
  matched : ∀ op, v.matched = some op ↔ FirstWith c.pattern v.trace.ops op
  prefixed : v.prefixed = true ↔ ∃ op ∈ v.trace.ops, a.targetPrefix.toList <+: op.toList
  passed : v.passed = true ↔ (∃ op ∈ v.trace.ops, c.pattern.toList <:+: op.toList) ∧
    ∃ op ∈ v.trace.ops, a.targetPrefix.toList <+: op.toList

/-- Lowering the case and judging its trace. -/
def judged (a : Audit) (c : Case) : Except LoweringError Verdict :=
  (a.engine.lowerCase a.features c).outcome.map (Verdict.judge a.targetPrefix c)

/-- Judging is right about every trace that is the case's own. -/
theorem judges_judge {t : Trace} (hskip : ¬ c.feature ∈ a.features → t.ops = [])
    (hans : c.feature ∈ a.features → a.engine.lower (c.request a.features) = .ok t.ops) :
    a.Judges c (Verdict.judge a.targetPrefix c t) where
  case := rfl
  skipped := hskip
  answered := hans
  matched _ := Trace.firstMatch_eq_some_iff
  prefixed := Trace.hasPrefix_eq_true_iff
  passed := by
    simp only [Verdict.passed, Verdict.judge, Bool.and_eq_true, Trace.isSome_firstMatch_iff,
      Trace.hasPrefix_eq_true_iff]

/-- A right verdict is the one that judging its trace gives. -/
theorem Judges.eq_judge (h : a.Judges c v) : v = Verdict.judge a.targetPrefix c v.trace := by
  have hmatched : v.matched = v.trace.firstMatch c.pattern := by
    apply Option.ext
    intro op
    rw [h.matched, Trace.firstMatch_eq_some_iff]
  have hprefixed : v.prefixed = v.trace.hasPrefix a.targetPrefix := by
    rw [Bool.eq_iff_iff, h.prefixed, Trace.hasPrefix_eq_true_iff]
  rw [Verdict.judge, ← hmatched, ← hprefixed, ← h.case]

theorem judged_eq_ok_iff : a.judged c = .ok v ↔ a.Judges c v := by
  constructor
  · intro h
    by_cases hf : c.feature ∈ a.features
    · cases hl : a.engine.lower (c.request a.features) with
      | error e =>
        rw [judged, Engine.lowerCase_of_error hf hl] at h
        cases h
      | ok ops =>
        rw [judged, Engine.lowerCase_of_ok hf hl] at h
        cases h
        exact judges_judge (fun hn => absurd hf hn) fun _ => hl
    · rw [judged, Engine.lowerCase_of_not_mem hf] at h
      cases h
      exact judges_judge (fun _ => rfl) fun hm => absurd hm hf
  · intro h
    have hv := h.eq_judge
    by_cases hf : c.feature ∈ a.features
    · rw [judged, Engine.lowerCase_of_ok hf (h.answered hf)]
      exact congrArg Except.ok hv.symm
    · have htrace : v.trace = ∅ := congrArg Trace.mk (h.skipped hf)
      rw [judged, Engine.lowerCase_of_not_mem hf]
      rw [htrace] at hv
      exact congrArg Except.ok hv.symm

/-- The engine's error is what becomes of a case that has its feature and no answer. -/
theorem judged_eq_error_iff {e : LoweringError} : a.judged c = .error e ↔
    c.feature ∈ a.features ∧ a.engine.lower (c.request a.features) = .error e := by
  by_cases hf : c.feature ∈ a.features
  · cases hl : a.engine.lower (c.request a.features) with
    | error d => simp [judged, Engine.lowerCase_of_error hf hl, hf, Except.map]
    | ok ops => simp [judged, Engine.lowerCase_of_ok hf hl, Except.map]
  · simp [judged, Engine.lowerCase_of_not_mem hf, hf, Except.map]

/-- What the report says of a verdict. -/
def line (a : Audit) (v : Verdict) : String :=
  match v.matched, v.prefixed with
  | none, _ =>
    "FAIL " ++ v.case.title ++ ": expected \"" ++ v.case.pattern ++ "\" not found in [" ++
      ", ".intercalate v.trace.ops ++ "]\n"
  | some _, false =>
    "FAIL " ++ v.case.title ++ ": no \"" ++ a.targetPrefix ++ "\" operation in [" ++
      ", ".intercalate v.trace.ops ++ "]\n"
  | some op, true => if a.verbose then "PASS " ++ v.case.title ++ ": " ++ op ++ "\n" else ""

/-- What is warned of on a verdict. -/
def warned (a : Audit) (v : Verdict) : List String :=
  match v.matched, v.prefixed with
  | some _, false =>
    [v.case.title ++ ": pattern matched but no '" ++ a.targetPrefix ++ "' operation in trace"]
  | _, _ => []

theorem report_eq_line (a : Audit) (v : Verdict) :
    v.report a.targetPrefix a.verbose = a.line v := by
  have hmissing : ∀ s, ": " ++ ("expected \"" ++ s) = ": expected \"" ++ s := by
    intro s
    rw [← String.append_assoc]
    rfl
  have hforeign : ∀ s, ": " ++ ("no \"" ++ s) = ": no \"" ++ s := by
    intro s
    rw [← String.append_assoc]
    rfl
  cases hm : v.matched <;> cases hp : v.prefixed <;>
    simp [Verdict.report, Verdict.passed, Verdict.failureLine, Verdict.passLine, Trace.render,
      line, hm, hp, String.append_assoc, hmissing, hforeign]

theorem messagesAt_warning (a : Audit) (v : Verdict) :
    Log.messagesAt .warn (a.warning v) = a.warned v := by
  cases hm : v.matched <;> cases hp : v.prefixed <;>
    simp [warning, warned, Log.messagesAt, hm, hp]

end Audit

end LoweringAudit
