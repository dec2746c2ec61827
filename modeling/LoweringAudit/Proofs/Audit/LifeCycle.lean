import LoweringAudit.Audit.Run
import Mathlib.Data.List.Basic
/-!
The life of an audit in its caller's hands. A caller sets the prefix and the verbosity, asks for the
stage and runs the audit, in any order and as often as it likes. Main statement: the first run is
the only one, whatever becomes of it. Before it the audit has not started and after it the audit is
over, and a later run is refused, leaves its sink as it was and asks the engine nothing.
-/
namespace LoweringAudit.Audit

/-- What a caller can do with an audit. -/
inductive Operation where
  | setPrefix (targetPrefix : String)
  | setVerbose (verbose : Bool)
  | showStage
  | run (sink : Sink)

/-- What a caller is given in return. -/
inductive Reply where
  | done
  | stage (stage : Stage)
  | ran (run : Run)

namespace Operation

def targetPrefix? : Operation → Option String
  | setPrefix targetPrefix => some targetPrefix
  | _ => none

def verbose? : Operation → Option Bool
  | setVerbose verbose => some verbose
  | _ => none

def isRun : Operation → Bool
  | run _ => true
  | _ => false

/-- The reply of an audit that does nothing: it shows its stage, and by it refuses to run. -/
def idleReply (stage : Stage) : Operation → Reply
  | setPrefix _ => .done
  | setVerbose _ => .done
  | showStage => .stage stage
  | run sink => .ran ⟨.error (.invalidStage stage), sink, [], []⟩

end Operation

/-- A new audit, with the default prefix and not verbose. -/
def create (catalog : Catalog) (engine : Engine) (features : FeatureSet) : Audit where
  catalog := catalog
  engine := engine
  features := features

def perform (a : Audit) : Operation → Audit × Reply
  | .setPrefix targetPrefix => ({ a with targetPrefix := targetPrefix }, .done)
  | .setVerbose verbose => ({ a with verbose := verbose }, .done)
  | .showStage => (a, .stage a.stage)
  | .run sink => ((a.run sink).1, .ran (a.run sink).2)

/-- The audit after some operations. -/
def after (a : Audit) : List Operation → Audit
  | [] => a
  | o :: ops => (a.perform o).1.after ops

/-- The replies to some operations, one for each. -/
def replies (a : Audit) : List Operation → List Reply
  | [] => []
  | o :: ops => (a.perform o).2 :: (a.perform o).1.replies ops

/-- The audit with the last prefix and the last verbosity that some operations set. -/
def withLast (a : Audit) (ops : List Operation) : Audit :=
  { a with
    targetPrefix := (ops.filterMap Operation.targetPrefix?).getLastD a.targetPrefix
    verbose := (ops.filterMap Operation.verbose?).getLastD a.verbose }

variable {a : Audit} {o : Operation} {ops : List Operation}

theorem replies_append (a : Audit) (ops later : List Operation) :
    a.replies (ops ++ later) = a.replies ops ++ (a.after ops).replies later := by
  induction ops generalizing a with
  | nil => rfl
  | cons o ops ih => simp only [List.cons_append, replies, after, ih]

theorem withLast_cons (a : Audit) (o : Operation) (ops : List Operation) :
    a.withLast (o :: ops) = (a.withLast [o]).withLast ops := by
  cases o with
  | setPrefix p =>
    simp only [withLast, Operation.targetPrefix?, Operation.verbose?, List.filterMap_cons,
      List.filterMap_nil, List.getLastD_cons, List.getLastD_nil]
  | setVerbose v =>
    simp only [withLast, Operation.targetPrefix?, Operation.verbose?, List.filterMap_cons,
      List.filterMap_nil, List.getLastD_cons, List.getLastD_nil]
  | showStage => rfl
  | run sink => rfl

/-- A run leaves the audit completed, and nothing else changes its stage. -/
theorem stage_perform (h : a.stage ≠ .running) (o : Operation) :
    (a.perform o).1.stage = if o.isRun then .completed else a.stage := by
  cases o with
  | setPrefix p => rfl
  | setVerbose v => rfl
  | showStage => rfl
  | run sink =>
    cases hs : a.stage with
    | notStarted => simp [perform, Operation.isRun, hs]
    | running => exact absurd hs h
    | completed => simp [perform, Operation.isRun, run_of_completed hs, hs]

theorem stage_after (h : a.stage ≠ .running) (ops : List Operation) :
    (a.after ops).stage = if ops.any Operation.isRun then .completed else a.stage := by
  induction ops generalizing a with
  | nil => rfl
  | cons o ops ih =>
    have hstage := stage_perform h o
    have hnext : (a.perform o).1.stage ≠ .running := by
      rw [hstage]
      split
      · simp
      · exact h
    rw [after, ih hnext, hstage, List.any_cons]
    cases o.isRun <;> simp

/-- An operation that starts no run sets what it sets and changes nothing else. -/
theorem perform_of_idle (h : o.isRun = true → a.stage = .completed) :
    a.perform o = (a.withLast [o], o.idleReply a.stage) := by
  cases o with
  | setPrefix p => rfl
  | setVerbose v => rfl
  | showStage => rfl
  | run sink =>
    have hs := h rfl
    rw [perform, run_of_completed hs, Operation.idleReply, hs]
    rfl

theorem perform_all_of_idle (h : ∀ o ∈ ops, o.isRun = true → a.stage = .completed) :
    a.after ops = a.withLast ops ∧ a.replies ops = ops.map (·.idleReply a.stage) := by
  -- No setting changes the stage, so the hypothesis on the runs to come stays as it is.
  induction ops generalizing a with
  | nil => exact ⟨rfl, rfl⟩
  | cons o ops ih =>
    have hhead := perform_of_idle (h o List.mem_cons_self)
    have htail := ih (a := a.withLast [o]) fun p hp => h p (List.mem_cons_of_mem o hp)
    rw [after, replies, hhead, htail.1, htail.2, ← withLast_cons]
    exact ⟨rfl, rfl⟩

/-- Once an audit has run, it is as it was but for what is set, and every reply says that it is
over. -/
theorem replies_of_completed (h : a.stage = .completed) (ops : List Operation) :
    a.after ops = a.withLast ops ∧ a.replies ops = ops.map (·.idleReply .completed) := by
  have hidle : a.after ops = a.withLast ops ∧ a.replies ops = ops.map (·.idleReply a.stage) :=
    perform_all_of_idle fun _ _ _ => h
  rw [h] at hidle
  exact hidle

/-- Operations without a run set the last prefix and the last verbosity. -/
theorem replies_of_no_run (h : ops.any Operation.isRun = false) :
    a.after ops = a.withLast ops ∧ a.replies ops = ops.map (·.idleReply a.stage) := by
  refine perform_all_of_idle fun o ho hrun => ?_
  rw [List.any_eq_false] at h
  exact absurd hrun (h o ho)

/-- The first run is that of the audit with what was set last, and ends its life. -/
theorem replies_of_first_run (fresh : a.stage = .notStarted) {quiet : List Operation}
    (hquiet : quiet.any Operation.isRun = false) (sink : Sink) (later : List Operation) :
    a.replies (quiet ++ .run sink :: later) = quiet.map (·.idleReply .notStarted) ++
      .ran ((a.withLast quiet).run sink).2 :: later.map (·.idleReply .completed) := by
  obtain ⟨hafter, hreplies⟩ := replies_of_no_run (a := a) hquiet
  have hstage : (a.withLast quiet).stage = .notStarted := fresh
  have hover := replies_of_completed (stage_run_of_notStarted hstage sink) later
  rw [replies_append, hafter, hreplies, fresh, replies, perform, hover.2]

/-- However an audit is used, it has not started up to the first run and is completed from then on.
The first run depends on what was set before only by the last prefix and the last verbosity. Every
other run is refused as one of a completed audit, with its sink untouched, nothing logged and no
call made, and changes nothing. -/
theorem life_cycle (catalog : Catalog) (engine : Engine) (features : FeatureSet)
    (ops : List Operation) :
    (∀ before, before <+: ops → ((create catalog engine features).after before).stage =
      if before.any Operation.isRun then .completed else .notStarted) ∧
    (ops.any Operation.isRun = false →
      (create catalog engine features).replies ops = ops.map (·.idleReply .notStarted)) ∧
    (∀ quiet sink later, ops = quiet ++ .run sink :: later →
      quiet.any Operation.isRun = false →
      (create catalog engine features).replies ops = quiet.map (·.idleReply .notStarted) ++
        .ran (((create catalog engine features).withLast quiet).run sink).2 ::
          later.map (·.idleReply .completed)) ∧
    ∀ before, before <+: ops → before.any Operation.isRun = true → ∀ sink,
      ((create catalog engine features).after before).run sink =
        ((create catalog engine features).after before,
          ⟨.error (.invalidStage .completed), sink, [], []⟩) := by
  have fresh : (create catalog engine features).stage = .notStarted := rfl
  have hstage : ∀ before, ((create catalog engine features).after before).stage =
      if before.any Operation.isRun then .completed else .notStarted :=
    stage_after (by simp [fresh])
  refine ⟨fun before _ => hstage before, fun hquiet => ?_, ?_, ?_⟩
  · exact (replies_of_no_run hquiet).2
  · rintro quiet sink later rfl hquiet
    exact replies_of_first_run fresh hquiet sink later
  · intro before _ hrun sink
    have hover := hstage before
    rw [if_pos hrun] at hover
    exact run_of_completed hover sink

/-- An audit whose only case fails. -/
def failing : Audit :=
  create ⟨[⟨"macc_ps", .packed128, .float32, "vfmadd.ps", "fma4"⟩], by decide, by decide⟩
    (.ofFunction "sample" fun _ => ["ret"]) (.ofList ["fma4"])

/-- A run that breaks off within its report is the only one all the same. -/
theorem life_cycle_broken_report :
    failing.replies [.setVerbose true, .run (.ofLimit 3), .setPrefix "", .run .unlimited,
        .showStage] =
      [.done, .ran (({ failing with verbose := true }).run (.ofLimit 3)).2, .done,
        .ran ⟨.error (.invalidStage .completed), .unlimited, [], []⟩, .stage .completed] := by
  obtain ⟨-, -, hfirst, -⟩ := life_cycle failing.catalog failing.engine failing.features
    [.setVerbose true, .run (.ofLimit 3), .setPrefix "", .run .unlimited, .showStage]
  exact hfirst [.setVerbose true] (.ofLimit 3) _ rfl rfl

end LoweringAudit.Audit
