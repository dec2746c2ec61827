import LoweringAudit.Files.Path
import LoweringAudit.Proofs.Text.Pieces
import Mathlib.Logic.Relation
/-!
Dropping the steps of a path from its end, one by one, down to the root or the empty path. A path is
written as what is left of it, slashes, a last step and slashes again. Main statements: the
ancestors of a path without dots among its steps are what can be left of it, the longest first, and
what is left of a name seen from a directory is the directory.
-/
namespace LoweringAudit.Path

variable {d p q q' : String} {l : List Char} {first s : Segment} {others : List Segment}
  {m n : Nat}

/-- The names between the slashes of a path. -/
def steps (p : String) : List Segment :=
  (p.toList.splitOn '/').filter (· ≠ [])

/-- No step is a dot: such a step leads nowhere, and dropping it drops nothing. -/
def Plain (p : String) : Prop :=
  ['.'] ∉ steps p

/-- The same path, up to slashes that are doubled or stand at the end. -/
structure Same (p q : String) : Prop where
  isAbsolute : isAbsolute p = isAbsolute q
  steps : steps p = steps q

/-- No slash stands at the end, unless the path is the root. -/
def Trimmed (p : String) : Prop :=
  p = "/" ∨ p.toList.getLast? ≠ some '/'

def IsStep (s : Segment) : Prop :=
  s ≠ [] ∧ '/' ∉ s

instance (p : String) : Decidable (Plain p) :=
  inferInstanceAs (Decidable (['.'] ∉ steps p))

instance (p : String) : Decidable (Trimmed p) :=
  inferInstanceAs (Decidable (p = "/" ∨ p.toList.getLast? ≠ some '/'))

instance (s : Segment) : Decidable (IsStep s) :=
  inferInstanceAs (Decidable (s ≠ [] ∧ '/' ∉ s))

/-- The last character is there and is no slash. -/
def EndsInStep (l : List Char) : Prop :=
  l ≠ [] ∧ l.getLast? ≠ some '/'

/-- What is left of a path when its last step is dropped, with the slashes on both sides of it: the
empty path if nothing else is there, and the root if nothing but slashes is. -/
inductive Drops (p : String) : String → Prop
  | alone {s : Segment} {n : Nat} (step : IsStep s)
      (written : p.toList = s ++ List.replicate n '/') : Drops p ""
  | root {s : Segment} {m n : Nat} (step : IsStep s)
      (written : p.toList = List.replicate (m + 1) '/' ++ s ++ List.replicate n '/') : Drops p "/"
  | beneath {q : String} {s : Segment} {m n : Nat} (step : IsStep s) (ends : EndsInStep q.toList)
      (written : p.toList =
        q.toList ++ List.replicate (m + 1) '/' ++ s ++ List.replicate n '/') : Drops p q

/-- The path is the directory's, or it becomes so when steps are dropped from its end. -/
def Encloses (d p : String) : Prop :=
  Relation.ReflTransGen Drops p d

/-! ### Slashes and steps -/

/-- The pieces on both sides of slashes, and an empty piece between any two slashes. -/
theorem splitOn_slashes (l r : List Char) (m : Nat) :
    (l ++ List.replicate (m + 1) '/' ++ r).splitOn '/' =
      l.splitOn '/' ++ List.replicate m [] ++ r.splitOn '/' := by
  induction m generalizing l with
  | zero => simp [List.splitOn_append_cons_self]
  | succ m ih =>
    have hsplit := ih (l ++ ['/'])
    rw [List.splitOn_append_cons_self l [], List.splitOn_nil] at hsplit
    rw [List.replicate_succ, List.append_cons, hsplit, List.replicate_succ]
    simp

theorem splitOn_append_slashes (l : List Char) (n : Nat) :
    (l ++ List.replicate n '/').splitOn '/' = l.splitOn '/' ++ List.replicate n [] := by
  cases n with
  | zero => simp
  | succ n =>
    have hsplit := splitOn_slashes l [] n
    rw [List.append_nil, List.splitOn_nil] at hsplit
    rw [hsplit, List.replicate_succ', List.append_assoc]

theorem IsStep.splitOn_slashes (h : IsStep s) (n : Nat) :
    (s ++ List.replicate n '/').splitOn '/' = s :: List.replicate n [] := by
  rw [splitOn_append_slashes, List.splitOn_eq_singleton h.2, List.singleton_append]

/-- What ends in a step has that step for its last piece. -/
theorem EndsInStep.exists_step (h : EndsInStep l) :
    ∃ u s, l = u ++ s ∧ IsStep s ∧ (u = [] ∨ u.getLast? = some '/') := by
  refine ⟨l.rdropWhile (· != '/'), l.rtakeWhile (· != '/'),
    List.rdropWhile_append_rtakeWhile.symm, ⟨?_, fun hmem => ?_⟩, ?_⟩
  · rw [Ne, List.rtakeWhile_eq_nil_iff, not_forall]
    refine ⟨h.1, ?_⟩
    have hlast := h.2
    rw [List.getLast?_eq_some_getLast h.1] at hlast
    simpa using hlast
  · simpa using List.mem_rtakeWhile_imp hmem
  · by_cases hu : l.rdropWhile (· != '/') = []
    · exact .inl hu
    · right
      rw [List.getLast?_eq_some_getLast hu]
      simpa using List.rdropWhile_last_not _ _ hu

theorem EndsInStep.splitOn (h : EndsInStep l) :
    ∃ before s, l.splitOn '/' = before ++ [s] ∧ IsStep s := by
  obtain ⟨u, s, rfl, hs, rfl | hu⟩ := h.exists_step
  · exact ⟨[], s, by simpa using List.splitOn_eq_singleton hs.2, hs⟩
  · obtain ⟨v, rfl⟩ := List.getLast?_eq_some_iff.1 hu
    refine ⟨v.splitOn '/', s, ?_, hs⟩
    rw [List.append_assoc, List.singleton_append, List.splitOn_append_cons_self,
      List.splitOn_eq_singleton hs.2]

/-- A text up to the slashes at its end. -/
theorem exists_trailing (l : List Char) :
    ∃ t n, l = t ++ List.replicate n '/' ∧ (t = [] ∨ EndsInStep t) := by
  obtain ⟨⟨n, hl⟩, hlast⟩ := (Text.eq_rdropWhile_iff (c := '/') (t := l)).1 rfl
  refine ⟨l.rdropWhile (· == '/'), n, hl, ?_⟩
  by_cases hnil : l.rdropWhile (· == '/') = []
  · exact .inl hnil
  · exact .inr ⟨hnil, hlast⟩

/-- Without steps there is nothing to drop; otherwise the last one can be dropped. -/
theorem exists_drops (h : steps p ≠ []) : ∃ q, Drops p q := by
  obtain ⟨t, n, hp, rfl | ht⟩ := exists_trailing p.toList
  · refine absurd ?_ h
    rw [steps, hp, splitOn_append_slashes]
    simp
  obtain ⟨u, s, rfl, hs, rfl | hu⟩ := ht.exists_step
  · exact ⟨"", .alone hs hp⟩
  · obtain ⟨v, m, rfl, hv⟩ := exists_trailing u
    obtain ⟨m, rfl⟩ : ∃ k, m = k + 1 := by
      refine Nat.exists_eq_succ_of_ne_zero ?_
      rintro rfl
      rw [List.replicate_zero, List.append_nil] at hu
      rcases hv with rfl | hv
      · cases hu
      · exact hv.2 hu
    rcases hv with rfl | hv
    · exact ⟨"/", .root hs hp⟩
    · exact ⟨String.ofList v, .beneath hs (by simpa using hv) (by simpa using hp)⟩

theorem Drops.steps (h : Drops p q) : ∃ s, IsStep s ∧ steps p = steps q ++ [s] := by
  cases h with
  | alone hs hp =>
    refine ⟨_, hs, ?_⟩
    simp [Path.steps, hp, hs.splitOn_slashes, hs.1]
  | root hs hp =>
    refine ⟨_, hs, ?_⟩
    rw [Path.steps, hp, List.append_assoc, ← List.nil_append (List.replicate _ _),
      splitOn_slashes, hs.splitOn_slashes]
    simp [Path.steps, hs.1]
    decide
  | beneath hs _ hp =>
    refine ⟨_, hs, ?_⟩
    rw [Path.steps, hp, List.append_assoc, splitOn_slashes, hs.splitOn_slashes]
    simp [Path.steps, hs.1]

theorem Drops.length_lt (h : Drops p q) : q.length < p.length := by
  rw [← String.length_toList, ← String.length_toList]
  cases h with
  | alone hs hp =>
    have hstep := List.length_pos_of_ne_nil hs.1
    rw [hp, List.length_append]
    exact Nat.lt_add_right _ hstep
  | root hs hp =>
    have hstep := List.length_pos_of_ne_nil hs.1
    have hroot : "/".toList.length = 1 := rfl
    simp only [hroot, hp, List.length_append, List.length_replicate]
    omega
  | beneath hs _ hp =>
    simp only [hp, List.length_append, List.length_replicate]
    omega

theorem Drops.plain (h : Drops p q) (hp : Plain p) : Plain q := by
  obtain ⟨s, -, hsteps⟩ := h.steps
  intro hdot
  exact hp (by rw [hsteps]; exact List.mem_append_left _ hdot)

/-! ### What can be left is an ancestor -/

theorem ancestors_of_splitOn (h : p.toList.splitOn '/' = first :: others) :
    ancestors p = p :: properAncestors first others.reverse := by
  simp [ancestors, h]

/-- Empty pieces are passed over. -/
theorem properAncestors_replicate_append (first : Segment) (n : Nat) (before : List Segment) :
    properAncestors first (List.replicate n [] ++ before) = properAncestors first before := by
  induction n with
  | zero => rfl
  | succ n ih => simpa [List.replicate_succ, properAncestors, leadsNowhere] using ih

/-- A step leaves what stands before it. -/
theorem properAncestors_step (hs : leadsNowhere s = false) (first : Segment)
    (others : List Segment) (m n : Nat) :
    properAncestors first (others ++ List.replicate m [] ++ s :: List.replicate n []).reverse =
      ofSegments first (others.reverse.dropWhile leadsNowhere).reverse ::
        properAncestors first others.reverse := by
  have hreverse : (others ++ List.replicate m [] ++ s :: List.replicate n []).reverse =
      List.replicate n [] ++ s :: (List.replicate m [] ++ others.reverse) := by simp
  rw [hreverse, properAncestors_replicate_append, properAncestors, if_neg (by simp [hs]),
    properAncestors_replicate_append, List.dropWhile_append_of_pos (by simp [leadsNowhere])]

theorem ofSegments_of_splitOn (h : q.toList.splitOn '/' = first :: others)
    (hroot : ¬ (first = [] ∧ others = [])) : ofSegments first others = q := by
  rw [ofSegments, if_neg hroot, ← h, List.intercalate_splitOn, String.ofList_toList]

/-- Every step of a path without dots leads somewhere. -/
theorem Plain.leadsNowhere (h : Plain p) (hs : s ≠ []) (hmem : s ∈ p.toList.splitOn '/') :
    leadsNowhere s = false := by
  have hdot : s ≠ ['.'] := by
    rintro rfl
    exact h (List.mem_filter.2 ⟨hmem, by simp⟩)
  simp [Path.leadsNowhere, hs, hdot]

/-- What ends in a step is put together again from all its pieces. -/
theorem Plain.ofSegments_dropWhile (h : Plain q) (hends : EndsInStep q.toList)
    (hsplit : q.toList.splitOn '/' = first :: others) :
    ofSegments first (others.reverse.dropWhile Path.leadsNowhere).reverse = q := by
  obtain ⟨before, s, hlast, hs⟩ := hends.splitOn
  have hleads : Path.leadsNowhere s = false := h.leadsNowhere hs.1 (by simp [hlast])
  rw [hsplit] at hlast
  cases before with
  | nil =>
    obtain ⟨rfl, rfl⟩ := List.cons.inj hlast
    exact ofSegments_of_splitOn hsplit fun hroot => hs.1 hroot.1
  | cons first' before =>
    rw [List.cons_append] at hlast
    obtain ⟨rfl, rfl⟩ := List.cons.inj hlast
    have hkept : ((before ++ [s]).reverse.dropWhile Path.leadsNowhere).reverse = before ++ [s] := by
      simp [hleads]
    rw [hkept]
    exact ofSegments_of_splitOn hsplit (by simp)

/-- The ancestors of a path are the path and those of what is left of it. -/
theorem Drops.ancestors (h : Drops p q) (hplain : Plain p) : ancestors p = p :: ancestors q := by
  have hq : Plain q := h.plain hplain
  cases h with
  | @alone s n hs hp =>
    have hsplit : p.toList.splitOn '/' = s :: List.replicate n [] := by
      rw [hp, hs.splitOn_slashes]
    have hnone := properAncestors_replicate_append s n []
    rw [List.append_nil, properAncestors, if_neg hs.1] at hnone
    rw [ancestors_of_splitOn hsplit, List.reverse_replicate, hnone]
    rfl
  | @root s m n hs hp =>
    have hsplit : p.toList.splitOn '/' =
        [] :: ([] ++ List.replicate m [] ++ s :: List.replicate n []) := by
      rw [hp, List.append_assoc, ← List.nil_append (List.replicate (m + 1) '/'),
        ← List.append_assoc, List.append_assoc, splitOn_slashes, hs.splitOn_slashes]
      rfl
    have hleads := hplain.leadsNowhere hs.1 (by rw [hsplit]; simp)
    rw [ancestors_of_splitOn hsplit, properAncestors_step hleads]
    rfl
  | @beneath q s m n hs hends hp =>
    obtain ⟨first, others, hfirst⟩ :=
      List.exists_cons_of_ne_nil (List.splitOn_ne_nil '/' q.toList)
    have hsplit : p.toList.splitOn '/' =
        first :: (others ++ List.replicate m [] ++ s :: List.replicate n []) := by
      rw [hp, List.append_assoc, splitOn_slashes, hs.splitOn_slashes, hfirst]
      simp
    have hleads := hplain.leadsNowhere hs.1 (by rw [hsplit]; simp)
    rw [ancestors_of_splitOn hsplit, ancestors_of_splitOn hfirst, properAncestors_step hleads,
      hq.ofSegments_dropWhile hends hfirst]

theorem ancestors_of_steps_eq_nil (h : steps p = []) : ancestors p = [p] := by
  obtain ⟨first, others, hsplit⟩ :=
    List.exists_cons_of_ne_nil (List.splitOn_ne_nil '/' p.toList)
  have hempty : ∀ s ∈ first :: others, s = [] := by
    simpa [steps, hsplit, List.filter_eq_nil_iff] using h
  have hfirst : first = [] := hempty first List.mem_cons_self
  have hothers : others.reverse = List.replicate others.length [] := by
    rw [← List.reverse_replicate, List.reverse_inj]
    exact List.eq_replicate_of_mem fun s hs => hempty s (List.mem_cons_of_mem first hs)
  have hnone := properAncestors_replicate_append [] others.length []
  rw [List.append_nil, properAncestors, if_pos rfl] at hnone
  rw [ancestors_of_splitOn hsplit, hfirst, hothers, hnone]

theorem head?_ancestors (p : String) : (ancestors p).head? = some p := by
  obtain ⟨first, others, hsplit⟩ :=
    List.exists_cons_of_ne_nil (List.splitOn_ne_nil '/' p.toList)
  rw [ancestors_of_splitOn hsplit, List.head?_cons]

theorem Drops.parent? (h : Drops p q) (hplain : Plain p) : parent? p = some q := by
  rw [Path.parent?, h.ancestors hplain, List.tail_cons, head?_ancestors]

/-- Along a path without dots there is one way to drop the steps. -/
theorem Drops.unique (h : Drops p q) (h' : Drops p q') (hplain : Plain p) : q = q' :=
  Option.some.inj ((h.parent? hplain).symm.trans (h'.parent? hplain))

/-! ### The ancestors, from the longest to the shortest -/

theorem encloses_iff : Encloses d p ↔ p = d ∨ ∃ q, Drops p q ∧ Encloses d q :=
  Relation.ReflTransGen.cases_head_iff

/-- What holds of a path without steps, and of a path when it holds of what is left of it, holds of
every path. -/
theorem dropping_induction {motive : String → Prop} (stepless : ∀ p, steps p = [] → motive p)
    (drops : ∀ p q, Drops p q → motive q → motive p) (p : String) : motive p := by
  by_cases hsteps : steps p = []
  · exact stepless p hsteps
  · obtain ⟨q, hq⟩ := exists_drops hsteps
    have := hq.length_lt
    exact drops p q hq (dropping_induction stepless drops q)
  termination_by p.length

theorem not_drops_of_steps_eq_nil (h : steps p = []) : ¬ Drops p q := by
  intro hdrops
  obtain ⟨s, -, hsteps⟩ := hdrops.steps
  simp [h] at hsteps

theorem encloses_iff_of_steps_eq_nil (h : steps p = []) : Encloses d p ↔ d = p := by
  rw [encloses_iff, eq_comm]
  simp [not_drops_of_steps_eq_nil h]

theorem Drops.encloses_iff (h : Drops p q) (hplain : Plain p) :
    Encloses d p ↔ d = p ∨ Encloses d q := by
  rw [Path.encloses_iff, eq_comm]
  refine or_congr_right ⟨?_, fun hd => ⟨q, h, hd⟩⟩
  rintro ⟨q', hq', hd⟩
  rwa [h.unique hq' hplain]

theorem mem_ancestors_iff (hplain : Plain p) : d ∈ ancestors p ↔ Encloses d p := by
  induction p using dropping_induction with
  | stepless p hsteps =>
    rw [ancestors_of_steps_eq_nil hsteps, List.mem_singleton, encloses_iff_of_steps_eq_nil hsteps]
  | drops p q hq ih =>
    rw [hq.ancestors hplain, List.mem_cons, ih (hq.plain hplain), hq.encloses_iff hplain]

theorem Encloses.length_le (h : Encloses d p) : d.length ≤ p.length := by
  induction h with
  | refl => exact le_rfl
  | tail _ hdrops ih => exact hdrops.length_lt.le.trans ih

theorem Encloses.plain (h : Encloses d p) (hplain : Plain p) : Plain d := by
  induction h with
  | refl => exact hplain
  | tail _ hdrops ih => exact hdrops.plain ih

/-- Of two paths that enclose a third, the shorter one encloses the other. -/
theorem Encloses.of_length_le (hd : Encloses d p) (hq : Encloses q p) (hplain : Plain p)
    (hle : d.length ≤ q.length) : Encloses d q := by
  induction p using dropping_induction with
  | stepless p hsteps =>
    rw [(encloses_iff_of_steps_eq_nil hsteps).1 hq]
    exact hd
  | drops p r hr ih =>
    rcases (hr.encloses_iff hplain).1 hq with rfl | hqr
    · exact hd
    · rcases (hr.encloses_iff hplain).1 hd with rfl | hdr
      · exact absurd (hle.trans hqr.length_le) hr.length_lt.not_ge
      · exact ih hdr hqr (hr.plain hplain)

theorem Encloses.eq_of_length_le (h : Encloses d p) (hle : p.length ≤ d.length) : d = p := by
  rcases encloses_iff.1 h with rfl | ⟨q, hq, hd⟩
  · rfl
  · exact absurd (hle.trans hd.length_le) hq.length_lt.not_ge

/-- The first ancestor with a property is the longest enclosing path that has it. -/
theorem find?_ancestors_eq_some_iff {has : String → Bool} (hplain : Plain p) :
    (ancestors p).find? has = some d ↔
      Encloses d p ∧ has d = true ∧ ∀ q, Encloses q p → has q = true → q.length ≤ d.length := by
  induction p using dropping_induction with
  | stepless p hsteps =>
    simp only [ancestors_of_steps_eq_nil hsteps, encloses_iff_of_steps_eq_nil hsteps,
      List.find?_singleton, Option.ite_none_right_eq_some, Option.some.injEq]
    constructor
    · rintro ⟨hhas, rfl⟩
      exact ⟨rfl, hhas, fun q hq _ => hq ▸ le_rfl⟩
    · rintro ⟨rfl, hhas, -⟩
      exact ⟨hhas, rfl⟩
  | drops p q hq ih =>
    rw [hq.ancestors hplain, List.find?_cons]
    cases hhas : has p with
    | true =>
      rw [Option.some.injEq]
      constructor
      · rintro rfl
        exact ⟨.refl, hhas, fun r hr _ => hr.length_le⟩
      · rintro ⟨hd, -, hlongest⟩
        exact (hd.eq_of_length_le (hlongest p .refl hhas)).symm
    | false =>
      have hne : ∀ r, has r = true → r ≠ p := by
        rintro r hr rfl
        rw [hhas] at hr
        cases hr
      simp only [ih (hq.plain hplain), hq.encloses_iff hplain]
      constructor
      · rintro ⟨hd, hr, hlongest⟩
        exact ⟨.inr hd, hr, fun r hr' hhas' => hlongest r (hr'.resolve_left (hne r hhas')) hhas'⟩
      · rintro ⟨hd, hr, hlongest⟩
        exact ⟨hd.resolve_left (hne d hr), hr, fun r hr' => hlongest r (.inr hr')⟩

/-! ### Names seen from a directory -/

/-- A name seen from a directory stands behind one slash, the last one of the directory if it ends
with one. -/
theorem join_cases (dir : String) {name : String} (h : isAbsolute name = false) :
    dir = "" ∧ join dir name = name ∨
      ∃ v, (dir.toList = v ++ ['/'] ∨ dir.toList = v ∧ EndsInStep v) ∧
        (join dir name).toList = v ++ '/' :: name.toList := by
  by_cases hempty : dir = ""
  · subst hempty
    exact .inl ⟨rfl, join_empty name⟩
  right
  have hne : dir.toList ≠ [] := by simpa using hempty
  by_cases hlast : dir.toList.getLast? = some '/'
  · obtain ⟨v, hv⟩ := List.getLast?_eq_some_iff.1 hlast
    exact ⟨v, .inl hv, by simp [join, h, hv]⟩
  · refine ⟨dir.toList, .inr ⟨rfl, hne, hlast⟩, ?_⟩
    have hend : dir.toList.getLast?.all (· == '/') = false := by
      rw [List.getLast?_eq_some_getLast hne] at hlast ⊢
      simpa using hlast
    simp [join, h, hend]

theorem steps_join (dir : String) {name : String} (h : isAbsolute name = false) :
    steps (join dir name) = steps dir ++ steps name := by
  rcases join_cases dir h with ⟨rfl, hjoin⟩ | ⟨v, hdir | ⟨hdir, -⟩, hjoin⟩
  · rw [hjoin]
    rfl
  · simp [steps, hjoin, hdir, List.splitOn_append_cons_self]
  · simp [steps, hjoin, hdir, List.splitOn_append_cons_self]

theorem isAbsolute_join (dir : String) {name : String} (h : isAbsolute name = false) :
    isAbsolute (join dir name) = isAbsolute dir := by
  rcases join_cases dir h with ⟨rfl, hjoin⟩ | ⟨v, hdir | ⟨hdir, hv⟩, hjoin⟩
  · rw [hjoin, h]
    rfl
  · cases v <;> simp [isAbsolute, hjoin, hdir]
  · cases v with
    | nil => exact absurd rfl hv.1
    | cons c v => simp [isAbsolute, hjoin, hdir]

/-- What is seen from a directory is seen the same from the same directory written otherwise. -/
theorem Same.join {dir dir' : String} (h : Same dir dir') (name : String) :
    Same (join dir name) (join dir' name) := by
  cases hname : Path.isAbsolute name with
  | true => simp only [Path.join, hname, ↓reduceIte]; exact ⟨rfl, rfl⟩
  | false =>
    exact ⟨by rw [isAbsolute_join dir hname, isAbsolute_join dir' hname, h.isAbsolute],
      by rw [steps_join dir hname, steps_join dir' hname, h.steps]⟩

theorem isAbsolute_eq_false {name : String} (h : IsStep name.toList) : isAbsolute name = false := by
  rw [isAbsolute, beq_eq_false_iff_ne]
  exact fun hhead => h.2 (List.mem_of_head? hhead)

theorem Drops.isAbsolute_eq (h : Drops p q) : isAbsolute q = isAbsolute p := by
  cases h with
  | alone hs hp =>
    obtain ⟨c, s, rfl⟩ := List.exists_cons_of_ne_nil hs.1
    have hc : c ≠ '/' := fun he => hs.2 (he ▸ List.mem_cons_self)
    simp [isAbsolute, hp, hc]
  | root hs hp => simp [isAbsolute, hp, List.replicate_succ]
  | beneath hs hq hp =>
    obtain ⟨c, l, hl⟩ := List.exists_cons_of_ne_nil hq.1
    simp [isAbsolute, hp, hl]

theorem Trimmed.drops_join {dir name : String} (hdir : Trimmed dir) (hname : IsStep name.toList) :
    Drops (join dir name) dir := by
  rcases join_cases dir (isAbsolute_eq_false hname) with
    ⟨rfl, hjoin⟩ | ⟨v, hv | ⟨rfl, hends⟩, hjoin⟩
  · exact .alone (n := 0) hname (by simp)
  · rcases hdir with rfl | hlast
    · obtain rfl : v = [] := by simpa using hv
      exact .root (m := 0) (n := 0) hname (by simp [hjoin])
    · exact absurd (by simp [hv]) hlast
  · exact .beneath (m := 0) (n := 0) hname hends (by simp [hjoin])

/-- What is left of a name seen from a directory is the directory, but for slashes at its end. -/
theorem exists_drops_join (dir : String) {name : String} (hname : IsStep name.toList) :
    ∃ q, Drops (join dir name) q ∧ Same q dir ∧ (Trimmed dir → q = dir) := by
  have habsolute := isAbsolute_eq_false hname
  have hsteps : steps name = [name.toList] := by
    simp [steps, List.splitOn_eq_singleton hname.2, hname.1]
  have hsame : ∀ q, Drops (join dir name) q → Same q dir := fun q hq => by
    obtain ⟨s, -, hs⟩ := hq.steps
    rw [steps_join dir habsolute, hsteps] at hs
    exact ⟨hq.isAbsolute_eq.trans (isAbsolute_join dir habsolute),
      (List.append_inj_left' hs rfl).symm⟩
  by_cases hdir : Trimmed dir
  · have hq := hdir.drops_join hname
    exact ⟨dir, hq, hsame dir hq, fun _ => rfl⟩
  · obtain ⟨q, hq⟩ : ∃ q, Drops (join dir name) q :=
      exists_drops (by simp [steps_join dir habsolute, hsteps])
    exact ⟨q, hq, hsame q hq, fun h => absurd h hdir⟩

theorem plain_join {dir name : String} (hdir : Plain dir) (hname : Plain name)
    (h : isAbsolute name = false) : Plain (join dir name) := by
  rw [Plain, steps_join dir h, List.mem_append]
  exact not_or_intro hdir hname

end LoweringAudit.Path
