import LoweringAudit.Text.Blank
/-!
Sets of target features. A set is its strictly increasing list of names, in the order of code
points, so that equal sets are equal values and a set has one written form. Main statements: the
members of `insert`, `ofList` and `parse`, and that members determine a set.
-/
namespace LoweringAudit

structure FeatureSet where
  toList : List String
  increasing : toList.Pairwise (· < ·)
  deriving DecidableEq, Repr

namespace FeatureSet

instance : Membership String FeatureSet where
  mem s f := f ∈ s.toList

instance (f : String) (s : FeatureSet) : Decidable (f ∈ s) :=
  inferInstanceAs (Decidable (f ∈ s.toList))

theorem mem_def {f : String} {s : FeatureSet} : f ∈ s ↔ f ∈ s.toList := Iff.rfl

def empty : FeatureSet := ⟨[], .nil⟩

instance : EmptyCollection FeatureSet := ⟨empty⟩
instance : Inhabited FeatureSet := ⟨empty⟩

@[simp] theorem not_mem_empty (f : String) : ¬ f ∈ (∅ : FeatureSet) := List.not_mem_nil

/-- Puts a name at its place in an increasing list. -/
def place (f : String) : List String → List String
  | [] => [f]
  | g :: rest => if f < g then f :: g :: rest else if f = g then g :: rest else g :: place f rest

theorem mem_place {f g : String} {l : List String} : f ∈ place g l ↔ f = g ∨ f ∈ l := by
  induction l with
  | nil => simp [place]
  | cons h t ih =>
    unfold place
    split
    · simp
    · split
      · subst_vars; simp
      · simp only [List.mem_cons, ih]; exact or_left_comm

theorem pairwise_place {f : String} {l : List String} (h : l.Pairwise (· < ·)) :
    (place f l).Pairwise (· < ·) := by
  induction l with
  | nil => simp [place]
  | cons g t ih =>
    rw [List.pairwise_cons] at h
    unfold place
    split
    · rename_i hlt
      refine List.pairwise_cons.2 ⟨?_, List.pairwise_cons.2 h⟩
      intro x hx
      rcases List.mem_cons.1 hx with rfl | hx
      · exact hlt
      · exact String.lt_trans hlt (h.1 x hx)
    · split
      · exact List.pairwise_cons.2 h
      · rename_i hnlt hne
        refine List.pairwise_cons.2 ⟨?_, ih h.2⟩
        intro x hx
        rcases mem_place.1 hx with rfl | hx
        · exact Std.lt_of_le_of_ne (Std.not_lt.1 hnlt) (Ne.symm hne)
        · exact h.1 x hx

def insert (f : String) (s : FeatureSet) : FeatureSet :=
  ⟨place f s.toList, pairwise_place s.increasing⟩

@[simp] theorem mem_insert {f g : String} {s : FeatureSet} : f ∈ s.insert g ↔ f = g ∨ f ∈ s :=
  mem_place

def ofList : List String → FeatureSet
  | [] => ∅
  | f :: rest => (ofList rest).insert f

@[simp] theorem mem_ofList {f : String} {l : List String} : f ∈ ofList l ↔ f ∈ l := by
  induction l with
  | nil => simp [ofList]
  | cons g t ih => simp [ofList, ih]

/-- Two sets with the same members are the same set. -/
theorem ext {s t : FeatureSet} (h : ∀ f, f ∈ s ↔ f ∈ t) : s = t := by
  obtain ⟨l, hl⟩ := s
  obtain ⟨m, hm⟩ := t
  simp only [mem_def] at h
  congr 1
  induction l generalizing m with
  | nil =>
    cases m with
    | nil => rfl
    | cons b m => exact absurd ((h b).2 List.mem_cons_self) List.not_mem_nil
  | cons a l ih =>
    cases m with
    | nil => exact absurd ((h a).1 List.mem_cons_self) List.not_mem_nil
    | cons b m =>
      rw [List.pairwise_cons] at hl hm
      have hab : a = b := by
        rcases List.mem_cons.1 ((h a).1 List.mem_cons_self) with hab | ha
        · exact hab
        · rcases List.mem_cons.1 ((h b).2 List.mem_cons_self) with hba | hb
          · exact hba.symm
          · exact absurd (String.lt_trans (hm.1 a ha) (hl.1 b hb)) (String.lt_irrefl b)
      subst hab
      congr 1
      refine ih hl.2 m hm.2 fun f => ⟨fun hf => ?_, fun hf => ?_⟩
      · rcases List.mem_cons.1 ((h f).1 (List.mem_cons_of_mem _ hf)) with rfl | hf'
        · exact absurd (hl.1 f hf) (String.lt_irrefl f)
        · exact hf'
      · rcases List.mem_cons.1 ((h f).2 (List.mem_cons_of_mem _ hf)) with rfl | hf'
        · exact absurd (hm.1 f hf) (String.lt_irrefl f)
        · exact hf'

/-- One item of a list: trimmed, and without the plus signs that say "on". -/
def readItem (item : List Char) : List Char :=
  (Text.trim item).dropWhile (· == '+')

/-- The set of a comma-separated list. Items with nothing left are dropped. -/
def parse (list : String) : FeatureSet :=
  ofList ((((list.toList.splitOn ',').map readItem).filter (!·.isEmpty)).map String.ofList)

/-- The set as one comma-separated list. -/
def joined (s : FeatureSet) : String :=
  ",".intercalate s.toList

end FeatureSet

end LoweringAudit
