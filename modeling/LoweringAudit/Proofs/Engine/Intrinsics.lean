import LoweringAudit.Engine.Reference
import LoweringAudit.Proofs.Text.Pieces
/-!
The table of FMA4 intrinsics read in both directions. A builtin is named for an operation, alone or
with one word behind an underscore, and which word that is does not matter; the intrinsic is put
together from the operation's mnemonic and the form of the operands. Main statement: the builtins
that have an intrinsic are those of the table's operations, in the forms that the operation has, and
an intrinsic tells the operation, the kind of the operands and their element type.
-/
namespace LoweringAudit

namespace ElementType

variable {e f : ElementType} {k j : OperandKind}

theorem length_suffix (e : ElementType) (k : OperandKind) : (e.suffix k).toList.length = 2 := by
  unfold suffix
  split <;> rfl

/-- The suffix tells the packing and the element type. -/
theorem suffix_inj (h : e.suffix k = f.suffix j) : k.isPacked = j.isPacked ∧ e = f := by
  cases hk : k.isPacked <;> cases hj : j.isPacked <;> cases e <;> cases f <;>
    simp [suffix, hk, hj] at h ⊢

end ElementType

/-- The packing and the width make the kind. -/
theorem OperandKind.eq_of_packing {k j : OperandKind} (hpacked : k.isPacked = j.isPacked)
    (hwidth : k.widthBits = 256 ↔ j.widthBits = 256) : k = j := by
  cases k <;> cases j <;> simp [isPacked, widthBits] at hpacked hwidth ⊢

namespace Fma4

variable {name op back front : List Char} {builtin other s : String} {o p : Operation}
  {k j : OperandKind} {e f : ElementType}

theorem stem_of_not_mem (h : '_' ∉ name) : stem name = name := by
  have hdrop : name.reverse.dropWhile (· != '_') = [] := by
    rw [List.dropWhile_eq_nil_iff]
    intro c hc
    have hne : c ≠ '_' := fun he => h (he ▸ List.mem_reverse.1 hc)
    simpa using hne
  rw [stem, hdrop]

theorem stem_append (h : '_' ∉ back) : stem (front ++ '_' :: back) = front := by
  have hback : ∀ c ∈ back.reverse, (c != '_') = true := by
    intro c hc
    have hne : c ≠ '_' := fun he => h (he ▸ List.mem_reverse.1 hc)
    simpa using hne
  have hdrop : (front ++ '_' :: back).reverse.dropWhile (· != '_') = '_' :: front.reverse := by
    rw [List.reverse_append, List.reverse_cons, List.append_assoc]
    exact (Text.span_append hback (by simp)).2
  rw [stem, hdrop]
  exact List.reverse_reverse front

/-- The stem is cut off at the last underscore. -/
theorem stem_eq_iff (h : '_' ∉ op) :
    stem name = op ↔ name = op ∨ ∃ back, '_' ∉ back ∧ name = op ++ '_' :: back := by
  constructor
  · intro hstem
    by_cases hmem : '_' ∈ name
    · obtain ⟨before, after, hcut, hnot⟩ := List.eq_append_cons_of_mem (List.mem_reverse.2 hmem)
      have hname : name = after.reverse ++ '_' :: before.reverse := by
        rw [← List.reverse_reverse name, hcut, List.reverse_append, List.reverse_cons,
          List.append_assoc]
        rfl
      have hback : '_' ∉ before.reverse := fun hm => hnot (List.mem_reverse.1 hm)
      rw [hname, stem_append hback] at hstem
      exact .inr ⟨before.reverse, hback, hstem ▸ hname⟩
    · rw [stem_of_not_mem hmem] at hstem
      exact .inl hstem
  · rintro (rfl | ⟨back, hback, rfl⟩)
    · exact stem_of_not_mem h
    · exact stem_append hback

/-- The builtin is named for the operation, alone or with a word behind an underscore. -/
def Operation.Names (o : Operation) (builtin : String) : Prop :=
  builtin = o.name ∨
    ∃ word : String, '_' ∉ word.toList ∧ builtin = o.name ++ "_" ++ word

theorem underscore_not_mem_name (h : o ∈ operations) : '_' ∉ o.name.toList := by
  have hall : ∀ o ∈ operations, '_' ∉ o.name.toList := by decide
  exact hall o h

theorem dot_not_mem_mnemonic (h : o ∈ operations) : '.' ∉ o.mnemonic.toList := by
  have hall : ∀ o ∈ operations, '.' ∉ o.mnemonic.toList := by decide
  exact hall o h

theorem eq_of_name (ho : o ∈ operations) (hp : p ∈ operations) (h : o.name = p.name) : o = p := by
  have hall : ∀ o ∈ operations, ∀ p ∈ operations, o.name = p.name → o = p := by decide
  exact hall o ho p hp h

theorem eq_of_mnemonic (ho : o ∈ operations) (hp : p ∈ operations)
    (h : o.mnemonic = p.mnemonic) : o = p := by
  have hall : ∀ o ∈ operations, ∀ p ∈ operations, o.mnemonic = p.mnemonic → o = p := by decide
  exact hall o ho p hp h

theorem stem_eq_name_iff (h : o ∈ operations) :
    stem builtin.toList = o.name.toList ↔ o.Names builtin := by
  rw [stem_eq_iff (underscore_not_mem_name h), String.toList_inj]
  refine or_congr_right ?_
  constructor
  · rintro ⟨back, hback, hname⟩
    refine ⟨String.ofList back, by rwa [String.toList_ofList], String.toList_inj.1 ?_⟩
    simp [hname]
  · rintro ⟨word, hword, rfl⟩
    exact ⟨word.toList, hword, by simp⟩

theorem operation?_eq_some_iff :
    operation? builtin = some o ↔ o ∈ operations ∧ o.Names builtin := by
  constructor
  · intro h
    have hmem : o ∈ operations := List.mem_of_find?_eq_some h
    have hname : o.name.toList = stem builtin.toList := by simpa using List.find?_some h
    exact ⟨hmem, (stem_eq_name_iff hmem).1 hname.symm⟩
  · rintro ⟨hmem, hnames⟩
    have hstem := (stem_eq_name_iff hmem).2 hnames
    cases hfind : operation? builtin with
    | none =>
      have hnone := List.find?_eq_none.1 hfind o hmem
      simp [hstem] at hnone
    | some p =>
      have hp : p ∈ operations := List.mem_of_find?_eq_some hfind
      have hname : p.name.toList = stem builtin.toList := by simpa using List.find?_some hfind
      rw [eq_of_name hp hmem (String.toList_inj.1 (hname.trans hstem))]

/-- A builtin is named for one operation at most. -/
theorem Operation.Names.unique (ho : o ∈ operations) (hp : p ∈ operations) (h : o.Names builtin)
    (hother : p.Names builtin) : o = p := by
  have hfind := operation?_eq_some_iff.2 ⟨ho, h⟩
  rw [operation?_eq_some_iff.2 ⟨hp, hother⟩] at hfind
  exact (Option.some.inj hfind).symm

theorem intrinsicFor_eq_some_iff : intrinsicFor builtin k e = some s ↔
    ∃ o ∈ operations, o.Names builtin ∧ o.hasForm k = true ∧
      s = intrinsicPrefix ++ o.instruction k e := by
  unfold intrinsicFor
  cases hfind : operation? builtin with
  | none =>
    simp only [reduceCtorEq, false_iff]
    rintro ⟨o, ho, hnames, -⟩
    rw [operation?_eq_some_iff.2 ⟨ho, hnames⟩] at hfind
    cases hfind
  | some p =>
    obtain ⟨hp, hpnames⟩ := operation?_eq_some_iff.1 hfind
    constructor
    · intro h
      simp only at h
      split at h
      · next hform =>
        cases h
        exact ⟨p, hp, hpnames, hform, rfl⟩
      · cases h
    · rintro ⟨o, ho, hnames, hform, rfl⟩
      rw [operation?_eq_some_iff.2 ⟨ho, hnames⟩] at hfind
      cases hfind
      simp [hform]

/-- What an instruction has behind its mnemonic and the dot. -/
def formText (k : OperandKind) (e : ElementType) : List Char :=
  (e.suffix k).toList ++ if k.widthBits = 256 then ".256".toList else []

theorem toList_instruction (o : Operation) (k : OperandKind) (e : ElementType) :
    (o.instruction k e).toList = o.mnemonic.toList ++ '.' :: formText k e := by
  unfold Operation.instruction formText
  split <;> simp

theorem formText_inj (h : formText k e = formText j f) : k = j ∧ e = f := by
  have hlength : (e.suffix k).toList.length = (f.suffix j).toList.length := by
    rw [e.length_suffix, f.length_suffix]
  obtain ⟨hsuffix, hwidth⟩ := List.append_inj h hlength
  obtain ⟨hpacked, helem⟩ := ElementType.suffix_inj (String.toList_inj.1 hsuffix)
  refine ⟨OperandKind.eq_of_packing hpacked ?_, helem⟩
  split at hwidth <;> split at hwidth <;> simp_all

/-- A mnemonic has no dot, so it ends where the first dot of the instruction stands. -/
theorem instruction_inj (ho : o ∈ operations) (hp : p ∈ operations)
    (h : o.instruction k e = p.instruction j f) : o = p ∧ k = j ∧ e = f := by
  have hlist : o.mnemonic.toList ++ '.' :: formText k e =
      p.mnemonic.toList ++ '.' :: formText j f := by
    rw [← toList_instruction, ← toList_instruction, h]
  have hspan : ∀ {q : Operation}, q ∈ operations → ∀ form : List Char,
      (q.mnemonic.toList ++ '.' :: form).takeWhile (· != '.') = q.mnemonic.toList := by
    intro q hq form
    refine (Text.span_append (fun c hc => ?_) (by simp)).1
    have hne : c ≠ '.' := fun he => dot_not_mem_mnemonic hq (he ▸ hc)
    simpa using hne
  have hmnemonic : o.mnemonic.toList = p.mnemonic.toList := by
    rw [← hspan ho (formText k e), hlist, hspan hp]
  obtain rfl := eq_of_mnemonic ho hp (String.toList_inj.1 hmnemonic)
  have hform := List.append_cancel_left hlist
  exact ⟨rfl, formText_inj (List.cons.inj hform).2⟩

/-- A builtin has an intrinsic just when it is named for an operation of the table, alone or with
one word behind an underscore, and the operation has that form. Two builtins that have intrinsics
have the same one just when the kinds are the same, the element types are, and one operation is what
both are named for, whatever words they have behind it. -/
theorem intrinsicFor_exact :
    (∀ (builtin : String) (k : OperandKind) (e : ElementType),
      (∃ s, intrinsicFor builtin k e = some s) ↔
        ∃ o ∈ operations, o.Names builtin ∧ (k.isPacked = true ∨ o.hasScalar = true)) ∧
    ∀ (builtin other : String) (k j : OperandKind) (e f : ElementType) (s t : String),
      intrinsicFor builtin k e = some s → intrinsicFor other j f = some t →
      (s = t ↔ k = j ∧ e = f ∧ ∃ o ∈ operations, o.Names builtin ∧ o.Names other) := by
  constructor
  · intro builtin k e
    simp only [intrinsicFor_eq_some_iff, Operation.hasForm, Bool.or_eq_true]
    constructor
    · rintro ⟨s, o, ho, hnames, hform, -⟩
      exact ⟨o, ho, hnames, hform⟩
    · rintro ⟨o, ho, hnames, hform⟩
      exact ⟨_, o, ho, hnames, hform, rfl⟩
  · intro builtin other k j e f s t hs ht
    obtain ⟨o, ho, hnames, -, rfl⟩ := intrinsicFor_eq_some_iff.1 hs
    obtain ⟨p, hp, hpnames, -, rfl⟩ := intrinsicFor_eq_some_iff.1 ht
    rw [String.append_right_inj]
    constructor
    · intro h
      obtain ⟨rfl, hk, he⟩ := instruction_inj ho hp h
      exact ⟨hk, he, o, ho, hnames, hpnames⟩
    · rintro ⟨rfl, rfl, q, hq, hqnames, hqother⟩
      rw [Operation.Names.unique ho hq hnames hqnames, Operation.Names.unique hp hq hpnames hqother]

/-- Two builtins that have one intrinsic are of one operation, and two that have not are not. -/
theorem intrinsicFor_exact_macc :
    intrinsicFor "macc_ps" .packed256 .float64 = some "llvm.x86.fma4.vfmadd.pd.256" ∧
    intrinsicFor "macc_" .packed256 .float64 = some "llvm.x86.fma4.vfmadd.pd.256" ∧
    intrinsicFor "nmacc" .packed256 .float64 = some "llvm.x86.fma4.vfnmadd.pd.256" ∧
    (∃ o ∈ operations, o.Names "macc_ps" ∧ o.Names "macc_") ∧
    ¬ ∃ o ∈ operations, o.Names "macc_ps" ∧ o.Names "nmacc" := by
  have hplain : intrinsicFor "macc_ps" .packed256 .float64 =
      some "llvm.x86.fma4.vfmadd.pd.256" := by decide
  have hblank : intrinsicFor "macc_" .packed256 .float64 =
      some "llvm.x86.fma4.vfmadd.pd.256" := by decide
  have hnegated : intrinsicFor "nmacc" .packed256 .float64 =
      some "llvm.x86.fma4.vfnmadd.pd.256" := by decide
  obtain ⟨-, hsame⟩ := intrinsicFor_exact
  refine ⟨hplain, hblank, hnegated, ((hsame _ _ _ _ _ _ _ _ hplain hblank).1 rfl).2.2, fun h => ?_⟩
  exact absurd ((hsame _ _ _ _ _ _ _ _ hplain hnegated).2 ⟨rfl, rfl, h⟩) (by decide)

end Fma4

end LoweringAudit
