import LoweringAudit.Proofs.Paired
/-!
The earliest item of a list at which something happens. A list that is read item by item fails with
the error of the first item that cannot be read. In a list that is numbered upwards, what comes
before an item is what has a smaller number.
-/
namespace LoweringAudit

/-- Some item of the list has the one property, and all items before it have the other. -/
inductive Earliest {α : Type} (Q R : α → Prop) : List α → Prop where
  | here {a : α} {l : List α} (item : Q a) : Earliest Q R (a :: l)
  | later {a : α} {l : List α} (passed : R a) (rest : Earliest Q R l) : Earliest Q R (a :: l)

namespace Earliest

variable {α β ε : Type} {Q R : α → Prop} {a : α} {l : List α}

@[simp] theorem not_nil : ¬ Earliest Q R [] := by
  intro h
  cases h

theorem cons_iff : Earliest Q R (a :: l) ↔ Q a ∨ R a ∧ Earliest Q R l := by
  constructor
  · intro h
    cases h with
    | here item => exact .inl item
    | later passed rest => exact .inr ⟨passed, rest⟩
  · rintro (item | ⟨passed, rest⟩)
    · exact .here item
    · exact .later passed rest

/-- Reading every item fails with the error of the earliest one that cannot be read. -/
theorem mapM_eq_error_iff {f : α → Except ε β} {e : ε} :
    l.mapM f = .error e ↔ Earliest (fun a => f a = .error e) (fun a => ∃ b, f a = .ok b) l := by
  induction l with
  | nil => simp [pure, Except.pure]
  | cons a l ih =>
    rw [List.mapM_cons, Paired.bind_eq_error_iff, cons_iff, ← ih]
    have hrest : ∀ b : β, (l.mapM f >>= fun bs => pure (b :: bs)) = .error e ↔
        l.mapM f = .error e := by
      intro b
      simp [Paired.bind_eq_error_iff, pure, Except.pure]
    simp only [hrest, exists_and_right]

/-- Items counted from a number on are numbered upwards. -/
theorem pairwise_zipIdx (l : List α) (n : Nat) : (l.zipIdx n).Pairwise fun p q => p.2 < q.2 := by
  have hnumbers : ((l.zipIdx n).map Prod.snd).Pairwise (· < ·) := by
    rw [List.zipIdx_map_snd]
    exact List.pairwise_lt_range'
  exact List.pairwise_map.1 hnumbers

/-- In a list numbered upwards the items before one of them are those of smaller numbers. -/
theorem mem_before_iff {before after : List (Nat × α)} {p q : Nat × α}
    (h : (before ++ p :: after).Pairwise fun p q => p.1 < q.1) :
    q ∈ before ↔ q ∈ before ++ p :: after ∧ q.1 < p.1 := by
  obtain ⟨-, hafter, hbefore⟩ := List.pairwise_append.1 h
  constructor
  · intro hq
    exact ⟨List.mem_append_left _ hq, hbefore q hq p List.mem_cons_self⟩
  · rintro ⟨hq, hlt⟩
    rcases List.mem_append.1 hq with hq | hq
    · exact hq
    · rcases List.mem_cons.1 hq with rfl | hq
      · omega
      · have := (List.pairwise_cons.1 hafter).1 q hq
        omega

/-- In a list numbered upwards the earliest item is the one of the smallest number. -/
theorem iff_of_increasing {Q R : Nat × α → Prop} {l : List (Nat × α)}
    (h : l.Pairwise fun p q => p.1 < q.1) :
    Earliest Q R l ↔ ∃ p ∈ l, Q p ∧ ∀ q ∈ l, q.1 < p.1 → R q := by
  induction h with
  | nil => simp
  | @cons x l hx _ ih =>
    rw [cons_iff, ih]
    constructor
    · rintro (item | ⟨passed, p, hp, item, hbelow⟩)
      · refine ⟨x, List.mem_cons_self, item, ?_⟩
        intro q hq hlt
        rcases List.mem_cons.1 hq with rfl | hq
        · omega
        · have := hx q hq
          omega
      · refine ⟨p, List.mem_cons_of_mem x hp, item, ?_⟩
        intro q hq hlt
        rcases List.mem_cons.1 hq with rfl | hq
        · exact passed
        · exact hbelow q hq hlt
    · rintro ⟨p, hp, item, hbelow⟩
      rcases List.mem_cons.1 hp with rfl | hp
      · exact .inl item
      · refine .inr ⟨hbelow x List.mem_cons_self (hx p hp), p, hp, item, ?_⟩
        intro q hq
        exact hbelow q (List.mem_cons_of_mem x hq)

end Earliest

end LoweringAudit
