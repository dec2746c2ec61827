import Mathlib.Data.List.Forall2
/-!
Lists whose items are related in pairs, first to first and so on. A list that is read item by item
is paired with what was read, and each item of either list has its partner in the other.
-/
namespace LoweringAudit.Paired

variable {α β γ ε : Type} {R : α → β → Prop} {l : List α} {m : List β}

/-- Two steps succeed when the first does and the second does on its result. -/
theorem bind_eq_ok_iff {x : Except ε α} {f : α → Except ε β} {b : β} :
    x >>= f = .ok b ↔ ∃ a, x = .ok a ∧ f a = .ok b := by
  cases x with
  | error e => simp [bind, Except.bind]
  | ok a => simp [bind, Except.bind]

/-- Two steps fail when the first does, or the second does on its result. -/
theorem bind_eq_error_iff {x : Except ε α} {f : α → Except ε β} {e : ε} :
    x >>= f = .error e ↔ x = .error e ∨ ∃ a, x = .ok a ∧ f a = .error e := by
  cases x with
  | error d => simp [bind, Except.bind]
  | ok a => simp [bind, Except.bind]

/-- Reading every item succeeds exactly when each is read, in order. -/
theorem mapM_eq_ok_iff {f : α → Except ε β} :
    l.mapM f = .ok m ↔ List.Forall₂ (fun a b => f a = .ok b) l m := by
  induction l generalizing m with
  | nil => cases m <;> simp [pure, Except.pure]
  | cons a l ih =>
    simp only [List.mapM_cons, bind_eq_ok_iff, ih, List.forall₂_cons_left_iff, pure, Except.pure,
      Except.ok.injEq]
    constructor
    · rintro ⟨b, hb, bs, hbs, rfl⟩
      exact ⟨b, bs, hb, hbs, rfl⟩
    · rintro ⟨b, bs, hb, hbs, rfl⟩
      exact ⟨b, hb, bs, hbs, rfl⟩

theorem exists_right (h : List.Forall₂ R l m) {a : α} (ha : a ∈ l) : ∃ b ∈ m, R a b := by
  induction h with
  | nil => cases ha
  | cons hab _ ih =>
    rcases List.mem_cons.1 ha with rfl | ha
    · exact ⟨_, List.mem_cons_self, hab⟩
    · obtain ⟨b, hb, hr⟩ := ih ha
      exact ⟨b, List.mem_cons_of_mem _ hb, hr⟩

theorem exists_left (h : List.Forall₂ R l m) {b : β} (hb : b ∈ m) : ∃ a ∈ l, R a b :=
  exists_right h.flip hb

/-- Two lists that are paired with the same one are paired with each other. -/
theorem of_common {S : α → γ → Prop} {n : List γ} (h : List.Forall₂ R l m)
    (hs : List.Forall₂ S l n) : List.Forall₂ (fun b c => ∃ a ∈ l, R a b ∧ S a c) m n := by
  induction h generalizing n with
  | nil =>
    cases hs
    exact .nil
  | @cons a b l m hab _ ih =>
    cases hs with
    | cons hac hs =>
      refine .cons ⟨a, List.mem_cons_self, hab, hac⟩ ((ih hs).imp ?_)
      rintro b c ⟨x, hx, hb, hc⟩
      exact ⟨x, List.mem_cons_of_mem a hx, hb, hc⟩

/-- Partners for all items make a list of partners. -/
theorem exists_of_forall (h : ∀ a ∈ l, ∃ b, R a b) : ∃ m, List.Forall₂ R l m := by
  induction l with
  | nil => exact ⟨[], .nil⟩
  | cons a l ih =>
    obtain ⟨b, hb⟩ := h a List.mem_cons_self
    obtain ⟨m, hm⟩ := ih fun a ha => h a (List.mem_cons_of_mem _ ha)
    exact ⟨b :: m, .cons hb hm⟩

/-- What is paired with two lists put together is two lists put together. -/
theorem append_left_iff {k : List α} :
    List.Forall₂ R (l ++ k) m ↔
      ∃ m₁ m₂, List.Forall₂ R l m₁ ∧ List.Forall₂ R k m₂ ∧ m = m₁ ++ m₂ := by
  induction l generalizing m with
  | nil => simp
  | cons a l ih =>
    simp only [List.cons_append, List.forall₂_cons_left_iff, ih]
    constructor
    · rintro ⟨b, _, hab, ⟨m₁, m₂, h₁, h₂, rfl⟩, rfl⟩
      exact ⟨b :: m₁, m₂, ⟨b, m₁, hab, h₁, rfl⟩, h₂, rfl⟩
    · rintro ⟨_, m₂, ⟨b, m₁, hab, h₁, rfl⟩, h₂, rfl⟩
      exact ⟨b, m₁ ++ m₂, hab, ⟨m₁, m₂, h₁, h₂, rfl⟩, rfl⟩

/-- A list is paired with the partners that each of its items gives alone. -/
theorem flatMap_of_singletons {f : β → List α} (h : ∀ b ∈ m, ∃ a, f b = [a] ∧ R a b) :
    List.Forall₂ R (m.flatMap f) m := by
  induction m with
  | nil => exact .nil
  | cons b m ih =>
    obtain ⟨a, ha, hr⟩ := h b List.mem_cons_self
    rw [List.flatMap_cons, ha, List.singleton_append]
    exact .cons hr (ih fun b hb => h b (List.mem_cons_of_mem _ hb))

/-- Partners found by way of a third list are partners found one by one. -/
theorem exists_map_iff {S : α → γ → Prop} {g : γ → β} :
    (∃ n, List.Forall₂ S l n ∧ n.map g = m) ↔
      List.Forall₂ (fun a b => ∃ c, S a c ∧ g c = b) l m := by
  constructor
  · rintro ⟨n, hn, rfl⟩
    rw [List.forall₂_map_right_iff]
    exact hn.imp fun _ c hc => ⟨c, hc, rfl⟩
  · intro h
    induction h with
    | nil => exact ⟨[], .nil, rfl⟩
    | cons hab _ ih =>
      obtain ⟨c, hc, hg⟩ := hab
      obtain ⟨n, hn, hm⟩ := ih
      exact ⟨c :: n, .cons hc hn, by rw [List.map_cons, hg, hm]⟩

end LoweringAudit.Paired
