import LoweringAudit.Text.Blank
import Mathlib.Data.List.DropRight
/-!
Trimmed pieces of a text. A text is cut at a separator and its pieces are trimmed, so the separator
is in none of them, nothing in them is new, and no blank stands at their ends. What is left when one
character is dropped from the end is told by what stood there.
-/
namespace LoweringAudit.Text

variable {sep c : Char} {piece s t : List Char}

/-- A text without its last characters, as far as they are `c`. -/
theorem eq_rdropWhile_iff :
    s = t.rdropWhile (· == c) ↔ (∃ n, t = s ++ List.replicate n c) ∧ s.getLast? ≠ some c := by
  constructor
  · rintro rfl
    refine ⟨⟨(t.rtakeWhile (· == c)).length, ?_⟩, ?_⟩
    · have hend : t.rtakeWhile (· == c) = List.replicate (t.rtakeWhile (· == c)).length c :=
        List.eq_replicate_of_mem fun x hx => by simpa using List.mem_rtakeWhile_imp hx
      rw [← hend, List.rdropWhile_append_rtakeWhile]
    · intro hlast
      have hne : t.rdropWhile (· == c) ≠ [] := by
        intro he
        rw [he] at hlast
        cases hlast
      rw [List.getLast?_eq_some_getLast hne, Option.some.injEq] at hlast
      exact List.rdropWhile_last_not _ _ hne (by simp [hlast])
  · rintro ⟨⟨n, rfl⟩, hlast⟩
    rw [List.rdropWhile, List.reverse_append, List.dropWhile_append_of_pos (by simp)]
    cases hs : s.reverse with
    | nil => simpa using hs
    | cons x r =>
      have hx : s.getLast? = some x := by rw [← List.head?_reverse, hs]; rfl
      have hne : x ≠ c := fun he => hlast (he ▸ hx)
      rw [List.dropWhile_cons_of_neg (by simpa using hne), ← hs, List.reverse_reverse]

/-- A run of characters ends where the first other one stands. -/
theorem span_append {p : Char → Bool} (h : ∀ c ∈ s, p c = true)
    (hrest : ∀ c ∈ t.head?, p c = false) :
    (s ++ t).takeWhile p = s ∧ (s ++ t).dropWhile p = t := by
  rw [List.takeWhile_append_of_pos h, List.dropWhile_append_of_pos h]
  cases t with
  | nil => simp
  | cons c t => simp [hrest c rfl]

theorem takeWhile_eq_nil {p : Char → Bool} (h : ∀ c ∈ t.head?, p c = false) :
    t.takeWhile p = [] :=
  (span_append (s := []) (by simp) h).1

theorem rtakeWhile_eq_nil {p : Char → Bool} (h : ∀ c ∈ s.getLast?, p c = false) :
    s.rtakeWhile p = [] := by
  rw [List.rtakeWhile_eq_nil_iff]
  intro hne
  simp [h _ (List.getLast?_eq_some_getLast hne)]

theorem splitOn_append (h : sep ∉ s) (t : List Char) :
    (s ++ t).splitOn sep = (t.splitOn sep).modifyHead (s ++ ·) := by
  induction s with
  | nil =>
    obtain ⟨p, ps, hp⟩ := List.exists_cons_of_ne_nil (List.splitOn_ne_nil sep t)
    simp [hp]
  | cons x s ih =>
    have hx : x ≠ sep := by intro he; exact h (by simp [he])
    have hs : sep ∉ s := fun hm => h (List.mem_cons_of_mem x hm)
    obtain ⟨p, ps, hp⟩ := List.exists_cons_of_ne_nil (List.splitOn_ne_nil sep t)
    rw [List.cons_append, List.splitOn_cons_eq_if_modifyHead, ih hs]
    simp [hx, hp]

/-- The first piece is what stands before the first separator. -/
theorem exists_splitOn_eq (sep : Char) (t : List Char) :
    ∃ others, t.splitOn sep = t.takeWhile (· != sep) :: others := by
  induction t with
  | nil => exact ⟨[], rfl⟩
  | cons x t ih =>
    obtain ⟨others, ht⟩ := ih
    rw [List.splitOn_cons_eq_if_modifyHead, ht]
    by_cases hx : x = sep
    · exact ⟨t.takeWhile (· != sep) :: others, by simp [hx]⟩
    · exact ⟨others, by simp [hx]⟩

theorem length_splitOn (sep : Char) (s : List Char) :
    (s.splitOn sep).length = s.count sep + 1 := by
  induction s with
  | nil => rfl
  | cons x s ih =>
    rw [List.splitOn_cons_eq_if_modifyHead, List.count_cons]
    by_cases hx : x = sep
    · simp [hx, ih]
    · simp [hx, ih]

/-- What is put in at a place of a text becomes part of the piece that is open there, and the pieces
before and after are the same whatever it is. -/
theorem exists_splitOn_middle (sep : Char) (s t : List Char) :
    ∃ before after, before.length = s.count sep ∧ ∀ middle, sep ∉ middle →
      (s ++ middle ++ t).splitOn sep = before ++
        (s.rtakeWhile (· != sep) ++ middle ++ t.takeWhile (· != sep)) :: after := by
  -- The induction takes the last character of `s` to the middle, as long as it is no separator.
  induction s using List.reverseRecOn with
  | nil =>
    obtain ⟨after, ht⟩ := exists_splitOn_eq sep t
    refine ⟨[], after, rfl, fun middle hmiddle => ?_⟩
    rw [List.nil_append, splitOn_append hmiddle, ht]
    rfl
  | append_singleton s x ih =>
    by_cases hx : x = sep
    · subst hx
      obtain ⟨after, ht⟩ := exists_splitOn_eq x t
      refine ⟨s.splitOn x, after, by simp [length_splitOn], fun middle hmiddle => ?_⟩
      rw [List.append_assoc, List.append_assoc, List.singleton_append,
        List.splitOn_append_cons_self, splitOn_append hmiddle, ht, List.rtakeWhile_concat]
      simp
    · obtain ⟨before, after, hcount, hsplit⟩ := ih
      refine ⟨before, after, by simp [hcount, hx], fun middle hmiddle => ?_⟩
      have hmore : sep ∉ x :: middle := by simp [hmiddle, Ne.symm hx]
      rw [List.append_assoc s, List.singleton_append, hsplit _ hmore,
        List.rtakeWhile_concat_pos _ _ _ (by simpa using hx)]
      simp

/-- A piece holds no separator, and no character that the text does not hold. -/
theorem mem_piece (h : piece ∈ s.splitOn sep) : sep ∉ piece ∧ ∀ c ∈ piece, c ∈ s := by
  induction s generalizing piece with
  | nil => simp_all
  | cons x s ih =>
    rw [List.splitOn_cons_eq_if_modifyHead] at h
    obtain ⟨p, ps, hp⟩ := List.exists_cons_of_ne_nil (List.splitOn_ne_nil sep s)
    by_cases hx : x = sep
    · simp only [hx, beq_self_eq_true, ↓reduceIte, List.mem_cons] at h
      rcases h with rfl | h
      · simp
      · have hq := ih h
        exact ⟨hq.1, fun c hc => List.mem_cons_of_mem x (hq.2 c hc)⟩
    · simp only [beq_iff_eq, hx, ↓reduceIte, hp, List.modifyHead_cons, List.mem_cons] at h
      rcases h with rfl | h
      · have hq := @ih p (by simp [hp])
        refine ⟨by simp [hq.1, Ne.symm hx], fun c hc => ?_⟩
        rcases List.mem_cons.1 hc with rfl | hc
        · exact List.mem_cons_self
        · exact List.mem_cons_of_mem x (hq.2 c hc)
      · have hq := @ih piece (by simp [hp, h])
        exact ⟨hq.1, fun c hc => List.mem_cons_of_mem x (hq.2 c hc)⟩

theorem trim_sublist (s : List Char) : (trim s).Sublist s := by
  have hend : trim s <+: trimStart s := trimEnd_prefix (trimStart s)
  have hstart : trimStart s <:+ s := List.dropWhile_suffix isBlank
  exact hend.sublist.trans hstart.sublist

theorem mem_of_mem_trim (h : c ∈ trim s) : c ∈ s :=
  (trim_sublist s).subset h

theorem trim_of_blank (h : ∀ c ∈ s, isBlank c = true) : trim s = [] := by
  have hstart : trimStart s = [] := List.dropWhile_eq_nil_iff.2 h
  rw [trim, hstart, trimEnd_nil]

theorem trim_blank_append (h : ∀ c ∈ s, isBlank c = true) (t : List Char) :
    trim (s ++ t) = trim t := by
  rw [trim, trimStart, List.dropWhile_append_of_pos h]
  rfl

theorem trimEnd_append_blank (h : ∀ c ∈ t, isBlank c = true) (s : List Char) :
    trimEnd (s ++ t) = trimEnd s := by
  rw [trimEnd, List.reverse_append, List.dropWhile_append_of_pos (by simpa using h)]
  rfl

theorem trim_append_blank (h : ∀ c ∈ t, isBlank c = true) (s : List Char) :
    trim (s ++ t) = trim s := by
  rw [trim, trim, trimStart, List.dropWhile_append]
  split
  · next hs =>
    rw [trimStart, List.isEmpty_iff.1 hs, List.dropWhile_eq_nil_iff.2 h]
  · exact trimEnd_append_blank h _

/-- A text is its trimmed self between blanks. -/
theorem exists_trim (s : List Char) : ∃ front back, s = front ++ trim s ++ back ∧
    (∀ c ∈ front, isBlank c = true) ∧ ∀ c ∈ back, isBlank c = true := by
  refine ⟨s.takeWhile isBlank, (trimStart s).rtakeWhile isBlank, ?_, ?_, ?_⟩
  · have hend : trimEnd (trimStart s) = (trimStart s).rdropWhile isBlank := rfl
    rw [trim, hend, List.append_assoc, List.rdropWhile_append_rtakeWhile]
    exact List.takeWhile_append_dropWhile.symm
  · intro c hc
    exact List.all_eq_true.1 List.all_takeWhile c hc
  · intro c hc
    exact List.mem_rtakeWhile_imp hc

/-- Trimming at the end stops at a character that is not blank. -/
theorem trimEnd_append_cons (h : isBlank c = false) (s t : List Char) :
    trimEnd (s ++ c :: t) = s ++ c :: trimEnd t := by
  simp only [trimEnd, List.reverse_append, List.reverse_cons, List.append_assoc,
    List.singleton_append]
  rw [List.dropWhile_append]
  split
  · next he => simp [List.isEmpty_iff.1 he, h]
  · simp

/-- A text that begins with no blank keeps all up to its last separator. -/
theorem trim_append_cons (hs : s ≠ []) (hh : ∀ x ∈ s.head?, isBlank x = false)
    (h : isBlank c = false) (t : List Char) : trim (s ++ c :: t) = s ++ c :: trimEnd t := by
  obtain ⟨x, r, rfl⟩ := List.exists_cons_of_ne_nil hs
  have hstart : trimStart (x :: r ++ c :: t) = x :: r ++ c :: t :=
    trimStart_eq_self (by simpa using hh x rfl)
  rw [trim, hstart, trimEnd_append_cons h]

end LoweringAudit.Text
