/-!
The lines of a text. A line end closes a line, and only the last line can go without one. Main
statements: texts are put together line by line when the lines of the first are all closed, and a
text made of closed lines is cut into them again.
-/
namespace LoweringAudit.Text

/-- Puts a character in front of the first line. -/
def prepend (c : Char) : List (List Char) → List (List Char)
  | [] => [[c]]
  | line :: others => (c :: line) :: others

def lines : List Char → List (List Char)
  | [] => []
  | c :: rest => if c = '\n' then [] :: lines rest else prepend c (lines rest)

/-- Every line of the text is closed. -/
def Closed (s : List Char) : Prop :=
  ∀ c ∈ s.getLast?, c = '\n'

instance (s : List Char) : Decidable (Closed s) :=
  decidable_of_iff (s.getLast?.all (· == '\n') = true) (by simp [Closed, Option.all_eq_true])

@[simp] theorem lines_nil : lines [] = [] := rfl

@[simp] theorem lines_newline (s : List Char) : lines ('\n' :: s) = [] :: lines s := rfl

theorem lines_cons_of_ne {c : Char} (h : c ≠ '\n') (s : List Char) :
    lines (c :: s) = prepend c (lines s) := by
  rw [lines, if_neg h]

theorem prepend_append (c : Char) {ls : List (List Char)} (h : ls ≠ []) (ms : List (List Char)) :
    prepend c (ls ++ ms) = prepend c ls ++ ms := by
  obtain ⟨line, others, rfl⟩ := List.exists_cons_of_ne_nil h
  rfl

theorem lines_ne_nil {s : List Char} (h : s ≠ []) : lines s ≠ [] := by
  obtain ⟨c, rest, rfl⟩ := List.exists_cons_of_ne_nil h
  unfold lines
  split
  · simp
  · cases lines rest <;> simp [prepend]

theorem lines_append {s : List Char} (h : Closed s) (t : List Char) :
    lines (s ++ t) = lines s ++ lines t := by
  induction s with
  | nil => rfl
  | cons c s ih =>
    cases s with
    | nil =>
      obtain rfl : c = '\n' := h c rfl
      simp
    | cons d s =>
      have hrest : Closed (d :: s) := fun x hx => h x (by rwa [List.getLast?_cons_cons])
      by_cases hc : c = '\n'
      · subst hc
        rw [List.cons_append, lines_newline, lines_newline, ih hrest, List.cons_append]
      · have hne : lines (d :: s) ≠ [] := lines_ne_nil (List.cons_ne_nil d s)
        rw [List.cons_append, lines_cons_of_ne hc, lines_cons_of_ne hc, ih hrest,
          prepend_append c hne]

/-- Cutting a text at its line ends gives its lines, and nothing more than an empty piece after the
last line end. -/
theorem splitOn_eq_lines (s : List Char) :
    s.splitOn '\n' = lines s ∨ s.splitOn '\n' = lines s ++ [[]] := by
  induction s with
  | nil => exact .inr rfl
  | cons c s ih =>
    rw [List.splitOn_cons_eq_if_modifyHead]
    by_cases hc : c = '\n'
    · subst hc
      rcases ih with h | h
      · exact .inl (by simp [h])
      · exact .inr (by simp [h])
    · rw [lines_cons_of_ne hc]
      simp only [beq_iff_eq, hc, ↓reduceIte]
      rcases ih with h | h
      · left
        rw [h]
        cases hlines : lines s with
        | nil => exact absurd (h.trans hlines) (List.splitOn_ne_nil '\n' s)
        | cons line others => rfl
      · rw [h]
        -- The empty piece is the line of `c` when there is no other line.
        cases lines s with
        | nil => exact .inl rfl
        | cons line others => exact .inr rfl

/-- A text of closed lines is cut into these lines, with nothing after the last line end. -/
theorem splitOn_closed {ls : List (List Char)} (h : ∀ line ∈ ls, '\n' ∉ line) :
    (ls.flatMap (· ++ ['\n'])).splitOn '\n' = ls ++ [[]] := by
  induction ls with
  | nil => rfl
  | cons line ls ih =>
    have hline : '\n' ∉ line := h line List.mem_cons_self
    have hrest := ih fun l hl => h l (List.mem_cons_of_mem line hl)
    rw [List.flatMap_cons, List.append_assoc, List.singleton_append,
      List.splitOn_append_cons_self_of_not_mem hline, hrest, List.cons_append]

theorem count_closed {ls : List (List Char)} (h : ∀ line ∈ ls, '\n' ∉ line) :
    (ls.flatMap (· ++ ['\n'])).count '\n' = ls.length := by
  induction ls with
  | nil => rfl
  | cons line ls ih =>
    have hline : line.count '\n' = 0 := List.count_eq_zero.2 (h line List.mem_cons_self)
    have hrest := ih fun l hl => h l (List.mem_cons_of_mem line hl)
    rw [List.flatMap_cons, List.count_append, List.count_append, hline, hrest, List.length_cons]
    simp
    omega

end LoweringAudit.Text
