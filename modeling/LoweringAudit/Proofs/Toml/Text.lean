import LoweringAudit.Toml.Text.Reader
/-!
TOML strings are read as they were written. A basic string escapes what it cannot hold, and over
lines also the third quote of a row, so that a row of three can only be the end; a literal string is
used for texts that need no escape. Main statement: reading undoes writing in whichever form a text
is written, as long as no quote comes right after it.
-/
namespace LoweringAudit.Toml.Text

open LoweringAudit.Text (digitValue? upperDigit)

variable {c q : Char} {s rest : List Char} {lines : Bool}

/-- No quote stands at the front, which could be taken for one more quote of a string before it. -/
def FreeOfQuote (rest : List Char) : Prop :=
  rest.head? ≠ some '"' ∧ rest.head? ≠ some '\''

theorem afterTriple?_of_first (h : s.head? ≠ some q) : afterTriple? q s = none := by
  rcases s with _ | ⟨a, _ | ⟨b, _ | ⟨c, s⟩⟩⟩ <;> simp_all [afterTriple?]

theorem afterTriple?_of_quote (h : ¬ [q, q] <+: s) : afterTriple? q (q :: s) = none := by
  rcases s with _ | ⟨a, _ | ⟨b, t⟩⟩
  · rfl
  · rfl
  · have hne : ¬ (a = q ∧ b = q) := by
      rintro ⟨rfl, rfl⟩
      exact h (List.prefix_append _ t)
    simpa [afterTriple?] using hne

/-- A quote, and what comes after it before a row of three: nothing, one more quote, or something
with which the quote begins no row of three. -/
theorem quote_cases (h : ¬ [q, q] <+: s) :
    s = [] ∨ s = [q] ∨ ∀ rest, afterTriple? q (q :: (s ++ rest)) = none := by
  match s with
  | [] => exact .inl rfl
  | [a] =>
    by_cases ha : a = q
    · exact .inr (.inl (by rw [ha]))
    · refine .inr (.inr fun rest => afterTriple?_of_quote ?_)
      simp [Ne.symm ha]
  | a :: b :: t =>
    refine .inr (.inr fun rest => afterTriple?_of_quote ?_)
    simpa using h

theorem closing_none (h : rest.head? ≠ some q) : closing q rest = ([], rest) := by
  rcases rest with _ | ⟨a, _ | ⟨b, rest⟩⟩ <;> simp_all [closing]

theorem closing_one (h : rest.head? ≠ some q) : closing q (q :: rest) = ([q], rest) := by
  rcases rest with _ | ⟨a, rest⟩ <;> simp_all [closing]

theorem closing_two (q : Char) (rest : List Char) :
    closing q (q :: q :: rest) = ([q, q], rest) := by
  simp [closing]

/-- A control character is read from its number in four digits. -/
theorem readBasic_number (h : isControl c = true) (rest : List Char) :
    readBasic lines (.between false)
        ('\\' :: 'u' :: '0' :: '0' :: upperDigit (c.toNat / 16) :: upperDigit (c.toNat % 16) ::
          rest) =
      before c (readBasic lines (.between false) rest) := by
  have hsmall : c.toNat < 0x80 := by
    simp only [isControl, Bool.or_eq_true, Bool.and_eq_true, decide_eq_true_eq, beq_iff_eq] at h
    omega
  have hhigh := LoweringAudit.Text.digitValue?_upperDigit (n := c.toNat / 16) (by omega)
  have hlow := LoweringAudit.Text.digitValue?_upperDigit (n := c.toNat % 16) (by omega)
  have hzero : digitValue? '0' = some 0 := by decide
  have hscalar : scalar? ((((0 * 16 + 0) * 16 + 0) * 16 + c.toNat / 16) * 16 + c.toNat % 16) =
      some c := by
    have hnat : (((0 * 16 + 0) * 16 + 0) * 16 + c.toNat / 16) * 16 + c.toNat % 16 = c.toNat := by
      omega
    have hvalid : c.toNat.isValidChar := c.valid
    rw [hnat, scalar?, if_pos hvalid, Char.ofNat_toNat]
  simp only [readBasic, hhigh, hlow, hzero, hscalar, shortEscape?, longEscape?]
  simp

/-- A character that a basic string holds by itself or by an escape. -/
theorem readBasic_escape (hquote : c ≠ '"') (hline : c ≠ '\n') (rest : List Char) :
    readBasic lines (.between false) (escape c ++ rest) =
      before c (readBasic lines (.between false) rest) := by
  unfold escape
  split
  · rfl
  · rfl
  · rfl
  · rfl
  · rfl
  · next hreturn hslash =>
    have hreturn : c ≠ '\r' := hreturn
    have hslash : c ≠ '\\' := hslash
    split
    · next hcontrol => exact readBasic_number hcontrol rest
    · next hcontrol =>
      have hplain : isPlain c = true := by simp [isPlain, hcontrol, hline]
      simp [readBasic, hquote, hslash, hline, hreturn, hplain]

theorem readBasic_escapeInLine (c : Char) (rest : List Char) :
    readBasic false (.between false) (escapeInLine c ++ rest) =
      before c (readBasic false (.between false) rest) := by
  unfold escapeInLine
  split
  · rfl
  · rfl
  · next hline hquote => exact readBasic_escape hquote hline rest

/-- A basic string on one line ends at its first bare quote. -/
theorem readBasic_flatMap (s rest : List Char) :
    readBasic false (.between false) (s.flatMap escapeInLine ++ '"' :: rest) = some (s, rest) := by
  induction s with
  | nil => simp [readBasic]
  | cons c s ih =>
    rw [List.flatMap_cons, List.append_assoc, readBasic_escapeInLine, ih, before_some]

theorem head?_escape (h : c ≠ '"') (rest : List Char) : (escape c ++ rest).head? ≠ some '"' := by
  unfold escape
  split
  · simp
  · simp
  · simp
  · simp
  · simp
  · split
    · simp
    · simpa using h

/-- After two bare quotes, or at another character, no bare quote is written. -/
theorem head?_escapeLines {run : Nat} (h : run = 2 ∨ s.head? ≠ some '"') :
    (escapeLines run s).head? ≠ some '"' := by
  match s with
  | [] => simp [escapeLines]
  | c :: s =>
    by_cases hc : c = '"'
    · have hrun : run = 2 := h.resolve_right (by simp [hc])
      simp [escapeLines, hc, hrun]
    · by_cases hline : c = '\n'
      · simp [escapeLines, hline]
      · simp only [escapeLines, hc, hline, ↓reduceIte]
        exact head?_escape hc _

/-- After a bare quote no two more are written. -/
theorem not_prefix_escapeLines (run : Nat) (hrun : 1 ≤ run ∧ run ≤ 2) (s : List Char) :
    ¬ ['"', '"'] <+: escapeLines run s := by
  intro h
  obtain ⟨t, ht⟩ := h
  have hhead : (escapeLines run s).head? = some '"' := by simp [← ht]
  by_cases hnext : run = 2 ∨ s.head? ≠ some '"'
  · exact head?_escapeLines hnext hhead
  · simp only [not_or, ne_eq, Decidable.not_not] at hnext
    obtain ⟨s, rfl⟩ : ∃ u, s = '"' :: u := by
      cases s <;> simp_all
    have hone : run = 1 := by omega
    have hsecond : escapeLines 2 s = '"' :: t := by
      simpa [escapeLines, hone] using ht.symm
    exact head?_escapeLines (.inl rfl) (by rw [hsecond]; rfl)

/-- A basic string over lines ends at its first row of three quotes. Up to two quotes right before
them are the string's own. -/
theorem readBasic_escapeLines (hrest : rest.head? ≠ some '"') (run : Nat) (hrun : run ≤ 2)
    (s : List Char) : readBasic true (.between false)
      (escapeLines run s ++ '"' :: '"' :: '"' :: rest) = some (s, rest) := by
  induction s generalizing run with
  | nil => rw [escapeLines, List.nil_append, readBasic_triple, closing_none hrest]
  | cons c s ih =>
    by_cases hc : c = '"'
    · subst hc
      by_cases htwo : run = 2
      · have hescaped : escapeLines run ('"' :: s) = '\\' :: '"' :: escapeLines 0 s := by
          simp [escapeLines, htwo]
        have hread := ih 0 (by omega)
        simp only [hescaped, List.cons_append]
        simp [readBasic, shortEscape?, hread]
      · have hbare : escapeLines run ('"' :: s) = '"' :: escapeLines (run + 1) s := by
          simp [escapeLines, htwo]
        have hread := ih (run + 1) (by omega)
        rw [hbare, List.cons_append]
        -- What follows decides whether this quote belongs to the three that end the string.
        rcases quote_cases (not_prefix_escapeLines (run + 1) (by omega) s) with
          hnil | hone | hwithin
        · rw [hnil, List.nil_append, readBasic_triple, closing_none hrest] at hread
          cases hread
          rw [hnil, List.nil_append, readBasic_triple, closing_one hrest]
        · rw [hone, List.singleton_append, readBasic_triple, closing_one hrest] at hread
          cases hread
          rw [hone, List.singleton_append, readBasic_triple, closing_two]
        · rw [readBasic_quote (hwithin _), hread, before_some]
    · have hread := ih 0 (by omega)
      by_cases hline : c = '\n'
      · simp [escapeLines, hline, readBasic, hread]
      · simp only [escapeLines, hc, hline, ↓reduceIte, List.append_assoc]
        rw [readBasic_escape hc hline, hread, before_some]

/-- A literal string on one line ends at its first quote. -/
theorem readLiteral_line (hquote : '\'' ∉ s) (hplain : ∀ c ∈ s, isPlain c = true)
    (rest : List Char) : readLiteral false (s ++ '\'' :: rest) = some (s, rest) := by
  induction s with
  | nil => simp [readLiteral]
  | cons c s ih =>
    simp only [List.mem_cons, not_or, forall_eq_or_imp] at hquote hplain
    have hc : c ≠ '\'' := Ne.symm hquote.1
    rw [List.cons_append, readLiteral, if_neg hc, if_neg (by simp), if_neg (by simp),
      if_pos hplain.1, ih hquote.2 hplain.2, before_some]

/-- A literal string over lines ends at its first row of three quotes, and again up to two quotes
right before them are its own. -/
theorem readLiteral_lines (hrest : rest.head? ≠ some '\'') (hcontrol : ∀ c ∈ s, isControl c = false)
    (htriple : ¬ ['\'', '\'', '\''] <:+: s) :
    readLiteral true (s ++ '\'' :: '\'' :: '\'' :: rest) = some (s, rest) := by
  induction s with
  | nil => rw [List.nil_append, readLiteral_triple, closing_none hrest]
  | cons c s ih =>
    simp only [List.mem_cons, forall_eq_or_imp] at hcontrol
    have hread := ih hcontrol.2 fun h => htriple (h.trans (List.suffix_cons c s).isInfix)
    rw [List.cons_append]
    by_cases hc : c = '\''
    · subst hc
      have hpair : ¬ ['\'', '\''] <+: s := by
        rintro ⟨t, rfl⟩
        exact htriple (List.prefix_append _ t).isInfix
      rcases quote_cases hpair with rfl | rfl | hwithin
      · rw [List.nil_append, readLiteral_triple, closing_one hrest]
      · rw [List.singleton_append, readLiteral_triple, closing_two]
      · rw [readLiteral_quote (hwithin _), hread, before_some]
    · have hreturn : c ≠ '\r' := by
        rintro rfl
        exact absurd hcontrol.1 (by decide)
      by_cases hline : c = '\n'
      · simp [readLiteral, hline, hread]
      · have hplain : isPlain c = true := by simp [isPlain, hcontrol.1, hline]
        simp [readLiteral, hc, hline, hreturn, hplain, hread]

theorem dropOpening_eq_self (hline : s.head? ≠ some '\n') (hreturn : s.head? ≠ some '\r') :
    dropOpening s = s := by
  unfold dropOpening
  split
  · simp at hline
  · simp at hreturn
  · rfl

/-- A line feed that opens a string over lines is no part of it, and is written wherever the string
would lose its own first one. -/
theorem dropOpening_opening {written : List Char} (h : '\n' ∉ s →
    written.head? ≠ some '\n' ∧ written.head? ≠ some '\r') :
    dropOpening (opening s ++ written) = written := by
  by_cases hline : '\n' ∈ s
  · simp [opening, hline, dropOpening]
  · have hhead := h hline
    simp [opening, hline, dropOpening_eq_self hhead.1 hhead.2]

theorem head?_escapeLines_line (h : '\n' ∉ s) (rest : List Char) :
    (escapeLines 0 s ++ '"' :: rest).head? ≠ some '\n' ∧
      (escapeLines 0 s ++ '"' :: rest).head? ≠ some '\r' := by
  match s with
  | [] => simp [escapeLines]
  | c :: s =>
    have hline : c ≠ '\n' := by
      rintro rfl
      simp at h
    by_cases hc : c = '"'
    · simp [escapeLines, hc]
    · simp only [escapeLines, hc, hline, ↓reduceIte, List.append_assoc]
      unfold escape
      split
      · simp
      · simp
      · simp
      · simp
      · simp
      · next hreturn _ =>
        split
        · simp
        · simpa using ⟨hline, hreturn⟩

theorem head?_escapeInLine (c : Char) (rest : List Char) :
    (escapeInLine c ++ rest).head? ≠ some '"' := by
  unfold escapeInLine
  split
  · simp
  · simp
  · next hquote => exact head?_escape hquote rest

/-- A basic string on one line is read from any text. -/
theorem read_basic (hrest : FreeOfQuote rest) (s : List Char) :
    read (Form.basic.write s ++ rest) = some (s, rest) := by
  have hwrite : Form.basic.write s ++ rest = '"' :: (s.flatMap escapeInLine ++ '"' :: rest) := by
    simp [Form.write]
  have hpair : ¬ ['"', '"'] <+: s.flatMap escapeInLine ++ '"' :: rest := by
    rintro ⟨t, ht⟩
    match s with
    | [] =>
      have hhead : rest = '"' :: t := by simpa using ht.symm
      exact hrest.1 (by simp [hhead])
    | c :: s =>
      rw [List.flatMap_cons, List.append_assoc] at ht
      exact head?_escapeInLine c _ (by rw [← ht]; rfl)
  have hliteral : afterTriple? '\'' ('"' :: (s.flatMap escapeInLine ++ '"' :: rest)) = none :=
    afterTriple?_of_first (by simp)
  rw [hwrite, read, afterTriple?_of_quote hpair, hliteral]
  exact readBasic_flatMap s rest

/-- A basic string over lines is read from any text too. -/
theorem read_basicLines (hrest : FreeOfQuote rest) (s : List Char) :
    read (Form.basicLines.write s ++ rest) = some (s, rest) := by
  have hwrite : Form.basicLines.write s ++ rest = '"' :: '"' :: '"' :: (opening s ++
      (escapeLines 0 s ++ '"' :: '"' :: '"' :: rest)) := by
    simp [Form.write]
  have hopen : dropOpening (opening s ++ (escapeLines 0 s ++ '"' :: '"' :: '"' :: rest)) =
      escapeLines 0 s ++ '"' :: '"' :: '"' :: rest :=
    dropOpening_opening fun hline => head?_escapeLines_line hline _
  simp only [hwrite, read, afterTriple?_triple, hopen]
  exact readBasic_escapeLines hrest.1 0 (by omega) s

/-- A literal string on one line is read from a text that has no quote of its kind. -/
theorem read_literal (hrest : FreeOfQuote rest) (hquote : '\'' ∉ s)
    (hplain : ∀ c ∈ s, isPlain c = true) :
    read (Form.literal.write s ++ rest) = some (s, rest) := by
  have hwrite : Form.literal.write s ++ rest = '\'' :: (s ++ '\'' :: rest) := by
    simp [Form.write]
  have hpair : ¬ ['\'', '\''] <+: s ++ '\'' :: rest := by
    rintro ⟨t, ht⟩
    match s with
    | [] =>
      have hhead : rest = '\'' :: t := by simpa using ht.symm
      exact hrest.2 (by simp [hhead])
    | c :: s =>
      have hc : '\'' = c := by simpa using congrArg List.head? ht
      exact hquote (hc ▸ List.mem_cons_self)
  have hbasic : afterTriple? '"' ('\'' :: (s ++ '\'' :: rest)) = none :=
    afterTriple?_of_first (by simp)
  rw [hwrite, read, hbasic, afterTriple?_of_quote hpair]
  exact readLiteral_line hquote hplain rest

/-- A literal string over lines is read from a text with no three such quotes in a row. -/
theorem read_literalLines (hrest : FreeOfQuote rest) (hcontrol : ∀ c ∈ s, isControl c = false)
    (htriple : ¬ ['\'', '\'', '\''] <:+: s) :
    read (Form.literalLines.write s ++ rest) = some (s, rest) := by
  have hwrite : Form.literalLines.write s ++ rest = '\'' :: '\'' :: '\'' :: (opening s ++
      (s ++ '\'' :: '\'' :: '\'' :: rest)) := by
    simp [Form.write]
  have hbasic : afterTriple? '"' ('\'' :: '\'' :: '\'' :: (opening s ++
      (s ++ '\'' :: '\'' :: '\'' :: rest))) = none :=
    afterTriple?_of_first (by simp)
  have hopen : dropOpening (opening s ++ (s ++ '\'' :: '\'' :: '\'' :: rest)) =
      s ++ '\'' :: '\'' :: '\'' :: rest := by
    apply dropOpening_opening
    intro hline
    match s with
    | [] => simp
    | c :: s =>
      have hreturn : c ≠ '\r' := by
        rintro rfl
        exact absurd (hcontrol _ List.mem_cons_self) (by decide)
      have hc : c ≠ '\n' := by
        rintro rfl
        simp at hline
      simpa using ⟨hc, hreturn⟩
  simp only [hwrite, read, hbasic, afterTriple?_triple, hopen]
  exact readLiteral_lines hrest.2 hcontrol htriple

/-- A text is read as it was written, in whichever form that was. -/
theorem read_write (hrest : FreeOfQuote rest) (s : List Char) :
    read (write s ++ rest) = some (s, rest) := by
  unfold write Form.ofText
  simp only
  split
  · exact read_basic hrest s
  split
  · next h =>
    simp only [Bool.and_eq_true, Bool.not_eq_true', List.any_eq_false, List.contains_eq_mem,
      decide_eq_false_iff_not] at h
    obtain ⟨⟨hcontrol, hline⟩, hquote⟩ := h
    refine read_literal hrest hquote fun c hc => ?_
    have hne : c ≠ '\n' := by
      rintro rfl
      exact hline hc
    simp [isPlain, hcontrol c hc, hne]
  split
  · exact read_basicLines hrest s
  split
  · next h =>
    simp only [Bool.and_eq_true, Bool.not_eq_true', List.any_eq_false] at h
    obtain ⟨hcontrol, htriple⟩ := h
    refine read_literalLines hrest (fun c hc => by simpa using hcontrol c hc) fun hinfix => ?_
    rw [hasTriple, LoweringAudit.Text.contains_eq_true_iff.2 hinfix] at htriple
    cases htriple
  split
  · exact read_basicLines hrest s
  · exact read_basic hrest s

/-- Two quotes at the end, before the three that close, are the text's own. -/
example : read (write "a\n\"\"".toList) = some ("a\n\"\"".toList, []) := by decide

end LoweringAudit.Toml.Text
