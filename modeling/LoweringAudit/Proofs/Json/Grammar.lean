import LoweringAudit.Json.Reader
import LoweringAudit.Proofs.Json.Literal
import LoweringAudit.Proofs.Text.Pieces
/-!
The grammar of JSON, and that the reader takes every text of it. A text spells a value: blanks may
stand around values and names, a literal may use any escapes, and a number keeps the digits that it
is written with. Main statement: a text that spells a value is read as that value.
-/
namespace LoweringAudit.Json

variable {α : Type} {c close : Char} {s t rest : List Char} {j : Json} {depth : Nat}

def Blanks (s : List Char) : Prop :=
  ∀ c ∈ s, isBlank c = true

structure Digits (s : List Char) : Prop where
  ne_nil : s ≠ []
  isDigit : ∀ c ∈ s, c.isDigit = true

inductive Whole : List Char → Prop where
  | zero : Whole ['0']
  | digits {s : List Char} (h : Digits s) (first : s.head? ≠ some '0') : Whole s

inductive Fraction : List Char → Prop where
  | none : Fraction []
  | digits {s : List Char} (h : Digits s) : Fraction ('.' :: s)

inductive Exponent : List Char → Prop where
  | none : Exponent []
  | digits {c : Char} {g s : List Char} (mark : c = 'e' ∨ c = 'E')
      (sign : g = [] ∨ g = ['+'] ∨ g = ['-']) (h : Digits s) : Exponent (c :: (g ++ s))

inductive Magnitude : List Char → Prop where
  | mk {w f e : List Char} (whole : Whole w) (fraction : Fraction f) (exponent : Exponent e) :
      Magnitude (w ++ f ++ e)

inductive Number : List Char → Prop where
  | positive {s : List Char} (h : Magnitude s) : Number s
  | negative {s : List Char} (h : Magnitude s) : Number ('-' :: s)

/-- The name of a member in its quotes, with blanks around it. -/
inductive SpellsName : List Char → Option String → Prop where
  | mk {f s b : List Char} {us : List Nat} (front : Blanks f) (h : Literal.Spells s us)
      (back : Blanks b) :
      SpellsName (f ++ '"' :: (s ++ '"' :: b)) ((Literal.assemble us).map String.ofList)

/-- A member of an object, with the texts of its name and its value. -/
structure Member where
  nameText : List Char
  name : Option String
  valueText : List Char
  value : Json

def Member.text (m : Member) : List Char :=
  m.nameText ++ ':' :: m.valueText

def Member.content (m : Member) : Option String × Json :=
  (m.name, m.value)

/-- The text is one of the texts of the value. -/
inductive Spells : List Char → Json → Prop where
  | null : Spells "null".toList null
  | true : Spells "true".toList (bool true)
  | false : Spells "false".toList (bool false)
  | number {s : List Char} (h : Number s) : Spells s (number (String.ofList s))
  | string {s : List Char} {us : List Nat} (h : Literal.Spells s us) :
      Spells ('"' :: (s ++ ['"'])) (string ((Literal.assemble us).map String.ofList))
  | noItems {s : List Char} (h : Blanks s) : Spells ('[' :: (s ++ [']'])) (array [])
  | array {items : List (List Char × Json)} (ne_nil : items ≠ [])
      (h : ∀ i ∈ items, Spells i.1 i.2) :
      Spells ('[' :: ([','].intercalate (items.map Prod.fst) ++ [']']))
        (array (items.map Prod.snd))
  | noMembers {s : List Char} (h : Blanks s) : Spells ('{' :: (s ++ ['}'])) (object [])
  | object {members : List Member} (ne_nil : members ≠ [])
      (names : ∀ m ∈ members, SpellsName m.nameText m.name)
      (values : ∀ m ∈ members, Spells m.valueText m.value) :
      Spells ('{' :: ([','].intercalate (members.map Member.text) ++ ['}']))
        (object (members.map Member.content))
  | padded {f s b : List Char} {j : Json} (front : Blanks f) (h : Spells s j) (back : Blanks b) :
      Spells (f ++ s ++ b) j

/-- What comes after a number is no part of it. -/
def Ends (rest : List Char) : Prop :=
  ∀ c ∈ rest.head?, c.isDigit = false ∧ c ≠ '.' ∧ c ≠ 'e' ∧ c ≠ 'E'

/-- The reader takes the text as `a`, with or without the blanks at its end. -/
def Reads (item : List Char → Option (α × List Char)) (s : List Char) (a : α) : Prop :=
  ∀ rest, Ends rest → ∃ r, item (s ++ rest) = some (a, r) ∧ skipBlanks r = skipBlanks rest

theorem skipBlanks_append (h : Blanks s) (rest : List Char) :
    skipBlanks (s ++ rest) = skipBlanks rest :=
  List.dropWhile_append_of_pos h

theorem skipBlanks_cons (h : isBlank c = false) (rest : List Char) :
    skipBlanks (c :: rest) = c :: rest :=
  List.dropWhile_cons_of_neg (by simp [h])

theorem skipBlanks_closing (h : close = ']' ∨ close = '}') (rest : List Char) :
    skipBlanks (close :: rest) = close :: rest :=
  skipBlanks_cons (by rcases h with rfl | rfl <;> decide) rest

theorem isDigit_of_isBlank (h : isBlank c = true) :
    c.isDigit = false ∧ c ≠ '.' ∧ c ≠ 'e' ∧ c ≠ 'E' := by
  simp only [isBlank, Bool.or_eq_true, beq_iff_eq] at h
  rcases h with ((rfl | rfl) | rfl) | rfl <;> decide

theorem Ends.blanks (hs : Blanks s) (h : Ends rest) : Ends (s ++ rest) := by
  cases s with
  | nil => exact h
  | cons b s =>
    intro c hc
    cases hc
    exact isDigit_of_isBlank (hs b List.mem_cons_self)

/-! Numbers. -/

theorem digits?_append (h : Digits s) (hrest : ∀ c ∈ rest.head?, c.isDigit = false) :
    digits? (s ++ rest) = some (s, rest) := by
  obtain ⟨htake, hdrop⟩ := LoweringAudit.Text.span_append h.isDigit hrest
  rw [digits?, htake, hdrop]
  cases s with
  | nil => exact absurd rfl h.ne_nil
  | cons c s => rfl

theorem Digits.exists_cons (h : Digits s) : ∃ c t, s = c :: t ∧ c.isDigit = true := by
  cases s with
  | nil => exact absurd rfl h.ne_nil
  | cons c t => exact ⟨c, t, rfl, h.isDigit c List.mem_cons_self⟩

theorem whole?_append (h : Whole s) (hrest : ∀ c ∈ rest.head?, c.isDigit = false) :
    whole? (s ++ rest) = some (s, rest) := by
  cases h with
  | zero =>
    cases rest with
    | nil => rfl
    | cons c rest => simp [whole?, hrest c rfl]
  | digits h first =>
    have hread := digits?_append h hrest
    obtain ⟨c, t, rfl, -⟩ := h.exists_cons
    have hc : c ≠ '0' := by simpa using first
    simpa [whole?, hc] using hread

theorem fraction?_append (h : Fraction s)
    (hrest : ∀ c ∈ rest.head?, c.isDigit = false ∧ c ≠ '.') :
    fraction? (s ++ rest) = some (s, rest) := by
  cases h with
  | none =>
    cases rest with
    | nil => rfl
    | cons c rest => simp [fraction?, (hrest c rfl).2]
  | digits h => simp [fraction?, digits?_append h fun c hc => (hrest c hc).1]

theorem sign_append {g : List Char} (hg : g = [] ∨ g = ['+'] ∨ g = ['-']) (hs : Digits s) :
    sign (g ++ s ++ rest) = (g, s ++ rest) := by
  rcases hg with rfl | rfl | rfl
  · obtain ⟨c, t, rfl, hc⟩ := hs.exists_cons
    have hplus : c ≠ '+' := by
      rintro rfl
      cases hc
    have hminus : c ≠ '-' := by
      rintro rfl
      cases hc
    simp [sign, hplus, hminus]
  · rfl
  · rfl

theorem exponent?_append (h : Exponent s) (hrest : Ends rest) :
    exponent? (s ++ rest) = some (s, rest) := by
  cases h with
  | none =>
    cases rest with
    | nil => rfl
    | cons c rest => simp [exponent?, (hrest c rfl).2.2]
  | digits mark hsign h =>
    have hread := digits?_append h fun c hc => (hrest c hc).1
    rw [List.cons_append, exponent?, if_pos mark, sign_append hsign h, hread]
    rfl

theorem Exponent.follows (h : Exponent s) (hrest : Ends rest) :
    ∀ c ∈ (s ++ rest).head?, c.isDigit = false ∧ c ≠ '.' := by
  cases h with
  | none => exact fun c hc => ⟨(hrest c hc).1, (hrest c hc).2.1⟩
  | digits mark _ _ =>
    intro c hc
    cases hc
    rcases mark with rfl | rfl <;> decide

theorem Fraction.follows (h : Fraction s)
    (hrest : ∀ c ∈ rest.head?, c.isDigit = false ∧ c ≠ '.') :
    ∀ c ∈ (s ++ rest).head?, c.isDigit = false := by
  cases h with
  | none => exact fun c hc => (hrest c hc).1
  | digits _ =>
    intro c hc
    cases hc
    rfl

theorem magnitude?_append (h : Magnitude s) (hrest : Ends rest) :
    magnitude? (s ++ rest) = some (s, rest) := by
  cases h with
  | mk whole fraction exponent =>
    have hexponent := exponent.follows hrest
    rw [List.append_assoc, List.append_assoc, magnitude?,
      whole?_append whole (fraction.follows hexponent)]
    simp [fraction?_append fraction hexponent, exponent?_append exponent hrest]

theorem Magnitude.exists_cons (h : Magnitude s) : ∃ c t, s = c :: t ∧ c.isDigit = true := by
  cases h with
  | @mk w f e whole _ _ =>
    cases whole with
    | zero => exact ⟨'0', f ++ e, rfl, rfl⟩
    | digits h _ =>
      obtain ⟨c, t, rfl, hc⟩ := h.exists_cons
      exact ⟨c, t ++ f ++ e, rfl, hc⟩

theorem Number.exists_cons (h : Number s) : ∃ c t, s = c :: t ∧ (c = '-' ∨ c.isDigit = true) := by
  cases h with
  | positive h =>
    obtain ⟨c, t, rfl, hc⟩ := h.exists_cons
    exact ⟨c, t, rfl, .inr hc⟩
  | negative h => exact ⟨'-', _, rfl, .inl rfl⟩

theorem number?_append (h : Number s) (hrest : Ends rest) :
    number? (s ++ rest) = some (number (String.ofList s), rest) := by
  cases h with
  | positive h =>
    have hread := magnitude?_append h hrest
    obtain ⟨c, t, rfl, hc⟩ := h.exists_cons
    have hminus : c ≠ '-' := by
      rintro rfl
      cases hc
    rw [List.cons_append] at hread ⊢
    simp [number?, hminus, hread]
  | negative h => simp [number?, magnitude?_append h hrest]

/-! Lists with commas. -/

theorem length_le_intercalate (ss : List (List Char)) :
    ss.length ≤ ([','].intercalate ss).length + 1 := by
  induction ss with
  | nil => simp
  | cons s ss ih =>
    cases ss with
    | nil => simp
    | cons t ss =>
      rw [List.intercalate_cons_cons]
      simp only [List.length_cons, List.length_append] at ih ⊢
      omega

theorem length_le_of_mem_intercalate {ss : List (List Char)} (h : s ∈ ss) :
    s.length ≤ ([','].intercalate ss).length := by
  induction ss with
  | nil => cases h
  | cons t ss ih =>
    cases ss with
    | nil => simp [List.mem_singleton.1 h]
    | cons u ss =>
      rw [List.intercalate_cons_cons]
      simp only [List.length_append]
      rcases List.mem_cons.1 h with rfl | h
      · omega
      · have hlength := ih h
        omega

theorem ends_cons (h : c ∈ [',', ']', '}']) (rest : List Char) : Ends (c :: rest) := by
  simp only [List.mem_cons, List.not_mem_nil, or_false] at h
  intro d hd
  cases hd
  rcases h with rfl | rfl | rfl <;> decide

theorem separated_last {item : List Char → Option (α × List Char)} {a : α} {r : List Char}
    (hread : item s = some (a, r)) (hskip : skipBlanks r = close :: rest) (bound : Nat) :
    separated item close (bound + 1) s = some ([a], rest) := by
  simp [separated, hread, hskip]

theorem separated_more {item : List Char → Option (α × List Char)} {a : α} {r : List Char}
    (hread : item s = some (a, r)) (hskip : skipBlanks r = ',' :: rest) (hclose : ',' ≠ close)
    (bound : Nat) : separated item close (bound + 1) s =
      (separated item close bound rest).map fun p => (a :: p.1, p.2) := by
  simp [separated, hread, hskip, hclose]

/-- Items with commas between them are read one by one. -/
theorem separated_of_reads {item : List Char → Option (α × List Char)}
    {parts : List (List Char × α)} (hparts : parts ≠ []) (h : ∀ p ∈ parts, Reads item p.1 p.2)
    (hclose : close = ']' ∨ close = '}') (rest : List Char) {bound : Nat}
    (hbound : parts.length ≤ bound) :
    separated item close bound ([','].intercalate (parts.map Prod.fst) ++ close :: rest) =
      some (parts.map Prod.snd, rest) := by
  induction parts generalizing bound with
  | nil => exact absurd rfl hparts
  | cons p parts ih =>
    obtain ⟨bound, rfl⟩ := Nat.exists_eq_add_of_lt (Nat.lt_of_lt_of_le (Nat.succ_pos _) hbound)
    rw [Nat.zero_add]
    have hp := h p List.mem_cons_self
    cases parts with
    | nil =>
      obtain ⟨r, hread, hskip⟩ := hp (close :: rest) (ends_cons (by simp [hclose]) rest)
      rw [skipBlanks_closing hclose] at hskip
      simpa using separated_last hread hskip bound
    | cons q parts =>
      -- The item stops before its comma, and the others are read after it.
      have hmore := ih (by simp) (fun i hi => h i (List.mem_cons_of_mem p hi))
        (by simpa using hbound)
      have hcomma : ',' ≠ close := by rcases hclose with rfl | rfl <;> decide
      obtain ⟨r, hread, hskip⟩ := hp
        (',' :: ([','].intercalate ((q :: parts).map Prod.fst) ++ close :: rest))
        (ends_cons (by simp) _)
      rw [skipBlanks_cons (by decide)] at hskip
      rw [List.map_cons] at hmore hread hskip
      rw [List.map_cons, List.map_cons, List.map_cons, List.intercalate_cons_cons,
        List.append_assoc, List.append_assoc, List.singleton_append,
        separated_more hread hskip hcomma, hmore, Option.map_some, List.map_cons]

theorem enclosed_blank (item : List Char → Option (α × List Char)) (h : Blanks s)
    (hclose : close = ']' ∨ close = '}') (rest : List Char) :
    enclosed item close (s ++ close :: rest) = some ([], rest) := by
  have hskip : skipBlanks (s ++ close :: rest) = close :: rest := by
    rw [skipBlanks_append h, skipBlanks_closing hclose]
  simp [enclosed, hskip]

theorem separated_none {item : List Char → Option (α × List Char)} (h : item s = none)
    (bound : Nat) : separated item close bound s = none := by
  cases bound with
  | zero => rfl
  | succ bound => simp [separated, h]

theorem enclosed_of_reads {item : List Char → Option (α × List Char)}
    {parts : List (List Char × α)} (hparts : parts ≠ []) (h : ∀ p ∈ parts, Reads item p.1 p.2)
    (hclose : close = ']' ∨ close = '}')
    (hnone : ∀ s, (∀ c ∈ (skipBlanks s).head?, c = close) → item s = none) (rest : List Char) :
    enclosed item close ([','].intercalate (parts.map Prod.fst) ++ close :: rest) =
      some (parts.map Prod.snd, rest) := by
  have hbound : parts.length ≤
      ([','].intercalate (parts.map Prod.fst) ++ close :: rest).length := by
    have hlength := length_le_intercalate (parts.map Prod.fst)
    simp only [List.length_map, List.length_append, List.length_cons] at hlength ⊢
    omega
  have hread := separated_of_reads hparts h hclose rest hbound
  generalize [','].intercalate (parts.map Prod.fst) ++ close :: rest = s at hread
  -- If the list began with its closing character, no first item could have been read.
  by_cases hitem : ∀ c ∈ (skipBlanks s).head?, c = close
  · rw [separated_none (hnone s hitem)] at hread
    cases hread
  · cases hs : skipBlanks s with
    | nil => simp [hs] at hitem
    | cons c t =>
      have hc : c ≠ close := by simpa [hs] using hitem
      simp only [enclosed, hs, if_neg hc]
      exact hread

/-! Values. -/

theorem value?_blanks (h : Blanks s) (depth : Nat) (rest : List Char) :
    value? depth (s ++ rest) = value? depth rest := by
  cases depth with
  | zero => rfl
  | succ depth => simp only [value?, skipBlanks_append h]

theorem value?_number (h : c = '-' ∨ c.isDigit = true) (depth : Nat) (rest : List Char) :
    value? (depth + 1) (c :: rest) = number? (c :: rest) := by
  have hblank : isBlank c = false := by
    rcases h with rfl | h
    · rfl
    · rw [← Bool.not_eq_true]
      intro hblank
      rw [(isDigit_of_isBlank hblank).1] at h
      cases h
  rw [value?, skipBlanks_cons hblank]
  have hc : c ∉ ['n', 't', 'f', '"', '[', '{'] := by
    intro hmem
    simp only [List.mem_cons, List.not_mem_nil, or_false] at hmem
    rcases hmem with rfl | rfl | rfl | rfl | rfl | rfl <;> revert h <;> decide
  simp only [List.mem_cons, List.not_mem_nil, or_false, not_or] at hc
  obtain ⟨hn, ht, hf, hquote, hitems, hmembers⟩ := hc
  simp [hn, ht, hf, hquote, hitems, hmembers]

/-- No value begins with the bracket that would close the list. -/
theorem value?_none (depth : Nat) (s : List Char) (h : ∀ c ∈ (skipBlanks s).head?, c = ']') :
    value? depth s = none := by
  cases depth with
  | zero => rfl
  | succ depth =>
    cases hs : skipBlanks s with
    | nil => simp [value?, hs, number?, magnitude?, whole?, digits?]
    | cons c t =>
      obtain rfl : c = ']' := by simpa [hs] using h
      simp [value?, hs, number?, magnitude?, whole?, digits?]

theorem member?_none (value : List Char → Option (Json × List Char)) (s : List Char)
    (h : ∀ c ∈ (skipBlanks s).head?, c = '}') : member? value s = none := by
  cases hs : skipBlanks s with
  | nil => simp [member?, hs]
  | cons c t =>
    obtain rfl : c = '}' := by simpa [hs] using h
    simp [member?, hs]

theorem reads_member {value : List Char → Option (Json × List Char)} {name : Option String}
    (hname : SpellsName s name) (h : Reads value t j) :
    Reads (member? value) (s ++ ':' :: t) (name, j) := by
  intro rest hrest
  obtain ⟨r, hread, hskip⟩ := h rest hrest
  refine ⟨r, ?_, hskip⟩
  cases hname with
  | @mk f s b us front hs back =>
    have hquote : skipBlanks ('"' :: (s ++ '"' :: (b ++ ':' :: (t ++ rest)))) =
        '"' :: (s ++ '"' :: (b ++ ':' :: (t ++ rest))) := skipBlanks_cons (by decide) _
    have hcolon : skipBlanks (':' :: (t ++ rest)) = ':' :: (t ++ rest) :=
      skipBlanks_cons (by decide) _
    have hunits := Literal.units_of_spells hs (b ++ ':' :: (t ++ rest))
    simp only [List.append_assoc, List.cons_append]
    simp [member?, skipBlanks_append front, hquote, Literal.read, hunits, skipBlanks_append back,
      hcolon, hread]

theorem reads_number (h : Number s) :
    Reads (value? (depth + 1)) s (number (String.ofList s)) := by
  intro rest hrest
  have hread := number?_append h hrest
  obtain ⟨c, t, rfl, hc⟩ := h.exists_cons
  exact ⟨rest, (value?_number hc _ _).trans hread, rfl⟩

theorem reads_string {us : List Nat} (h : Literal.Spells s us) :
    Reads (value? (depth + 1)) ('"' :: (s ++ ['"']))
      (string ((Literal.assemble us).map String.ofList)) := by
  intro rest _
  have hopen : ∀ r, value? (depth + 1) ('"' :: r) =
      (Literal.read r).map fun p => (string p.1, p.2) := fun _ => rfl
  refine ⟨rest, ?_, rfl⟩
  rw [List.cons_append, hopen, Literal.read, List.append_assoc, List.singleton_append,
    Literal.units_of_spells h]
  rfl

/-- An array is read if what stands between its brackets is read as its items. -/
theorem reads_array {items : List Json}
    (h : ∀ rest, enclosed (value? depth) ']' (s ++ ']' :: rest) = some (items, rest)) :
    Reads (value? (depth + 1)) ('[' :: (s ++ [']'])) (array items) := by
  intro rest _
  have hopen : ∀ r, value? (depth + 1) ('[' :: r) =
      (enclosed (value? depth) ']' r).map fun p => (array p.1, p.2) := fun _ => rfl
  refine ⟨rest, ?_, rfl⟩
  rw [List.cons_append, hopen, List.append_assoc, List.singleton_append, h]
  rfl

theorem reads_object {members : List (Option String × Json)}
    (h : ∀ rest, enclosed (member? (value? depth)) '}' (s ++ '}' :: rest) =
      some (members, rest)) :
    Reads (value? (depth + 1)) ('{' :: (s ++ ['}'])) (object members) := by
  intro rest _
  have hopen : ∀ r, value? (depth + 1) ('{' :: r) =
      (enclosed (member? (value? depth)) '}' r).map fun p => (object p.1, p.2) :=
    fun _ => rfl
  refine ⟨rest, ?_, rfl⟩
  rw [List.cons_append, hopen, List.append_assoc, List.singleton_append, h]
  rfl

theorem Reads.padded {f b : List Char} (front : Blanks f) (h : Reads (value? depth) s j)
    (back : Blanks b) : Reads (value? depth) (f ++ s ++ b) j := by
  intro rest hrest
  obtain ⟨r, hread, hskip⟩ := h (b ++ rest) (hrest.blanks back)
  refine ⟨r, ?_, hskip.trans (skipBlanks_append back rest)⟩
  rw [List.append_assoc, List.append_assoc, value?_blanks front, hread]

/-- A value is read from its text, once the reader may go as deep as the text is long. -/
theorem reads_of_spells (h : Spells s j) (hdepth : s.length ≤ depth) :
    Reads (value? (depth + 1)) s j := by
  -- Two brackets are more than one level of depth needs, so the bound holds for what they enclose.
  induction h generalizing depth with
  | null => exact fun rest _ => ⟨rest, rfl, rfl⟩
  | true => exact fun rest _ => ⟨rest, rfl, rfl⟩
  | false => exact fun rest _ => ⟨rest, rfl, rfl⟩
  | number h => exact reads_number h
  | string h => exact reads_string h
  | noItems h => exact reads_array (enclosed_blank _ h (.inl rfl))
  | @array items ne_nil _ ih =>
    simp only [List.length_cons, List.length_append] at hdepth
    obtain ⟨depth, rfl⟩ : ∃ d, depth = d + 1 := ⟨depth - 1, by omega⟩
    refine reads_array (enclosed_of_reads ne_nil ?_ (.inl rfl) (value?_none _))
    intro i hi
    have hlength := length_le_of_mem_intercalate (List.mem_map_of_mem (f := Prod.fst) hi)
    exact ih i hi (by omega)
  | noMembers h => exact reads_object (enclosed_blank _ h (.inr rfl))
  | @object members ne_nil names _ ih =>
    simp only [List.length_cons, List.length_append] at hdepth
    obtain ⟨depth, rfl⟩ : ∃ d, depth = d + 1 := ⟨depth - 1, by omega⟩
    have hmembers : ∀ p ∈ members.map fun m => (m.text, m.content),
        Reads (member? (value? (depth + 1))) p.1 p.2 := by
      intro p hp
      obtain ⟨m, hm, rfl⟩ := List.mem_map.1 hp
      have hlength := length_le_of_mem_intercalate (List.mem_map_of_mem (f := Member.text) hm)
      rw [Member.text, List.length_append, List.length_cons] at hlength
      exact reads_member (names m hm) (ih m hm (by omega))
    have hread := enclosed_of_reads (by simpa using ne_nil) hmembers (.inr rfl) (member?_none _)
    simp only [List.map_map, Function.comp_def] at hread
    exact reads_object hread
  | padded front _ back ih =>
    simp only [List.length_append] at hdepth
    exact (ih (by omega)).padded front back

/-- A text that spells a value is read as that value. -/
theorem parse?_of_spells {text : String} (h : Spells text.toList j) : parse? text = some j := by
  obtain ⟨r, hread, hskip⟩ := reads_of_spells h (Nat.le_refl _) [] (by simp [Ends])
  rw [List.append_nil] at hread
  have hend : skipBlanks r = [] := hskip
  simp [parse?, hread, hend]

end LoweringAudit.Json
