import LoweringAudit.Proofs.Toml.Text
import LoweringAudit.Toml.Document
/-!
Values in text: strings, truth values and arrays of strings. An array is read item by item, with
blanks and line feeds between the items passed over, so it may stand on one line or over several.
-/
namespace LoweringAudit.Toml

variable {depth bound : Nat} {c : Char} {s t rest : List Char} {v : Value}

/-- The value of a text. -/
def ofChars (s : List Char) : Value :=
  .string (String.ofList s)

/-- A text that spells a value, unless a quote comes after it. -/
structure Spells (depth : Nat) (text : List Char) (v : Value) : Prop where
  start : ∀ c ∈ text.head?, isBlank c = false
  reads : ∀ rest, Text.FreeOfQuote rest → value? depth (text ++ rest) = some (v, rest)

theorem skipBlanks_eq_self (h : ∀ c ∈ s.head?, isBlank c = false) : skipBlanks s = s := by
  cases s with
  | nil => rfl
  | cons c s =>
    have hc : isBlank c = false := h c rfl
    simp [skipBlanks, List.dropWhile, hc]

/-- A string is a value wherever it is read, because nothing else begins with a quote. -/
theorem value?_of_read (hquote : c = '"' ∨ c = '\'') (h : Text.read (c :: s) = some (t, rest)) :
    value? depth (c :: s) = some (ofChars t, rest) := by
  rcases hquote with rfl | rfl <;> simp [value?, h, ofChars]

theorem exists_write_eq_cons (s : List Char) :
    ∃ c r, Text.write s = c :: r ∧ (c = '"' ∨ c = '\'') := by
  unfold Text.write
  cases Text.Form.ofText s with
  | basic => exact ⟨_, _, rfl, .inl rfl⟩
  | literal => exact ⟨_, _, rfl, .inr rfl⟩
  | basicLines => exact ⟨_, _, rfl, .inl rfl⟩
  | literalLines => exact ⟨_, _, rfl, .inr rfl⟩

theorem spells_write (depth : Nat) (s : List Char) : Spells depth (Text.write s) (ofChars s) := by
  obtain ⟨c, r, hwrite, hc⟩ := exists_write_eq_cons s
  refine ⟨?_, fun rest hrest => ?_⟩
  · rw [hwrite]
    rcases hc with rfl | rfl <;> simp [isBlank]
  · have hread := Text.read_write hrest s
    rw [hwrite, List.cons_append] at hread
    rw [hwrite, List.cons_append]
    exact value?_of_read hc hread

theorem spells_boolean (depth : Nat) (b : Bool) :
    Spells depth (if b then "true" else "false").toList (.boolean b) := by
  cases b with
  | true => exact ⟨by simp [isBlank], fun rest _ => by simp [value?]⟩
  | false => exact ⟨by simp [isBlank], fun rest _ => by simp [value?]⟩

/-- No gap begins here. -/
def Solid (s : List Char) : Prop :=
  ∀ c ∈ s.head?, isBlank c = false ∧ c ≠ '#' ∧ c ≠ '\n' ∧ c ≠ '\r'

theorem solid_write (s rest : List Char) : Solid (Text.write s ++ rest) := by
  obtain ⟨c, r, hwrite, hc⟩ := exists_write_eq_cons s
  rw [hwrite]
  rcases hc with rfl | rfl <;> simp [Solid, isBlank]

theorem skipGap?_of_solid (h : Solid s) : skipGap? (bound + 1) s = some s := by
  have hblank := skipBlanks_eq_self fun c hc => (h c hc).1
  rw [skipGap?, hblank]
  cases s with
  | nil => simp
  | cons c s =>
    obtain ⟨-, hcomment, hline, hreturn⟩ := h c rfl
    split <;> simp_all

theorem gap?_of_solid (h : Solid s) : gap? s = some s :=
  skipGap?_of_solid h

/-- Blanks after a line feed belong to the gap. -/
theorem gap?_line (blanks : List Char) (hblanks : ∀ c ∈ blanks, isBlank c = true) (h : Solid s) :
    gap? ('\n' :: (blanks ++ s)) = some s := by
  have hskip : skipBlanks (blanks ++ s) = skipBlanks s := List.dropWhile_append_of_pos hblanks
  have hstep : gap? ('\n' :: (blanks ++ s)) =
      skipGap? ((blanks ++ s).length + 1) (blanks ++ s) := by
    simp [gap?, skipGap?, skipBlanks, isBlank, List.dropWhile]
  rw [hstep, skipGap?, hskip, ← skipGap?, skipGap?_of_solid h]

/-- An item of an array on a line of its own. -/
def itemLine (s : List Char) : List Char :=
  "    ".toList ++ Text.write s ++ ",\n".toList

/-- An item on its line, before items that can be read. -/
theorem items?_itemLine {after : List Char} {vs : List Value}
    (h : items? (value? depth) bound ('\n' :: after) = some (vs, rest)) :
    items? (value? depth) (bound + 1) ('\n' :: (itemLine s ++ after)) =
      some (ofChars s :: vs, rest) := by
  have hline : '\n' :: (itemLine s ++ after) =
      '\n' :: ("    ".toList ++ (Text.write s ++ ',' :: '\n' :: after)) := by
    simp [itemLine]
  have hgap := gap?_line "    ".toList (by simp [isBlank])
    (solid_write s (',' :: '\n' :: after))
  have hvalue := (spells_write depth s).reads (',' :: '\n' :: after) (by simp [Text.FreeOfQuote])
  have hcomma : gap? (',' :: '\n' :: after) = some (',' :: '\n' :: after) :=
    gap?_of_solid (by simp [Solid, isBlank])
  obtain ⟨c, r, hwrite, hc⟩ := exists_write_eq_cons s
  have hfirst : c ≠ ']' := by rcases hc with rfl | rfl <;> simp
  rw [hline, items?, hgap]
  rw [hwrite, List.cons_append] at hvalue ⊢
  simp [hfirst, hvalue, hcomma, h]

/-- Items on lines are read one after the other; the bound counts them, and the closing bracket. -/
theorem items?_lines (items : List (List Char)) (rest : List Char) (hbound : items.length < bound) :
    items? (value? depth) bound ('\n' :: (items.flatMap itemLine ++ ']' :: rest)) =
      some (items.map ofChars, rest) := by
  induction items generalizing bound with
  | nil =>
    obtain ⟨n, rfl⟩ : ∃ n, bound = n + 1 := ⟨bound - 1, by simp at hbound; omega⟩
    have hgap : gap? ('\n' :: ']' :: rest) = some (']' :: rest) :=
      gap?_line [] (by simp) (by simp [Solid, isBlank])
    rw [List.flatMap_nil, List.nil_append, items?, hgap]
    rfl
  | cons s items ih =>
    obtain ⟨n, rfl⟩ : ∃ n, bound = n + 1 := ⟨bound - 1, by simp at hbound; omega⟩
    rw [List.flatMap_cons, List.append_assoc, items?_itemLine (ih (by simpa using hbound))]
    rfl

/-- One item alone, on the line of the brackets. -/
theorem items?_single (s rest : List Char) :
    items? (value? depth) (bound + 1) (Text.write s ++ ']' :: rest) =
      some ([ofChars s], rest) := by
  have hgap := gap?_of_solid (solid_write s (']' :: rest))
  have hvalue := (spells_write depth s).reads (']' :: rest) (by simp [Text.FreeOfQuote])
  have hclose : gap? (']' :: rest) = some (']' :: rest) :=
    gap?_of_solid (by simp [Solid, isBlank])
  obtain ⟨c, r, hwrite, hc⟩ := exists_write_eq_cons s
  have hfirst : c ≠ ']' := by rcases hc with rfl | rfl <;> simp
  rw [items?, hgap]
  rw [hwrite, List.cons_append] at hvalue ⊢
  simp [hfirst, hvalue, hclose]

/-- An array of strings as it is written: two or more items stand on a line each. -/
def writeArray : List (List Char) → List Char
  | [] => ['[', ']']
  | [s] => '[' :: (Text.write s ++ [']'])
  | items => '[' :: '\n' :: (items.flatMap itemLine ++ [']'])

theorem length_le_itemLines (items : List (List Char)) :
    items.length ≤ (items.flatMap itemLine).length := by
  induction items with
  | nil => simp
  | cons s items ih =>
    have hline : 1 ≤ (itemLine s).length := by simp [itemLine]
    rw [List.flatMap_cons, List.length_append, List.length_cons]
    omega

theorem value?_of_items {vs : List Value}
    (h : items? (value? depth) s.length s = some (vs, rest)) :
    value? (depth + 1) ('[' :: s) = some (.array false vs, rest) := by
  simp [value?, h]

theorem spells_writeArray (depth : Nat) (items : List (List Char)) :
    Spells (depth + 1) (writeArray items) (.array false (items.map ofChars)) := by
  refine ⟨?_, fun rest _ => ?_⟩
  · unfold writeArray
    split <;> simp [isBlank]
  · match items with
    | [] =>
      have hgap : gap? (']' :: rest) = some (']' :: rest) :=
        gap?_of_solid (by simp [Solid, isBlank])
      have hwrite : writeArray [] ++ rest = '[' :: ']' :: rest := rfl
      rw [hwrite]
      apply value?_of_items
      rw [List.length_cons, items?, hgap]
      rfl
    | [s] =>
      have hwrite : writeArray [s] ++ rest = '[' :: (Text.write s ++ ']' :: rest) := by
        simp [writeArray]
      have hlength : (Text.write s ++ ']' :: rest).length =
          (Text.write s).length + rest.length + 1 := by
        simp; omega
      rw [hwrite]
      apply value?_of_items
      rw [hlength, items?_single]
      rfl
    | a :: b :: items =>
      have hwrite : writeArray (a :: b :: items) ++ rest =
          '[' :: '\n' :: ((a :: b :: items).flatMap itemLine ++ ']' :: rest) := by
        simp [writeArray]
      have hlines := length_le_itemLines (a :: b :: items)
      rw [hwrite]
      apply value?_of_items
      apply items?_lines
      simp only [List.length_cons, List.length_append] at hlines ⊢
      omega

end LoweringAudit.Toml
