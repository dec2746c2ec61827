/-!
Finding and replacing one text inside another. Main statements: `contains` decides the infix
relation, and a text without the sought word is left alone by `replace`.
-/
namespace LoweringAudit.Text

/-- Whether `word` occurs somewhere in the text. -/
def contains (word : List Char) : List Char → Bool
  | [] => word.isEmpty
  | c :: rest => word.isPrefixOf (c :: rest) || contains word rest

theorem contains_eq_true_iff {word text : List Char} :
    contains word text = true ↔ word <:+: text := by
  induction text with
  | nil => simp [contains]
  | cons c rest ih => simp [contains, ih, List.infix_cons_iff, List.isPrefixOf_iff_prefix]

/-- What stands before the first occurrence of a word, and what stands after it. -/
def cutAt? (word : List Char) : List Char → Option (List Char × List Char)
  | [] => if word.isEmpty then some ([], []) else none
  | c :: rest =>
    if word.isPrefixOf (c :: rest) then some ([], (c :: rest).drop word.length)
    else (cutAt? word rest).map fun (before, after) => (c :: before, after)

theorem eq_append_of_cutAt? {word text before after : List Char}
    (h : cutAt? word text = some (before, after)) : text = before ++ word ++ after := by
  induction text generalizing before with
  | nil => simp_all [cutAt?]
  | cons c rest ih =>
    rw [cutAt?] at h
    split at h
    · next hp =>
      obtain ⟨tail, ht⟩ := List.isPrefixOf_iff_prefix.1 hp
      simp only [Option.some.injEq, Prod.mk.injEq] at h
      obtain ⟨rfl, rfl⟩ := h
      simp [← ht]
    · obtain ⟨⟨b, a⟩, hb, he⟩ := Option.map_eq_some_iff.1 h
      simp only [Prod.mk.injEq] at he
      obtain ⟨rfl, rfl⟩ := he
      simp [ih hb]

/-- Replaces occurrences from left to right; `skip` characters of the last one found remain. -/
def replaceFrom (word value : List Char) : Nat → List Char → List Char
  | _, [] => []
  | skip + 1, _ :: rest => replaceFrom word value skip rest
  | 0, c :: rest =>
    if word.isPrefixOf (c :: rest) then value ++ replaceFrom word value (word.length - 1) rest
    else c :: replaceFrom word value 0 rest

/-- Every occurrence of a non-empty word gives way to the value, none overlapping an earlier one. -/
def replace (word value text : List Char) : List Char :=
  replaceFrom word value 0 text

theorem replace_eq_self {word value text : List Char} (h : ¬ word <:+: text) :
    replace word value text = text := by
  unfold replace
  induction text with
  | nil => rfl
  | cons c rest ih =>
    have hp : word.isPrefixOf (c :: rest) = false := by
      cases hw : word.isPrefixOf (c :: rest) with
      | false => rfl
      | true => exact absurd (List.isPrefixOf_iff_prefix.1 hw).isInfix h
    have hr : ¬ word <:+: rest := fun hi => h (List.infix_cons_iff.2 (.inr hi))
    simp [replaceFrom, hp, ih hr]

end LoweringAudit.Text
