import LoweringAudit.Text.Search
import Mathlib.Data.List.Infix
/-!
Searching and replacing in a text that is put together from parts. Where no occurrence of the word
runs over the seam of two parts, each part is searched and replaced by itself. A block that is apart
from the word has no such seam on either side. Main statements: a replacement brings about or
destroys no occurrence of a word that is apart from both the word replaced and its value, and passes
over a block that is apart from the word.
-/
namespace LoweringAudit.Text

variable {word sought value block text s t : List Char} {c : Char}

theorem replaceFrom_eq_replace_drop (word value : List Char) (n : Nat) (text : List Char) :
    replaceFrom word value n text = replace word value (text.drop n) := by
  induction n generalizing text with
  | zero => rfl
  | succ n ih =>
    cases text with
    | nil => rfl
    | cons c rest => exact ih rest

theorem replace_word_append (hword : word ≠ []) :
    replace word value (word ++ t) = value ++ replace word value t := by
  obtain ⟨c, rest, rfl⟩ := List.exists_cons_of_ne_nil hword
  have hhead : (c :: rest).isPrefixOf (c :: (rest ++ t)) = true :=
    List.isPrefixOf_iff_prefix.2 (List.prefix_append _ t)
  rw [List.cons_append, replace, replaceFrom, if_pos hhead, replaceFrom_eq_replace_drop]
  simp

theorem replace_cons (h : ¬ word <+: c :: s) :
    replace word value (c :: s) = c :: replace word value s := by
  rw [replace, replaceFrom, if_neg (List.isPrefixOf_iff_prefix.not.2 h)]
  rfl

/-- A text is passed over that has no character with which the word begins. -/
theorem replace_append_of_not_mem (h : c ∉ s) :
    replace (c :: word) value (s ++ t) = s ++ replace (c :: word) value t := by
  induction s with
  | nil => rfl
  | cons x s ih =>
    obtain ⟨hx, hs⟩ := not_or.1 (List.mem_cons.not.1 h)
    have hhead : ¬ c :: word <+: x :: (s ++ t) := fun hp => hx (List.cons_prefix_cons.1 hp).1
    rw [List.cons_append, replace_cons hhead, ih hs, List.cons_append]

/-- With `t` behind it, every occurrence of the word that begins in `s` ends in `s`. -/
def EndsWithin (word s t : List Char) : Prop :=
  ∀ l, l <:+ s → l ≠ [] → word <+: l ++ t → word <+: l

theorem EndsWithin.of_suffix (h : EndsWithin word s t) {l : List Char} (hl : l <:+ s) :
    EndsWithin word l t :=
  fun _ hsuffix => h _ (hsuffix.trans hl)

theorem infix_append_iff (hword : word ≠ []) (h : EndsWithin word s t) :
    word <:+: s ++ t ↔ word <:+: s ∨ word <:+: t := by
  induction s with
  | nil => simp [hword]
  | cons c s ih =>
    have hhead : word <+: c :: (s ++ t) ↔ word <+: c :: s :=
      ⟨h _ List.suffix_rfl (List.cons_ne_nil c s), fun hp => hp.trans (List.prefix_append _ t)⟩
    rw [List.cons_append, List.infix_cons_iff, hhead, ih (h.of_suffix (List.suffix_cons c s)),
      List.infix_cons_iff, or_assoc]

theorem replace_append (hword : word ≠ []) (h : EndsWithin word s t) :
    replace word value (s ++ t) = replace word value s ++ replace word value t := by
  induction hn : s.length using Nat.strong_induction_on generalizing s with
  | _ n ih =>
    cases s with
    | nil => rfl
    | cons c s =>
      by_cases hhead : word <+: c :: s
      · obtain ⟨rest, hrest⟩ := hhead
        have hshort : rest.length < n := by
          have hpos := List.length_pos_iff.2 hword
          rw [← hn, ← hrest, List.length_append]
          omega
        have hsuffix : rest <:+ c :: s := ⟨word, hrest⟩
        rw [← hrest, List.append_assoc, replace_word_append hword, replace_word_append hword,
          ih _ hshort (h.of_suffix hsuffix) rfl, List.append_assoc]
      · have hover : ¬ word <+: c :: (s ++ t) := fun hp =>
          hhead (h _ List.suffix_rfl (List.cons_ne_nil c s) hp)
        have hshort : s.length < n := by simp [← hn]
        rw [List.cons_append, replace_cons hover, replace_cons hhead, List.cons_append,
          ih _ hshort (h.of_suffix (List.suffix_cons c s)) rfl]

theorem endsWithin_of_ends
    (h : ∀ l m, word = l ++ m → l ≠ [] → m ≠ [] → ¬ m <+: t) : EndsWithin word s t := by
  intro l _ hl hword
  rcases List.prefix_or_prefix_of_prefix hword (List.prefix_append l _) with hl | ⟨m, rfl⟩
  · exact hl
  · -- The word would go on with `m` where `t` begins.
    have hm : m <+: t := (List.prefix_append_right_inj l).1 hword
    by_cases hnil : m = []
    · simp [hnil]
    · exact absurd hm (h l m rfl hl hnil)

/-- No end of the text is a beginning of it, apart from the empty one and the whole. -/
def Unbordered (word : List Char) : Prop :=
  ∀ m, m <:+ word → m <+: word → m ≠ [] → m = word

instance (word : List Char) : Decidable (Unbordered word) :=
  decidable_of_iff (∀ m ∈ word.tails, m <+: word → m ≠ [] → m = word) (by simp [Unbordered])

theorem Unbordered.endsWithin (h : Unbordered word) : EndsWithin word s (word ++ t) := by
  apply endsWithin_of_ends
  intro l m hlm hl hm hover
  have hsuffix : m <:+ word := ⟨l, hlm.symm⟩
  have hprefix : m <+: word :=
    List.prefix_of_prefix_length_le hover (List.prefix_append _ t) hsuffix.length_le
  rw [h m hsuffix hprefix hm] at hlm
  exact hl (List.self_eq_append_left.1 hlm)

/-- Every place where an unbordered word stands is a place where it is replaced. -/
theorem replace_append_word_append (hword : word ≠ []) (h : Unbordered word) :
    replace word value (s ++ (word ++ t)) =
      replace word value s ++ (value ++ replace word value t) := by
  rw [replace_append hword h.endsWithin, replace_word_append hword]

/-- Some end of the first text agrees with the second as far as both go. -/
def Meets (s t : List Char) : Prop :=
  ∃ l, l <:+ s ∧ l ≠ [] ∧ (l <+: t ∨ t <+: l)

instance (s t : List Char) : Decidable (Meets s t) :=
  decidable_of_iff (∃ l ∈ s.tails, l ≠ [] ∧ (l <+: t ∨ t <+: l)) (by simp [Meets])

/-- Two texts no occurrences of which overlap: neither begins in the other. -/
structure Apart (word block : List Char) : Prop where
  notInWord : ¬ Meets word block
  notInBlock : ¬ Meets block word

instance (word block : List Char) : Decidable (Apart word block) :=
  decidable_of_iff (¬ Meets word block ∧ ¬ Meets block word)
    ⟨fun h => ⟨h.1, h.2⟩, fun h => ⟨h.notInWord, h.notInBlock⟩⟩

namespace Apart

theorem block_ne_nil (hword : word ≠ []) (h : Apart word block) : block ≠ [] := by
  rintro rfl
  exact h.notInWord ⟨word, List.suffix_rfl, hword, .inr (List.nil_prefix)⟩

theorem not_within (hword : word ≠ []) (h : Apart word block) : ¬ word <:+: block := by
  intro hinfix
  obtain ⟨l, hprefix, hsuffix⟩ := List.infix_iff_prefix_suffix.1 hinfix
  refine h.notInBlock ⟨l, hsuffix, ?_, .inr hprefix⟩
  rintro rfl
  exact hword (List.prefix_nil.1 hprefix)

theorem endsWithin_before (h : Apart word block) : EndsWithin word s (block ++ t) :=
  endsWithin_of_ends fun l m hlm _ hm hover =>
    absurd ⟨m, ⟨l, hlm.symm⟩, hm,
      List.prefix_or_prefix_of_prefix hover (List.prefix_append block t)⟩ h.notInWord

theorem endsWithin_block (h : Apart word block) : EndsWithin word block t := fun l hl hne hword =>
  absurd ⟨l, hl, hne, List.prefix_or_prefix_of_prefix (List.prefix_append l t) hword⟩ h.notInBlock

end Apart

theorem infix_block_iff (hword : word ≠ []) (h : Apart word block) :
    word <:+: s ++ (block ++ t) ↔ word <:+: s ∨ word <:+: t := by
  rw [infix_append_iff hword h.endsWithin_before, infix_append_iff hword h.endsWithin_block,
    or_iff_right (h.not_within hword)]

theorem replace_block (hword : word ≠ []) (h : Apart word block) :
    replace word value (s ++ (block ++ t)) =
      replace word value s ++ (block ++ replace word value t) := by
  rw [replace_append hword h.endsWithin_before, replace_append hword h.endsWithin_block,
    replace_eq_self (h.not_within hword)]

/-- A block that is not apart from a word can be a part of it: with the right texts around the
block, each of them shorter than the word, the word is there. -/
theorem exists_infix_around (hword : 1 < word.length) (h : ¬ Apart word block) :
    ∃ s t, (s <:+: word ∧ s.length < word.length) ∧ (t <:+: word ∧ t.length < word.length) ∧
      word <:+: s ++ (block ++ t) := by
  have hmeets : Meets word block ∨ Meets block word := by
    by_contra hnone
    rw [not_or] at hnone
    exact h ⟨hnone.1, hnone.2⟩
  by_cases hblock : block = []
  · -- An empty block leaves the word to be cut anywhere.
    subst hblock
    refine ⟨word.take 1, word.drop 1, ⟨(List.take_prefix 1 word).isInfix, ?_⟩,
      ⟨(List.drop_suffix 1 word).isInfix, ?_⟩,
      by rw [List.nil_append, List.take_append_drop]⟩
    · rw [List.length_take]
      omega
    · rw [List.length_drop]
      omega
  have hpos := List.length_pos_iff.2 hblock
  have hempty : [] <:+: word ∧ ([] : List Char).length < word.length :=
    ⟨List.nil_infix, Nat.zero_lt_of_lt hword⟩
  rcases hmeets with ⟨l, ⟨m, rfl⟩, hl, hagree⟩ | ⟨l, ⟨m, rfl⟩, hl, hagree⟩
  · have hm : m.length < (m ++ l).length := by
      simpa using List.length_pos_iff.2 hl
    rcases hagree with ⟨rest, rfl⟩ | ⟨rest, rfl⟩
    · -- The word ends in the block.
      exact ⟨m, [], ⟨List.infix_append' [] m l, hm⟩, hempty, [], rest, by simp⟩
    · -- The block is the middle of the word.
      refine ⟨m, rest, ⟨List.infix_append' [] m _, hm⟩, ⟨⟨m ++ block, [], by simp⟩, ?_⟩,
        List.infix_rfl⟩
      rw [List.length_append, List.length_append]
      omega
  · rcases hagree with ⟨rest, rfl⟩ | hwhole
    · -- The word begins in the block.
      refine ⟨[], rest, hempty, ⟨(List.suffix_append l rest).isInfix, ?_⟩, m, [], by simp⟩
      simpa using List.length_pos_iff.2 hl
    · -- The block has the whole word in it.
      have hinfix : word <:+: m ++ l := hwhole.isInfix.trans (List.suffix_append m l).isInfix
      exact ⟨[], [], hempty, hempty, by simpa using hinfix⟩

theorem cutAt?_eq_none_iff : cutAt? word text = none ↔ ¬ word <:+: text := by
  induction text with
  | nil => simp [cutAt?]
  | cons c rest ih =>
    rw [cutAt?, List.infix_cons_iff, ← List.isPrefixOf_iff_prefix]
    split <;> simp_all

theorem replace_of_cutAt? (hword : word ≠ []) {before after : List Char}
    (h : cutAt? word text = some (before, after)) :
    replace word value text = before ++ (value ++ replace word value after) := by
  induction text generalizing before with
  | nil => simp [cutAt?, hword] at h
  | cons c rest ih =>
    have htext := eq_append_of_cutAt? h
    rw [cutAt?] at h
    split at h
    · next hhead =>
      obtain ⟨rfl, -⟩ : [] = before ∧ _ := by simpa using h
      rw [htext, List.nil_append, List.nil_append, replace_word_append hword]
    · next hhead =>
      obtain ⟨⟨front, tail⟩, hcut, hcons⟩ := Option.map_eq_some_iff.1 h
      obtain ⟨rfl, rfl⟩ : c :: front = before ∧ tail = after := by simpa using hcons
      rw [replace_cons (by simpa using hhead), ih hcut, List.cons_append]

/-- A text with a word in it is replaced as its parts around the first occurrence are. -/
theorem exists_replace_eq (hword : word ≠ []) (h : word <:+: text) :
    ∃ before after, ∀ value,
      replace word value text = before ++ (value ++ replace word value after) := by
  obtain ⟨⟨before, after⟩, hcut⟩ := Option.ne_none_iff_exists'.1 (cutAt?_eq_none_iff.not_left.2 h)
  exact ⟨before, after, fun _ => replace_of_cutAt? hword hcut⟩

theorem infix_replace_iff (hsought : sought ≠ []) (hword : Apart sought word)
    (hvalue : Apart sought value) : sought <:+: replace word value text ↔ sought <:+: text := by
  have hne : word ≠ [] := hword.block_ne_nil hsought
  induction hn : text.length using Nat.strong_induction_on generalizing text with
  | _ n ih =>
    cases hcut : cutAt? word text with
    | none => rw [replace_eq_self (cutAt?_eq_none_iff.1 hcut)]
    | some parts =>
      obtain ⟨before, after⟩ := parts
      have htext : text = before ++ (word ++ after) := by
        rw [eq_append_of_cutAt? hcut, List.append_assoc]
      have hshort : after.length < n := by
        have hpos := List.length_pos_iff.2 hne
        rw [← hn, htext, List.length_append, List.length_append]
        omega
      have hafter : sought <:+: replace word value after ↔ sought <:+: after := ih _ hshort rfl
      rw [replace_of_cutAt? hne hcut, infix_block_iff hsought hvalue, hafter, htext,
        infix_block_iff hsought hword]

end LoweringAudit.Text
