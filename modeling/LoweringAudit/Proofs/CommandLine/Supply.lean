import LoweringAudit.CommandLine.Command
import LoweringAudit.Proofs.Feature
/-!
Features supplied as a list of items. An item can hold several names, blanks and plus signs, and the
items are put together with commas before anything is read, so the names of the whole are those of
the items, each read alone. Main statement: the option and the configuration give the union of what
the items give, which neither order, repetition, grouping, blank items nor plus signs in front of an
item change.
-/
namespace LoweringAudit

namespace FeatureSet

variable {f item blank plus : String} {fs gs before after : List String} {piece : List Char}

/-- The names in any of the sets. -/
def union (sets : List FeatureSet) : FeatureSet :=
  ofList (sets.flatMap toList)

@[simp] theorem mem_union {sets : List FeatureSet} : f ∈ union sets ↔ ∃ s ∈ sets, f ∈ s := by
  rw [union, mem_ofList, List.mem_flatMap]
  rfl

/-- The items put together, with commas between them. -/
def together (fs : List String) : String :=
  ",".intercalate fs

@[simp] theorem parse_empty : parse "" = ∅ := by decide

/-- The pieces of the items put together are the pieces of the items. -/
theorem splitOn_together (h : fs ≠ []) :
    (together fs).toList.splitOn ',' = fs.flatMap fun f => f.toList.splitOn ',' := by
  have hcomma : ",".toList = [','] := rfl
  rw [together, String.toList_intercalate, hcomma]
  induction fs with
  | nil => exact absurd rfl h
  | cons f fs ih =>
    cases fs with
    | nil => simp
    | cons g fs =>
      have hrest := ih (List.cons_ne_nil g fs)
      rw [List.map_cons, List.map_cons, List.intercalate_cons_cons, List.append_assoc,
        List.singleton_append, List.splitOn_append_cons_self, ← List.map_cons, hrest]
      rfl

theorem mem_parse_together : f ∈ parse (together fs) ↔ ∃ item ∈ fs, f ∈ parse item := by
  by_cases hnil : fs = []
  · subst hnil
    have hempty : together [] = "" := rfl
    simp [hempty]
  · simp only [mem_parse_iff, splitOn_together hnil, List.mem_flatMap]
    constructor
    · rintro ⟨hne, piece, ⟨item, hitem, hpiece⟩, hread⟩
      exact ⟨item, hitem, hne, piece, hpiece, hread⟩
    · rintro ⟨item, hitem, hne, piece, hpiece, hread⟩
      exact ⟨hne, piece, ⟨item, hitem, hpiece⟩, hread⟩

theorem parse_together (fs : List String) : parse (together fs) = union (fs.map parse) := by
  apply ext
  intro f
  simp [mem_parse_together]

/-- Items that give the same names one by one give them together. -/
theorem parse_together_congr
    (h : ∀ f, (∃ item ∈ fs, f ∈ parse item) ↔ ∃ item ∈ gs, f ∈ parse item) :
    parse (together fs) = parse (together gs) := by
  apply ext
  intro f
  rw [mem_parse_together, mem_parse_together, h]

theorem mem_parse_together_middle :
    f ∈ parse (together (before ++ item :: after)) ↔
      f ∈ parse item ∨ f ∈ parse (together (before ++ after)) := by
  simp only [mem_parse_together, List.mem_append, List.mem_cons, or_and_right, exists_or,
    exists_eq_left]
  exact or_left_comm

theorem parse_of_blank (h : ∀ c ∈ blank.toList, Text.isBlank c = true) : parse blank = ∅ := by
  apply ext
  intro f
  rw [mem_parse_iff]
  constructor
  · rintro ⟨hne, piece, hpiece, hread⟩
    have htrim := Text.trim_of_blank fun c hc => h c ((Text.mem_piece hpiece).2 c hc)
    rw [readItem, htrim] at hread
    exact absurd (String.toList_eq_nil_iff.1 hread.symm) hne
  · intro hf
    exact absurd hf (not_mem_empty f)

/-- A plus sign right before an item's first character, which is no blank, is not read. -/
theorem readItem_plus (h : ∀ c ∈ piece.head?, Text.isBlank c = false) :
    readItem ('+' :: piece) = readItem piece := by
  have hsigned : Text.trim ('+' :: piece) = '+' :: Text.trimEnd piece := by
    rw [Text.trim, Text.trimStart_eq_self (by simp [show Text.isBlank '+' = false by decide])]
    exact Text.trimEnd_append_cons (by decide) [] piece
  have hplain : Text.trim piece = Text.trimEnd piece := by
    rw [Text.trim, Text.trimStart_eq_self h]
  rw [readItem, readItem, hsigned, hplain, List.dropWhile_cons_of_pos (by simp)]

theorem readItem_replicate (n : Nat) (h : ∀ c ∈ piece.head?, Text.isBlank c = false) :
    readItem (List.replicate n '+' ++ piece) = readItem piece := by
  induction n with
  | zero => rfl
  | succ n ih =>
    have hhead : ∀ c ∈ (List.replicate n '+' ++ piece).head?, Text.isBlank c = false := by
      cases n with
      | zero => exact h
      | succ n =>
        intro c hc
        cases hc
        decide
    rw [List.replicate_succ, List.cons_append, readItem_plus hhead, ih]

/-- The first piece of an item begins as the item does. -/
theorem exists_splitOn_eq_cons (h : item.toList.head? ≠ some ',') : ∃ first rest,
    item.toList.splitOn ',' = first :: rest ∧ first.head? = item.toList.head? := by
  cases hitem : item.toList with
  | nil => exact ⟨[], [], rfl, rfl⟩
  | cons c cs =>
    have hc : c ≠ ',' := by
      rintro rfl
      exact h (by rw [hitem]; rfl)
    obtain ⟨p, ps, hp⟩ := List.exists_cons_of_ne_nil (List.splitOn_ne_nil ',' cs)
    refine ⟨c :: p, ps, ?_, rfl⟩
    rw [List.splitOn_cons_eq_if_modifyHead, hp]
    simp [hc]

theorem parse_plus (hplus : ∀ c ∈ plus.toList, c = '+')
    (h : ∀ c ∈ item.toList.head?, Text.isBlank c = false ∧ c ≠ ',') :
    parse (plus ++ item) = parse item := by
  have hcomma : item.toList.head? ≠ some ',' := fun hc => (h ',' hc).2 rfl
  obtain ⟨first, rest, hsplit, hfirst⟩ := exists_splitOn_eq_cons hcomma
  have hrun : plus.toList = List.replicate plus.toList.length '+' := List.eq_replicate_of_mem hplus
  have hblank : ∀ c ∈ first.head?, Text.isBlank c = false := fun c hc => (h c (hfirst ▸ hc)).1
  have hsigned : (plus ++ item).toList.splitOn ',' = (plus.toList ++ first) :: rest := by
    have hnone : ',' ∉ plus.toList := fun hmem => absurd (hplus _ hmem) (by decide)
    rw [String.toList_append, Text.splitOn_append hnone, hsplit, List.modifyHead_cons]
  have hread : readItem (plus.toList ++ first) = readItem first := by
    rw [hrun]
    exact readItem_replicate _ hblank
  apply ext
  intro f
  simp only [mem_parse_iff, hsigned, hsplit, List.mem_cons, or_and_right, exists_or,
    exists_eq_left, hread]

end FeatureSet

namespace CommandLine

open FeatureSet (parse together union)

/-- The features of items put together are the union of those of the items, whether an option holds
them or a configuration lists them. The set stays the same under another order of the items, with
items repeated, with items put together in groups, with items that are empty or blank added
anywhere, and with plus signs right in front of an item that begins with neither a blank nor a
comma. -/
theorem features_supplied (fs : List String) :
    parse (together fs) = union (fs.map parse) ∧ parse (together []) = ∅ ∧
    (∀ (o : Options) (c : Config),
      features { o with features := some (together fs) } c = union (fs.map parse) ∧
      features { o with features := none } { c with target := { c.target with features := fs } } =
        union (fs.map parse)) ∧
    (∀ gs, (∀ f, f ∈ gs ↔ f ∈ fs) → parse (together gs) = parse (together fs)) ∧
    (∀ groups : List (List String), groups.flatten = fs →
      parse (together (groups.map together)) = parse (together fs)) ∧
    ∀ before after,
      (∀ blank : String, (∀ c ∈ blank.toList, Text.isBlank c = true) → fs = before ++ after →
        parse (together (before ++ blank :: after)) = parse (together fs)) ∧
      ∀ plus item : String, (∀ c ∈ plus.toList, c = '+') →
        (∀ c ∈ item.toList.head?, Text.isBlank c = false ∧ c ≠ ',') →
        fs = before ++ item :: after →
        parse (together (before ++ (plus ++ item) :: after)) = parse (together fs) := by
  refine ⟨FeatureSet.parse_together fs, FeatureSet.parse_together [], fun o c => ⟨?_, ?_⟩, ?_, ?_,
    fun before after => ⟨?_, ?_⟩⟩
  · exact FeatureSet.parse_together fs
  · exact FeatureSet.parse_together fs
  · intro gs hsame
    apply FeatureSet.parse_together_congr
    intro f
    simp only [hsame]
  · rintro groups rfl
    apply FeatureSet.ext
    intro f
    simp only [FeatureSet.mem_parse_together, List.mem_map, List.mem_flatten]
    constructor
    · rintro ⟨_, ⟨group, hgroup, rfl⟩, hf⟩
      obtain ⟨item, hitem, hf⟩ := FeatureSet.mem_parse_together.1 hf
      exact ⟨item, ⟨group, hgroup, hitem⟩, hf⟩
    · rintro ⟨item, ⟨group, hgroup, hitem⟩, hf⟩
      exact ⟨_, ⟨group, hgroup, rfl⟩, FeatureSet.mem_parse_together.2 ⟨item, hitem, hf⟩⟩
  · rintro blank hblank rfl
    apply FeatureSet.ext
    intro f
    rw [FeatureSet.mem_parse_together_middle, FeatureSet.parse_of_blank hblank]
    exact or_iff_right (FeatureSet.not_mem_empty f)
  · rintro plus item hplus hitem rfl
    apply FeatureSet.ext
    intro f
    rw [FeatureSet.mem_parse_together_middle, FeatureSet.mem_parse_together_middle,
      FeatureSet.parse_plus hplus hitem]

/-- One item of two names, one with a plus sign of its own, and a blank one. -/
theorem features_supplied_mixed :
    parse (together ["sse2, +avx", "fma4"]) = union [parse "sse2, +avx", parse "fma4"] ∧
    parse (together ["fma4", "sse2, +avx", "fma4"]) = parse (together ["sse2, +avx", "fma4"]) ∧
    parse (together ["sse2, +avx,fma4"]) = parse (together ["sse2, +avx", "fma4"]) ∧
    parse (together ["sse2, +avx", " \t", "fma4"]) = parse (together ["sse2, +avx", "fma4"]) ∧
    parse (together ["++sse2, +avx", "fma4"]) = parse (together ["sse2, +avx", "fma4"]) := by
  obtain ⟨hunion, -, -, hitems, hgroups, hedits⟩ := features_supplied ["sse2, +avx", "fma4"]
  refine ⟨hunion, hitems _ (by simp [or_comm]), hgroups [["sse2, +avx", "fma4"]] rfl, ?_, ?_⟩
  · have hblank : ∀ c ∈ " \t".toList, Text.isBlank c = true :=
      List.forall_mem_cons.2 ⟨by decide, List.forall_mem_singleton.2 (by decide)⟩
    exact (hedits ["sse2, +avx"] ["fma4"]).1 " \t" hblank rfl
  · have hplus : ∀ c ∈ "++".toList, c = '+' :=
      List.forall_mem_cons.2 ⟨rfl, List.forall_mem_singleton.2 rfl⟩
    have hitem : ∀ c ∈ "sse2, +avx".toList.head?, Text.isBlank c = false ∧ c ≠ ',' := by
      rintro _ ⟨⟩
      decide
    exact (hedits [] ["fma4"]).2 "++" "sse2, +avx" hplus hitem rfl

end CommandLine

end LoweringAudit
