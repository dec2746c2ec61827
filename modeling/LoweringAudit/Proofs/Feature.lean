import LoweringAudit.Feature
import LoweringAudit.Proofs.Text.Pieces
import Mathlib.Algebra.Order.BigOperators.Group.List
import Mathlib.Algebra.Order.Group.Nat
/-!
What reading a list of features leaves of its items. An item is trimmed and then loses its plus
signs, in this order and once, so that a blank between a plus sign and a name stays in front of the
name. Main statement: the names read are free of everything else, and the set is read again from its
own list exactly when no item has such a blank.
-/
namespace LoweringAudit.FeatureSet

variable {item list : List Char} {f : String} {s : FeatureSet}

/-- What a name read from a list is in any case. -/
structure IsName (name : List Char) : Prop where
  nonempty : name ≠ []
  noComma : ',' ∉ name
  noPlus : name.head? ≠ some '+'
  noBlankEnd : ∀ c ∈ name.getLast?, Text.isBlank c = false

/-- Once trimmed, the item begins with plus signs and has a blank right after them. -/
def BlankAfterPlus (item : List Char) : Prop :=
  ∃ n c rest, Text.trim item = List.replicate (n + 1) '+' ++ c :: rest ∧ Text.isBlank c = true

theorem readItem_suffix_trim (item : List Char) : readItem item <:+ Text.trim item :=
  List.dropWhile_suffix _

theorem isBlank_getLast?_readItem (item : List Char) :
    ∀ c ∈ (readItem item).getLast?, Text.isBlank c = false := by
  intro c hc
  obtain ⟨plus, hplus⟩ := readItem_suffix_trim item
  apply (Text.trimmed_trim item).2
  rw [← hplus, List.getLast?_append, Option.mem_def.1 hc]
  rfl

theorem head?_readItem (item : List Char) : (readItem item).head? ≠ some '+' := by
  intro hhead
  have hnone := List.head?_dropWhile_not (· == '+') (Text.trim item)
  rw [readItem] at hhead
  simp [hhead] at hnone

theorem isName_readItem (hcomma : ',' ∉ item) (h : readItem item ≠ []) :
    IsName (readItem item) where
  nonempty := h
  noComma hc := hcomma (Text.mem_of_mem_trim ((readItem_suffix_trim item).subset hc))
  noPlus := head?_readItem item
  noBlankEnd := isBlank_getLast?_readItem item

/-- Reading a name again changes nothing exactly when it has no blank in front. -/
theorem readItem_eq_self_iff {name : List Char} (h : IsName name) :
    readItem name = name ↔ Text.Trimmed name := by
  constructor
  · intro hself
    have hlong : name.length ≤ (Text.trim name).length := by
      have hsuffix := (readItem_suffix_trim name).length_le
      rwa [hself] at hsuffix
    have htrim : Text.trim name = name :=
      (Text.trim_sublist name).eq_of_length_le hlong
    rw [← htrim]
    exact Text.trimmed_trim name
  · intro htrimmed
    obtain ⟨c, rest, rfl⟩ := List.exists_cons_of_ne_nil h.nonempty
    have hplus : (c == '+') = false := by simpa using h.noPlus
    rw [readItem, Text.trim_eq_self htrimmed, List.dropWhile_cons_of_neg (by simp [hplus])]

theorem length_readItem_lt {name : List Char} (h : readItem name ≠ name) :
    (readItem name).length < name.length := by
  have hsub : (readItem name).Sublist name :=
    (readItem_suffix_trim name).sublist.trans (Text.trim_sublist name)
  exact Nat.lt_of_le_of_ne hsub.length_le fun hlength => h (hsub.eq_of_length hlength)

theorem mem_parse_iff {list : String} :
    f ∈ parse list ↔ f ≠ "" ∧ ∃ item ∈ list.toList.splitOn ',', readItem item = f.toList := by
  simp only [parse, mem_ofList, List.mem_map, List.mem_filter, Bool.not_eq_true',
    List.isEmpty_eq_false_iff]
  constructor
  · rintro ⟨name, ⟨⟨item, hitem, rfl⟩, hne⟩, rfl⟩
    exact ⟨by simpa using hne, item, hitem, String.toList_ofList.symm⟩
  · rintro ⟨hne, item, hitem, hread⟩
    exact ⟨readItem item, ⟨⟨item, hitem, rfl⟩, by simpa [hread] using hne⟩,
      by rw [hread, String.ofList_toList]⟩

theorem isName_of_mem_parse {list : String} (h : f ∈ parse list) : IsName f.toList := by
  obtain ⟨hne, item, hitem, hread⟩ := mem_parse_iff.1 h
  rw [← hread]
  apply isName_readItem (Text.mem_piece hitem).1
  rw [hread]
  simpa using hne

/-- A plus sign in front keeps the blanks that a name begins with. -/
theorem readItem_on {name : List Char} (h : IsName name) : readItem ('+' :: name) = name := by
  obtain ⟨c, rest, rfl⟩ := List.exists_cons_of_ne_nil h.nonempty
  have htrimmed : Text.Trimmed ('+' :: c :: rest) := by
    refine ⟨fun d hd => ?_, fun d hd => h.noBlankEnd d ?_⟩
    · cases hd
      decide
    · rwa [List.getLast?_cons_cons] at hd
  have hplus : (c == '+') = false := by simpa using h.noPlus
  rw [readItem, Text.trim_eq_self htrimmed, List.dropWhile_cons_of_pos (by simp),
    List.dropWhile_cons_of_neg (by simp [hplus])]

theorem mem_parse_on (h : IsName f.toList) : f ∈ parse ("+" ++ f) := by
  have hcomma : ',' ∉ '+' :: f.toList := by simpa using h.noComma
  have hitems : ("+" ++ f).toList.splitOn ',' = ['+' :: f.toList] := by
    have hsplit := Text.splitOn_append hcomma []
    simpa using hsplit
  have hitem : '+' :: f.toList ∈ ("+" ++ f).toList.splitOn ',' := by
    rw [hitems]
    exact List.mem_singleton_self _
  refine mem_parse_iff.2 ⟨?_, _, hitem, readItem_on h⟩
  rintro rfl
  exact h.nonempty rfl

theorem exists_mem_parse_iff : (∃ list, f ∈ parse list) ↔ IsName f.toList :=
  ⟨fun ⟨_, h⟩ => isName_of_mem_parse h, fun h => ⟨_, mem_parse_on h⟩⟩

/-- The items of a set's own list are its names. -/
theorem mem_parse_joined_iff (h : ∀ g ∈ s, ',' ∉ g.toList) :
    f ∈ parse s.joined ↔ f ≠ "" ∧ ∃ g ∈ s, readItem g.toList = f.toList := by
  have hcomma : ",".toList = [','] := rfl
  rw [mem_parse_iff, joined, String.toList_intercalate, hcomma]
  refine and_congr_right fun hne => ?_
  by_cases hnil : s.toList = []
  · -- The list of the empty set has one item, which is empty.
    have hitem : readItem [] ≠ f.toList := by
      intro hread
      exact hne (String.toList_eq_nil_iff.1 hread.symm)
    simp [hnil, mem_def, hitem]
  · rw [List.splitOn_intercalate ',' (by simpa [mem_def] using h) (by simpa using hnil)]
    simp [mem_def]

/-- Where a step makes all that it moves shorter, and every name of a list comes from one of its
names by a step, the step moves none of them. -/
theorem fixed_of_onto {names : List (List Char)} {step : List Char → List Char}
    (hshort : ∀ name ∈ names, step name ≠ name → (step name).length < name.length)
    (honto : ∀ name ∈ names, ∃ longer ∈ names, step longer = name) :
    ∀ name ∈ names, step name = name := by
  intro name hname
  by_contra hmoved
  -- A name that is moved comes from a longer one that is moved as well, and so without end.
  have hlong : ∀ n, ∃ longer ∈ names, step longer ≠ longer ∧ n ≤ longer.length := by
    intro n
    induction n with
    | zero => exact ⟨name, hname, hmoved, Nat.zero_le _⟩
    | succ n ih =>
      obtain ⟨m, hm, hmoves, hn⟩ := ih
      obtain ⟨longer, hlonger, rfl⟩ := honto m hm
      have hne : step longer ≠ longer := by
        intro hfixed
        rw [hfixed] at hmoves
        exact hmoves hfixed
      have hlt := hshort longer hlonger hne
      exact ⟨longer, hlonger, hne, by omega⟩
  obtain ⟨longer, hlonger, -, hlength⟩ := hlong ((names.map List.length).sum + 1)
  have hsum : longer.length ≤ (names.map List.length).sum :=
    List.le_sum_of_mem (List.mem_map_of_mem hlonger)
  omega

theorem parse_joined_eq_self_iff (h : ∀ f ∈ s, IsName f.toList) :
    parse s.joined = s ↔ ∀ f ∈ s, Text.Trimmed f.toList := by
  have hmem : ∀ f, f ∈ parse s.joined ↔ f ≠ "" ∧ ∃ g ∈ s, readItem g.toList = f.toList := fun f =>
    mem_parse_joined_iff fun g hg => (h g hg).noComma
  constructor
  · intro hself f hf
    have honto : ∀ name ∈ s.toList.map String.toList,
        ∃ longer ∈ s.toList.map String.toList, readItem longer = name := by
      intro name hname
      obtain ⟨f, hf, rfl⟩ := List.mem_map.1 hname
      rw [← mem_def, ← hself] at hf
      obtain ⟨-, g, hg, hread⟩ := (hmem f).1 hf
      exact ⟨g.toList, List.mem_map_of_mem hg, hread⟩
    have hfixed := fixed_of_onto (fun _ _ => length_readItem_lt) honto f.toList
      (List.mem_map_of_mem hf)
    exact (readItem_eq_self_iff (h f hf)).1 hfixed
  · intro htrimmed
    have hfixed : ∀ f ∈ s, readItem f.toList = f.toList := fun f hf =>
      (readItem_eq_self_iff (h f hf)).2 (htrimmed f hf)
    apply ext
    intro f
    rw [hmem]
    constructor
    · rintro ⟨-, g, hg, hread⟩
      rw [hfixed g hg, String.toList_inj] at hread
      exact hread ▸ hg
    · intro hf
      refine ⟨fun hempty => (h f hf).nonempty ?_, f, hf, hfixed f hf⟩
      rw [hempty]
      rfl

/-- What is read from an item has a blank in front when there is one after its plus signs. -/
theorem trimmed_readItem_iff (item : List Char) :
    Text.Trimmed (readItem item) ↔ ¬ BlankAfterPlus item := by
  constructor
  · rintro htrimmed ⟨n, c, rest, htrim, hblank⟩
    have hplus : (c == '+') = false := by
      rw [beq_eq_false_iff_ne]
      rintro rfl
      exact absurd hblank (by decide)
    have hread : readItem item = c :: rest := by
      rw [readItem, htrim, List.dropWhile_append_of_pos (by simp)]
      simp [hplus]
    rw [hread] at htrimmed
    rw [htrimmed.1 c rfl] at hblank
    cases hblank
  · intro hnone
    refine ⟨fun c hc => ?_, isBlank_getLast?_readItem item⟩
    obtain ⟨rest, hread⟩ := List.head?_eq_some_iff.1 hc
    obtain ⟨n, hplus⟩ : ∃ n, (Text.trim item).takeWhile (· == '+') = List.replicate n '+' :=
      ⟨_, List.eq_replicate_of_mem fun b hb =>
        eq_of_beq (List.all_eq_true.1 List.all_takeWhile b hb)⟩
    have htrim : Text.trim item = List.replicate n '+' ++ c :: rest := by
      rw [← hread, ← hplus]
      exact List.takeWhile_append_dropWhile.symm
    cases n with
    | zero =>
      -- Without plus signs the item is read as it was trimmed.
      apply (Text.trimmed_trim item).1
      rw [htrim]
      rfl
    | succ n => exact eq_false_of_ne_true fun hblank => hnone ⟨n, c, rest, htrim, hblank⟩

theorem trimmed_parse_iff {list : String} :
    (∀ f ∈ parse list, Text.Trimmed f.toList) ↔
      ∀ item ∈ list.toList.splitOn ',', ¬ BlankAfterPlus item := by
  simp only [← trimmed_readItem_iff, mem_parse_iff]
  constructor
  · intro h item hitem
    by_cases hne : readItem item = []
    · rw [hne]
      decide
    · have hf := h (String.ofList (readItem item))
        ⟨by simpa using hne, item, hitem, String.toList_ofList.symm⟩
      rwa [String.toList_ofList] at hf
  · rintro h f ⟨-, item, hitem, hread⟩
    rw [← hread]
    exact h item hitem

/-- The names of a list are names without comma, plus sign in front or blank at the end. Their own
list is read as the same names exactly when none of them has a blank in front either, and that is
when no item of the list has a blank right after its plus signs. -/
theorem parse_joined_parse (list : String) :
    (∀ f ∈ parse list, IsName f.toList) ∧
    (parse (parse list).joined = parse list ↔ ∀ f ∈ parse list, Text.Trimmed f.toList) ∧
    ((∀ f ∈ parse list, Text.Trimmed f.toList) ↔
      ∀ item ∈ list.toList.splitOn ',', ¬ BlankAfterPlus item) :=
  ⟨fun _ => isName_of_mem_parse, parse_joined_eq_self_iff fun _ => isName_of_mem_parse,
    trimmed_parse_iff⟩

/-- The blank after the plus sign becomes part of the name, and is gone when the name is read
again. -/
theorem parse_joined_parse_blank :
    (∃ f ∈ parse "+ fma4", ¬ Text.Trimmed f.toList) ∧
      parse (parse "+ fma4").joined ≠ parse "+ fma4" := by
  have hmem : " fma4" ∈ parse "+ fma4" := by decide
  have hblank : ¬ Text.Trimmed " fma4".toList := by decide
  refine ⟨⟨" fma4", hmem, hblank⟩, ?_⟩
  decide

end LoweringAudit.FeatureSet
