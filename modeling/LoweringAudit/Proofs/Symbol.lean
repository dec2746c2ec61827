import LoweringAudit.Proofs.Paired
import LoweringAudit.Proofs.Text.Leftmost
import LoweringAudit.Proofs.Text.Pieces
import LoweringAudit.Symbol
/-!
The symbols of a text and the places where they are mentioned. A mention is an at sign, `llvm.` and
a run of symbol characters; the symbol is what the run leaves without the dots at its end. Main
statements: the symbols extracted are those of all places where a mention begins, one for each and
in order, and they are the same as those of the mentions that a leftmost, longest search finds. Each
of them goes on behind `llvm.` unless its run has nothing but dots there.
-/
namespace LoweringAudit

/-- The symbol characters, range by range. -/
theorem Symbol.isSymbolChar_iff {c : Char} : isSymbolChar c = true ↔
    'A' ≤ c ∧ c ≤ 'Z' ∨ 'a' ≤ c ∧ c ≤ 'z' ∨ '0' ≤ c ∧ c ≤ '9' ∨ c = '_' ∨ c = '.' := by
  have hranges : isSymbolChar c = (decide ('A' ≤ c ∧ c ≤ 'Z') ||
      (decide ('a' ≤ c) && decide (c ≤ 'z')) || (decide ('0' ≤ c) && decide (c ≤ '9')) ||
      c == '_' || c == '.') := rfl
  simp only [hranges, Bool.or_eq_true, Bool.and_eq_true, decide_eq_true_eq, beq_iff_eq, or_assoc]

/-- A name made of symbol characters. -/
def Symbolic (op : List Char) : Prop :=
  ∀ c ∈ op, Symbol.isSymbolChar c = true

instance (op : List Char) : Decidable (Symbolic op) :=
  decidable_of_iff (op.all Symbol.isSymbolChar = true) List.all_eq_true

theorem Symbolic.append {s t : List Char} (hs : Symbolic s) (ht : Symbolic t) :
    Symbolic (s ++ t) := by
  intro c hc
  rcases List.mem_append.1 hc with hc | hc
  · exact hs c hc
  · exact ht c hc

namespace Symbol

variable {text run rest s t : List Char} {i : Nat}

/-- `llvm.` and at least one symbol character more. -/
def IsRun (run : List Char) : Prop :=
  ∃ tail, tail ≠ [] ∧ Symbolic tail ∧ run = root ++ tail

/-- The text does not go on with a symbol character. -/
def Ends (rest : List Char) : Prop :=
  ∀ c ∈ rest.head?, isSymbolChar c = false

/-- The symbol of a run is all of it but the dots at its end. -/
def Names (run s : List Char) : Prop :=
  (∃ n, run = s ++ List.replicate n '.') ∧ s.getLast? ≠ some '.'

theorem IsRun.symbolic (h : IsRun run) : Symbolic run := by
  obtain ⟨tail, -, htail, rfl⟩ := h
  exact Symbolic.append (by decide) htail

theorem names_iff : Names run s ↔ s = dropFinalDots run :=
  Text.eq_rdropWhile_iff.symm

theorem Names.symbolic (h : Names run s) (hrun : Symbolic run) : Symbolic s := by
  obtain ⟨⟨n, rfl⟩, -⟩ := h
  exact fun c hc => hrun c (List.mem_append_left _ hc)

/-- A run of symbol characters that the text does not go on is read as a whole. -/
theorem takeWhile_append (hrun : Symbolic run) (hrest : Ends rest) :
    (run ++ rest).takeWhile isSymbolChar = run :=
  (Text.span_append hrun hrest).1

theorem leading?_eq_some_iff : leading? text = some s ↔
    ∃ run rest, text = run ++ rest ∧ IsRun run ∧ Ends rest ∧ Names run s := by
  constructor
  · intro h
    unfold leading? at h
    split at h
    · next hroot =>
      obtain ⟨after, rfl⟩ := List.isPrefixOf_iff_prefix.1 hroot
      rw [List.drop_left] at h
      split at h
      · cases h
      · next hne =>
        cases h
        refine ⟨root ++ after.takeWhile isSymbolChar, after.dropWhile isSymbolChar, ?_,
          ⟨_, hne, fun c hc => List.mem_takeWhile_imp hc, rfl⟩, ?_, names_iff.2 rfl⟩
        · rw [List.append_assoc, List.takeWhile_append_dropWhile]
        · intro c hc
          have hnot := List.head?_dropWhile_not isSymbolChar after
          rw [Option.mem_def.1 hc] at hnot
          simpa using hnot
    · cases h
  · rintro ⟨run, rest, rfl, ⟨tail, hne, htail, rfl⟩, hrest, hs⟩
    have hroot : root.isPrefixOf (root ++ tail ++ rest) = true := by
      rw [List.isPrefixOf_iff_prefix, List.append_assoc]
      exact List.prefix_append _ _
    have htake : ((root ++ tail ++ rest).drop root.length).takeWhile isSymbolChar = tail := by
      rw [List.append_assoc, List.drop_left, takeWhile_append htail hrest]
    rw [leading?, if_pos hroot, htake, names_iff.1 hs]
    cases tail with
    | nil => exact absurd rfl hne
    | cons c tail => rfl

theorem leading?_eq_none_iff :
    leading? text = none ↔ ∀ c, isSymbolChar c = true → ¬ root ++ [c] <+: text := by
  constructor
  · rintro h c hc ⟨after, rfl⟩
    have hroot : root.isPrefixOf (root ++ [c] ++ after) = true := by
      rw [List.isPrefixOf_iff_prefix, List.append_assoc]
      exact List.prefix_append _ _
    rw [leading?, if_pos hroot, List.append_assoc, List.drop_left] at h
    simp [hc] at h
  · intro h
    cases hlead : leading? text with
    | none => rfl
    | some s =>
      obtain ⟨run, rest, rfl, ⟨tail, hne, htail, rfl⟩, -, -⟩ := leading?_eq_some_iff.1 hlead
      obtain ⟨c, tail, rfl⟩ := List.exists_cons_of_ne_nil hne
      exact absurd ⟨tail ++ rest, by simp⟩ (h c (htail c List.mem_cons_self))

/-- At this place stands an at sign, `llvm.` and a symbol character. -/
def StandsAt (text : List Char) (i : Nat) : Prop :=
  ∃ c, isSymbolChar c = true ∧ '@' :: (root ++ [c]) <+: text.drop i

/-- At this place stands an at sign and a run as long as it can be, and this is its symbol. -/
def WrittenAt (text : List Char) (i : Nat) (s : List Char) : Prop :=
  ∃ run rest, text.drop i = '@' :: (run ++ rest) ∧ IsRun run ∧ Ends rest ∧ Names run s

theorem standsAt_zero_iff {c : Char} :
    StandsAt (c :: rest) 0 ↔ c = '@' ∧ leading? rest ≠ none := by
  simp only [StandsAt, List.drop_zero, List.cons_prefix_cons, ne_eq, leading?_eq_none_iff,
    not_forall, not_not, exists_prop]
  constructor
  · rintro ⟨d, hd, he, hbegins⟩
    exact ⟨he.symm, d, hd, hbegins⟩
  · rintro ⟨he, d, hd, hbegins⟩
    exact ⟨d, hd, he.symm, hbegins⟩

/-- One step of the scan: the place is passed over, or the symbol that is mentioned there is
found. -/
theorem scan_step (c : Char) (rest : List Char) :
    (¬ StandsAt (c :: rest) 0 ∧ scan (c :: rest) = scan rest) ∨
      ∃ s, StandsAt (c :: rest) 0 ∧ WrittenAt (c :: rest) 0 s ∧
        scan (c :: rest) = s :: scan rest := by
  by_cases hc : c = '@'
  · subst hc
    cases hlead : leading? rest with
    | none =>
      refine .inl ⟨fun h => (standsAt_zero_iff.1 h).2 hlead, ?_⟩
      rw [scan_at, hlead]
      rfl
    | some s =>
      obtain ⟨run, after, rfl, hrun, hafter, hs⟩ := leading?_eq_some_iff.1 hlead
      refine .inr ⟨s, standsAt_zero_iff.2 ⟨rfl, by simp [hlead]⟩, ?_, ?_⟩
      · exact ⟨run, after, rfl, hrun, hafter, hs⟩
      · rw [scan_at, hlead]
        rfl
  · exact .inl ⟨fun h => hc (standsAt_zero_iff.1 h).1, scan_cons_of_ne hc rest⟩

/-- The places where mentions begin, and the symbols that the scan gives for them. -/
theorem exists_places (text : List Char) :
    ∃ places : List Nat, places.Pairwise (· < ·) ∧ (∀ i, i ∈ places ↔ StandsAt text i) ∧
      List.Forall₂ (WrittenAt text) places (scan text) := by
  induction text with
  | nil => exact ⟨[], .nil, by simp [StandsAt], .nil⟩
  | cons c rest ih =>
    obtain ⟨places, hincreasing, hmem, hwritten⟩ := ih
    have hshifted : (places.map (· + 1)).Pairwise (· < ·) := by
      rw [List.pairwise_map]
      exact hincreasing.imp fun h => Nat.succ_lt_succ h
    have hafter : List.Forall₂ (WrittenAt (c :: rest)) (places.map (· + 1)) (scan rest) :=
      List.forall₂_map_left_iff.2 hwritten
    have hlater : ∀ i, i + 1 ∈ places.map (· + 1) ↔ StandsAt (c :: rest) (i + 1) := by
      intro i
      refine Iff.trans ?_ (hmem i)
      simp
    rcases scan_step c rest with ⟨hnone, hscan⟩ | ⟨s, hstands, hs, hscan⟩
    · refine ⟨places.map (· + 1), hshifted, fun i => ?_, hscan ▸ hafter⟩
      cases i with
      | zero => simp [hnone]
      | succ i => exact hlater i
    · refine ⟨0 :: places.map (· + 1), ?_, fun i => ?_, hscan ▸ .cons hs hafter⟩
      · exact List.pairwise_cons.2 ⟨by simp, hshifted⟩
      · cases i with
        | zero => simp [hstands]
        | succ i => simpa using hlater i

theorem WrittenAt.standsAt (h : WrittenAt text i s) : StandsAt text i := by
  obtain ⟨run, rest, htext, ⟨tail, hne, htail, rfl⟩, -, -⟩ := h
  obtain ⟨c, tail, rfl⟩ := List.exists_cons_of_ne_nil hne
  refine ⟨c, htail c List.mem_cons_self, tail ++ rest, ?_⟩
  rw [htext]
  simp

/-- A place has one symbol at most. -/
theorem WrittenAt.unique (hs : WrittenAt text i s) (ht : WrittenAt text i t) : s = t := by
  obtain ⟨run, rest, htext, hrun, hrest, hs⟩ := hs
  obtain ⟨run', rest', htext', hrun', hrest', ht⟩ := ht
  have hsame : run ++ rest = run' ++ rest' := (List.cons.inj (htext.symm.trans htext')).2
  have htake := takeWhile_append hrun'.symbolic hrest'
  rw [← hsame, takeWhile_append hrun.symbolic hrest] at htake
  rw [names_iff.1 hs, names_iff.1 ht, htake]

theorem mem_scan_iff : s ∈ scan text ↔ ∃ i, WrittenAt text i s := by
  obtain ⟨places, -, hmem, hwritten⟩ := exists_places text
  constructor
  · intro hs
    obtain ⟨i, -, hi⟩ := Paired.exists_left hwritten hs
    exact ⟨i, hi⟩
  · rintro ⟨i, hi⟩
    obtain ⟨t, ht, hit⟩ := Paired.exists_right hwritten ((hmem i).2 hi.standsAt)
    exact hi.unique hit ▸ ht

theorem symbolic_of_mem_scan (h : s ∈ scan text) : Symbolic s := by
  obtain ⟨i, run, rest, -, hrun, -, hs⟩ := mem_scan_iff.1 h
  exact hs.symbolic hrun.symbolic

/-- An at sign and a run. -/
def IsMention (mention : List Char) : Prop :=
  ∃ run, mention = '@' :: run ∧ IsRun run

theorem not_isMention_nil : ¬ IsMention [] := by
  rintro ⟨run, hrun, -⟩
  cases hrun

theorem standsAt_iff :
    StandsAt text i ↔ ∃ mention, IsMention mention ∧ mention <+: text.drop i := by
  constructor
  · rintro ⟨c, hc, hbegins⟩
    have htail : Symbolic [c] := fun d hd => List.mem_singleton.1 hd ▸ hc
    exact ⟨_, ⟨_, rfl, [c], List.cons_ne_nil c [], htail, rfl⟩, hbegins⟩
  · rintro ⟨mention, ⟨run, rfl, tail, hne, htail, rfl⟩, hbegins⟩
    obtain ⟨c, tail, rfl⟩ := List.exists_cons_of_ne_nil hne
    refine ⟨c, htail c List.mem_cons_self, List.IsPrefix.trans ⟨tail, ?_⟩ hbegins⟩
    simp

theorem scan_append_of_not_standsAt
    (h : ∀ i < s.length, ¬ StandsAt (s ++ t) i) : scan (s ++ t) = scan t := by
  induction s with
  | nil => rfl
  | cons c s ih =>
    have hlater : ∀ i < s.length, ¬ StandsAt (s ++ t) i := fun i hi =>
      h (i + 1) (Nat.succ_lt_succ hi)
    rcases scan_step c (s ++ t) with ⟨-, hscan⟩ | ⟨-, hstands, -⟩
    · rw [List.cons_append, hscan, ih hlater]
    · exact absurd hstands (h 0 (Nat.zero_lt_succ _))

theorem scan_append_of_not_mem (h : '@' ∉ s) : scan (s ++ t) = scan t := by
  induction s with
  | nil => rfl
  | cons c s ih =>
    have hc : c ≠ '@' := fun he => h (he ▸ List.mem_cons_self)
    rw [List.cons_append, scan_cons_of_ne hc, ih fun hmem => h (List.mem_cons_of_mem c hmem)]

/-- No mention begins within a run. -/
theorem scan_append_of_symbolic (h : Symbolic run) : scan (run ++ rest) = scan rest :=
  scan_append_of_not_mem fun hmem => absurd (h '@' hmem) (by decide)

/-- The mentions that a search finds are those of the symbols that the scan gives. -/
theorem names_of_finds {mentions : List (List Char)} (h : Text.Finds IsMention text mentions) :
    List.Forall₂ (fun mention s => ∃ run, mention = '@' :: run ∧ Names run s) mentions
      (scan text) := by
  induction h with
  | @nothing text absent =>
    have hnone : ∀ i < text.length, ¬ StandsAt (text ++ []) i := by
      intro i _ hstands
      obtain ⟨mention, hmention, hbegins⟩ := standsAt_iff.1 hstands
      rw [List.append_nil] at hbegins
      exact absent mention hmention (hbegins.isInfix.trans (List.drop_suffix i text).isInfix)
    have hscan := scan_append_of_not_standsAt hnone
    rw [List.append_nil] at hscan
    rw [hscan]
    exact .nil
  | @next before mention rest mentions isWord leftmost longest later ih =>
    have hnone : ∀ i < before.length, ¬ StandsAt (before ++ (mention ++ rest)) i := by
      intro i hi hstands
      obtain ⟨other, hother, hbegins⟩ := standsAt_iff.1 hstands
      exact leftmost i hi other hother hbegins
    obtain ⟨run, rfl, tail, hne, htail, rfl⟩ := isWord
    have hrun : IsRun (root ++ tail) := ⟨tail, hne, htail, rfl⟩
    -- A symbol character behind the run would make the mention longer.
    have hrest : Ends rest := by
      intro c hc
      obtain ⟨after, rfl⟩ := List.head?_eq_some_iff.1 hc
      by_contra hsymbol
      have hsymbolic : Symbolic [c] := by
        intro d hd
        rw [List.mem_singleton.1 hd]
        simpa using hsymbol
      have hlong := longest ('@' :: (root ++ (tail ++ [c])))
        ⟨_, rfl, tail ++ [c], by simp, htail.append hsymbolic, rfl⟩ ⟨after, by simp⟩
      simp only [List.length_cons, List.length_append] at hlong
      omega
    have hlead : leading? (root ++ tail ++ rest) = some (dropFinalDots (root ++ tail)) :=
      leading?_eq_some_iff.2 ⟨_, rest, rfl, hrun, hrest, names_iff.2 rfl⟩
    rw [scan_append_of_not_standsAt hnone, List.cons_append, scan_at, hlead,
      scan_append_of_symbolic hrun.symbolic]
    exact .cons ⟨_, rfl, names_iff.2 rfl⟩ ih

/-- What is extracted from a text: for each place where an at sign, `llvm.` and a symbol character
stand, and in order of place, the longest run behind the at sign without the dots at its end. These
are the symbols of the mentions that a leftmost, longest search finds, so that no mention is lost to
an earlier one. -/
theorem extract_places (text : List Char) :
    (∃ places : List Nat, places.Pairwise (· < ·) ∧ (∀ i, i ∈ places ↔ StandsAt text i) ∧
      List.Forall₂ (fun i s => WrittenAt text i s.toList) places (extract text)) ∧
    ∃ mentions, Text.Finds IsMention text mentions ∧
      List.Forall₂ (fun mention s => ∃ run, mention = '@' :: run ∧ Names run s.toList) mentions
        (extract text) := by
  have hlists : ∀ {α : Type} {R : α → List Char → Prop} {l : List α},
      List.Forall₂ R l (scan text) → List.Forall₂ (fun a s => R a s.toList) l (extract text) := by
    intro α R l h
    rw [extract, List.forall₂_map_right_iff]
    simpa only [String.toList_ofList] using h
  obtain ⟨places, hincreasing, hmem, hwritten⟩ := exists_places text
  obtain ⟨mentions, hmentions⟩ := Text.exists_finds not_isMention_nil text
  exact ⟨⟨places, hincreasing, hmem, hlists hwritten⟩,
    mentions, hmentions, hlists (names_of_finds hmentions)⟩

/-- `llvm`, which a run leaves when nothing but dots follow in it. -/
def bare : List Char :=
  root.dropLast

theorem Names.unique (hs : Names run s) (ht : Names run t) : s = t :=
  (names_iff.1 hs).trans (names_iff.1 ht).symm

theorem names_bare (n : Nat) : Names (root ++ List.replicate n '.') bare :=
  ⟨⟨n + 1, rfl⟩, by decide⟩

/-- A run is dots only behind `llvm`, or its symbol goes on behind `llvm.` as well. -/
theorem IsRun.symbol_cases (hrun : IsRun run) (hs : Names run s) :
    (s = bare ∧ ∃ n, run = root ++ List.replicate (n + 1) '.') ∨
      ∃ tail, tail ≠ [] ∧ s = root ++ tail := by
  obtain ⟨tail, hne, -, rfl⟩ := hrun
  obtain ⟨⟨n, hn⟩, hlast⟩ := names_iff.2 (rfl : dropFinalDots tail = dropFinalDots tail)
  by_cases hnil : dropFinalDots tail = []
  · rw [hnil, List.nil_append] at hn
    cases n with
    | zero => exact absurd hn hne
    | succ n =>
      subst hn
      exact .inl ⟨hs.unique (names_bare (n + 1)), n, rfl⟩
  · have hlonger : Names (root ++ tail) (root ++ dropFinalDots tail) := by
      refine ⟨⟨n, ?_⟩, ?_⟩
      · rw [List.append_assoc, ← hn]
      · rwa [List.getLast?_append_of_ne_nil _ hnil]
    exact .inr ⟨_, hnil, hs.unique hlonger⟩

/-- What is true of everything extracted from the text: symbol characters, none of them a dot at the
end, and mentioned there. -/
structure Plain (text s : List Char) : Prop where
  symbolic : Symbolic s
  trimmed : s.getLast? ≠ some '.'
  mentioned : '@' :: s <:+: text

/-- A symbol that goes on behind `llvm.`. -/
structure Genuine (text s : List Char) : Prop extends Plain text s where
  rooted : ∃ tail, tail ≠ [] ∧ s = root ++ tail

/-- Somewhere the text has an at sign, `llvm.` and a run of nothing but dots. -/
def DotsOnly (text : List Char) : Prop :=
  ∃ before n rest,
    text = before ++ '@' :: (root ++ List.replicate (n + 1) '.' ++ rest) ∧ Ends rest

theorem WrittenAt.plain (h : WrittenAt text i s) : Plain text s := by
  obtain ⟨run, rest, htext, hrun, -, hs⟩ := h
  refine ⟨hs.symbolic hrun.symbolic, hs.2, ?_⟩
  obtain ⟨⟨n, rfl⟩, -⟩ := hs
  have hbegins : '@' :: s <+: text.drop i :=
    ⟨List.replicate n '.' ++ rest, by rw [htext]; simp⟩
  exact hbegins.isInfix.trans (List.drop_suffix i text).isInfix

theorem not_genuine_bare : ¬ Genuine text bare := by
  rintro ⟨-, tail, -, h⟩
  have hlength := congrArg List.length h
  simp [bare, root] at hlength

theorem bare_mem_scan_iff : bare ∈ scan text ↔ DotsOnly text := by
  rw [mem_scan_iff]
  constructor
  · rintro ⟨i, run, rest, htext, hrun, hrest, hs⟩
    rcases hrun.symbol_cases hs with ⟨-, n, rfl⟩ | ⟨tail, -, h⟩
    · exact ⟨text.take i, n, rest, by rw [← htext, List.take_append_drop], hrest⟩
    · have hlength := congrArg List.length h
      simp [bare, root] at hlength
  · rintro ⟨before, n, rest, rfl, hrest⟩
    have hdots : Symbolic (List.replicate (n + 1) '.') := by
      intro c hc
      rw [List.eq_of_mem_replicate hc]
      decide
    have hrun : IsRun (root ++ List.replicate (n + 1) '.') := ⟨_, by simp, hdots, rfl⟩
    exact ⟨before.length, _, rest, List.drop_left, hrun, hrest, names_bare (n + 1)⟩

/-- Everything extracted from a text is made of symbol characters, does not end in a dot and is
mentioned in the text. It is `llvm.` and something more unless it is the bare `llvm`; so all that is
extracted is genuine just when no run of the text is nothing but dots behind `llvm`. -/
theorem genuine_of_mem_extract (text : List Char) :
    (∀ s ∈ extract text, Plain text s.toList ∧ (s = "llvm" ∨ Genuine text s.toList)) ∧
      ((∀ s ∈ extract text, Genuine text s.toList) ↔ ¬ DotsOnly text) := by
  have hentry : ∀ s ∈ extract text, Plain text s.toList ∧ (s = "llvm" ∨ Genuine text s.toList) := by
    intro s hs
    obtain ⟨symbol, hsymbol, rfl⟩ := List.mem_map.1 hs
    obtain ⟨i, hwritten⟩ := mem_scan_iff.1 hsymbol
    have hplain := hwritten.plain
    obtain ⟨run, rest, -, hrun, -, hnames⟩ := hwritten
    rw [String.toList_ofList]
    refine ⟨hplain, ?_⟩
    rcases hrun.symbol_cases hnames with ⟨rfl, -⟩ | hrooted
    · exact .inl rfl
    · exact .inr ⟨hplain, hrooted⟩
  have hbare : "llvm" ∈ extract text ↔ DotsOnly text := by
    rw [← bare_mem_scan_iff, extract, List.mem_map]
    constructor
    · rintro ⟨symbol, hsymbol, h⟩
      have hsame : symbol = bare := by
        rw [← String.toList_ofList (l := symbol), h]
        rfl
      exact hsame ▸ hsymbol
    · exact fun h => ⟨bare, h, rfl⟩
  refine ⟨hentry, fun hgenuine hdots => ?_, fun hdots s hs => ?_⟩
  · exact not_genuine_bare (hgenuine "llvm" (hbare.2 hdots))
  · rcases (hentry s hs).2 with rfl | hgenuine
    · exact absurd (hbare.1 hs) hdots
    · exact hgenuine

/-- Two dots behind `llvm` leave a name that no `llvm.` symbol has. -/
theorem bare_extracted :
    "llvm" ∈ extract "@llvm..".toList ∧ ¬ Genuine "@llvm..".toList "llvm".toList :=
  ⟨by decide, not_genuine_bare⟩

end Symbol

end LoweringAudit
