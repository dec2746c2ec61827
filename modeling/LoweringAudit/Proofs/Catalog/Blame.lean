import LoweringAudit.Proofs.Catalog.Grammar
import LoweringAudit.Proofs.Earliest
/-!
Which line a refused text is blamed on, and for what. A line can be at fault in its form, whatever
the other lines are, or in its content, which may repeat the key of a line above it. Main statement:
a text is refused for the first line at fault in its form, and where there is none for the first one
at fault in its content, and the error has this line's own number in the text.
-/
namespace LoweringAudit

theorem OperandKind.ofWord?_eq_none_iff {word : List Char} :
    ofWord? word = none ↔ ∀ k : OperandKind, ¬ k.NamedBy word := by
  simp only [← ofWord?_eq_some_iff]
  exact Option.eq_none_iff_forall_ne_some

theorem ElementType.ofWord?_eq_none_iff {word : List Char} :
    ofWord? word = none ↔ ∀ e : ElementType, ¬ e.NamedBy word := by
  simp only [← ofWord?_eq_some_iff]
  exact Option.eq_none_iff_forall_ne_some

namespace Catalog

variable {defaultFeature : String} {text line : List Char} {n : Nat} {c : Case} {e : CatalogError}

/-- Line `n` of the text, counted from 1 over blank lines and comments too, is neither of them, and
is `line` without the blanks at its ends. -/
def StatementAt (text : List Char) (n : Nat) (line : List Char) : Prop :=
  ∃ i raw, (text.splitOn '\n')[i]? = some raw ∧ n = i + 1 ∧ line = Text.trim raw ∧
    line ≠ [] ∧ line.head? ≠ some '#'

/-- What is wrong with the form of a line: the number of its fields, else its second field, else its
third. -/
inductive FormFault (n : Nat) (line : List Char) : CatalogError → Prop where
  | count (not_four : (fields line).length ≠ 4) (not_five : (fields line).length ≠ 5) :
      FormFault n line (.fieldCount n (fields line).length)
  | kind {name kind elem pattern : List Char} {feature : List (List Char)}
      (written : fields line = name :: kind :: elem :: pattern :: feature)
      (short : feature.length ≤ 1) (unknown : ∀ k : OperandKind, ¬ k.NamedBy kind) :
      FormFault n line (.unknownKind n (String.ofList kind))
  | elem {name kind elem pattern : List Char} {feature : List (List Char)} {k : OperandKind}
      (written : fields line = name :: kind :: elem :: pattern :: feature)
      (short : feature.length ≤ 1) (known : k.NamedBy kind)
      (unknown : ∀ e : ElementType, ¬ e.NamedBy elem) :
      FormFault n line (.unknownElem n (String.ofList elem))

/-- What is wrong with the case that a line writes: an empty name, else an empty pattern, else an
empty feature, else the key of a line above it. -/
inductive ContentFault (defaultFeature : String) (text : List Char) (n : Nat) (line : List Char) :
    CatalogError → Prop where
  | name {c : Case} (writes : Writes defaultFeature line c) (empty : c.name = "") :
      ContentFault defaultFeature text n line (.emptyName n)
  | pattern {c : Case} (writes : Writes defaultFeature line c) (name : c.name ≠ "")
      (empty : c.pattern = "") :
      ContentFault defaultFeature text n line (.emptyPattern n c.name)
  | feature {c : Case} (writes : Writes defaultFeature line c) (name : c.name ≠ "")
      (pattern : c.pattern ≠ "") (empty : c.feature = "") :
      ContentFault defaultFeature text n line (.emptyFeature n c.name)
  | duplicate {b c : Case} {m : Nat} {above : List Char} (writes : Writes defaultFeature line c)
      (complete : c.Complete) (is_above : m < n) (there : StatementAt text m above)
      (writes_above : Writes defaultFeature above b) (same : b.key = c.key) :
      ContentFault defaultFeature text n line (.duplicate n c.name c.kind c.elem)

/-- The error is the fault of the text's first line that has a fault of this sort. -/
def EarliestFault (text : List Char) (Fault : Nat → List Char → CatalogError → Prop)
    (e : CatalogError) : Prop :=
  ∃ n line, StatementAt text n line ∧ Fault n line e ∧
    ∀ m above d, m < n → StatementAt text m above → ¬ Fault m above d

theorem isCaseLine_eq_true_iff : isCaseLine line = true ↔ line ≠ [] ∧ line.head? ≠ some '#' := by
  cases line with
  | nil => simp [isCaseLine]
  | cons c r => simp [isCaseLine]

theorem mem_caseLines_iff : (n, line) ∈ caseLines text ↔ StatementAt text n line := by
  simp only [caseLines, List.mem_filter, List.mem_map, isCaseLine_eq_true_iff, StatementAt,
    Prod.mk.injEq, Prod.exists, List.mk_mem_zipIdx_iff_le_and_getElem?_sub]
  constructor
  · rintro ⟨⟨raw, m, ⟨hm, hraw⟩, rfl, rfl⟩, hline⟩
    exact ⟨m - 1, raw, hraw, by omega, rfl, hline⟩
  · rintro ⟨i, raw, hraw, rfl, rfl, hline⟩
    exact ⟨⟨raw, i + 1, ⟨by omega, by simpa using hraw⟩, rfl, rfl⟩, hline⟩

theorem increasing_caseLines (text : List Char) :
    (caseLines text).Pairwise fun p q => p.1 < q.1 := by
  apply List.Pairwise.filter
  exact List.pairwise_map.2 (Earliest.pairwise_zipIdx (text.splitOn '\n') 1)

/-- The first line with a fault of some sort is the earliest among the lines that are read. -/
theorem earliestFault_iff {Fault : Nat → List Char → CatalogError → Prop} :
    EarliestFault text Fault e ↔
      Earliest (fun p => Fault p.1 p.2 e) (fun p => ∀ d, ¬ Fault p.1 p.2 d) (caseLines text) := by
  rw [Earliest.iff_of_increasing (increasing_caseLines text)]
  simp only [Prod.exists, Prod.forall, mem_caseLines_iff, EarliestFault]
  constructor
  · rintro ⟨n, line, hline, hfault, hnone⟩
    exact ⟨n, line, hline, hfault, fun m above habove hlt d => hnone m above d hlt habove⟩
  · rintro ⟨n, line, hline, hfault, hnone⟩
    exact ⟨n, line, hline, hfault, fun m above d hlt habove => hnone m above habove hlt d⟩

theorem readFields_eq_error_iff {name kind elem pattern : List Char} {feature : String} :
    readFields n name kind elem pattern feature = .error e ↔
      (∀ k : OperandKind, ¬ k.NamedBy kind) ∧ e = .unknownKind n (String.ofList kind) ∨
        (∃ k : OperandKind, k.NamedBy kind) ∧ (∀ t : ElementType, ¬ t.NamedBy elem) ∧
          e = .unknownElem n (String.ofList elem) := by
  rw [← OperandKind.ofWord?_eq_none_iff, ← ElementType.ofWord?_eq_none_iff]
  simp only [← OperandKind.ofWord?_eq_some_iff]
  unfold readFields
  cases hk : OperandKind.ofWord? kind with
  | none => simp [eq_comm]
  | some k =>
    cases he : ElementType.ofWord? elem with
    | none => simp [eq_comm]
    | some t => simp

/-- A line has a wrong number of fields, or four fields and one more at most. -/
theorem fields_cases (line : List Char) :
    ((fields line).length ≠ 4 ∧ (fields line).length ≠ 5) ∨ ∃ name kind elem pattern feature,
      fields line = name :: kind :: elem :: pattern :: feature ∧ feature.length ≤ 1 := by
  rcases fields line with _ | ⟨name, _ | ⟨kind, _ | ⟨elem, _ | ⟨pattern, feature⟩⟩⟩⟩
  · simp
  · simp
  · simp
  · simp
  · by_cases h : feature.length ≤ 1
    · exact .inr ⟨name, kind, elem, pattern, feature, rfl, h⟩
    · refine .inl ⟨?_, ?_⟩ <;> simp only [List.length_cons] <;> omega

theorem readLine_of_count (h4 : (fields line).length ≠ 4) (h5 : (fields line).length ≠ 5) :
    readLine defaultFeature (n, line) = .error (.fieldCount n (fields line).length) := by
  simp only [readLine]
  split
  · next hf => simp [hf] at h4
  · next hf => simp [hf] at h5
  · rfl

theorem readLine_of_written {name kind elem pattern : List Char} {feature : List (List Char)}
    (written : fields line = name :: kind :: elem :: pattern :: feature)
    (short : feature.length ≤ 1) : readLine defaultFeature (n, line) =
      readFields n name kind elem pattern (feature.head?.elim defaultFeature String.ofList) := by
  rcases feature with _ | ⟨f, _ | ⟨g, rest⟩⟩
  · simp [readLine, written]
  · simp [readLine, written]
  · simp at short

/-- A line cannot be read exactly when its form is at fault, whatever the default feature is. -/
theorem readLine_eq_error_iff :
    readLine defaultFeature (n, line) = .error e ↔ FormFault n line e := by
  constructor
  · intro h
    rcases fields_cases line with ⟨h4, h5⟩ | ⟨name, kind, elem, pattern, feature, hf, hshort⟩
    · rw [readLine_of_count h4 h5] at h
      cases h
      exact .count h4 h5
    · rw [readLine_of_written hf hshort, readFields_eq_error_iff] at h
      rcases h with ⟨hk, rfl⟩ | ⟨⟨k, hk⟩, ht, rfl⟩
      · exact .kind hf hshort hk
      · exact .elem hf hshort hk ht
  · intro h
    cases h with
    | count h4 h5 => exact readLine_of_count h4 h5
    | kind hf hshort hk =>
      rw [readLine_of_written hf hshort, readFields_eq_error_iff]
      exact .inl ⟨hk, rfl⟩
    | elem hf hshort hk ht =>
      rw [readLine_of_written hf hshort, readFields_eq_error_iff]
      exact .inr ⟨⟨_, hk⟩, ht, rfl⟩

theorem forall_not_formFault_iff :
    (∀ d, ¬ FormFault n line d) ↔ ∃ p, readLine defaultFeature (n, line) = .ok p := by
  have hfault : ∀ d, readLine defaultFeature (n, line) = .error d ↔ FormFault n line d :=
    fun _ => readLine_eq_error_iff
  simp only [← hfault]
  cases readLine defaultFeature (n, line) with
  | error d => simp
  | ok p => simp

/-- Reading the lines fails for the first one at fault in its form. -/
theorem mapM_readLine_eq_error_iff :
    (caseLines text).mapM (readLine defaultFeature) = .error e ↔
      EarliestFault text FormFault e := by
  have hfault : ∀ p : Nat × List Char, readLine defaultFeature p = .error e ↔ FormFault p.1 p.2 e :=
    fun _ => readLine_eq_error_iff
  have hnone : ∀ p : Nat × List Char, (∃ q, readLine defaultFeature p = .ok q) ↔
      ∀ d, ¬ FormFault p.1 p.2 d := fun _ => forall_not_formFault_iff.symm
  simp only [Earliest.mapM_eq_error_iff, earliestFault_iff, hfault, hnone]

/-- The cases of lines are numbered as the lines are. -/
theorem mem_read_iff {cs : List Numbered}
    (h : List.Forall₂ (fun l p => readLine defaultFeature l = .ok p) (caseLines text) cs) :
    (n, c) ∈ cs ↔ ∃ line, StatementAt text n line ∧ Writes defaultFeature line c := by
  constructor
  · intro hmem
    obtain ⟨⟨m, line⟩, hline, hread⟩ := Paired.exists_left h hmem
    obtain ⟨rfl, writes⟩ := readLine_eq_ok_iff.1 hread
    exact ⟨line, mem_caseLines_iff.1 hline, writes⟩
  · rintro ⟨line, hline, writes⟩
    obtain ⟨p, hp, hread⟩ := Paired.exists_right h (mem_caseLines_iff.2 hline)
    have hsame : readLine defaultFeature (n, line) = .ok (n, c) :=
      readLine_eq_ok_iff.2 ⟨rfl, writes⟩
    rw [hsame] at hread
    cases hread
    exact hp

theorem increasing_read {cs : List Numbered}
    (h : List.Forall₂ (fun l p => readLine defaultFeature l = .ok p) (caseLines text) cs) :
    cs.Pairwise fun p q => p.1 < q.1 := by
  have hnumbers : (caseLines text).map Prod.fst = cs.map Prod.fst := by
    rw [← List.forall₂_eq_eq_eq, List.forall₂_map_left_iff, List.forall₂_map_right_iff]
    exact h.imp fun l p hl => (readLine_eq_ok_iff.1 hl).1.symm
  have hlines : ((caseLines text).map Prod.fst).Pairwise (· < ·) :=
    List.pairwise_map.2 (increasing_caseLines text)
  rw [hnumbers] at hlines
  exact List.pairwise_map.1 hlines

/-- The content of a line is at fault when the case that it writes is, among the cases of all
lines. -/
theorem contentFault_iff {cs : List Numbered}
    (h : List.Forall₂ (fun l p => readLine defaultFeature l = .ok p) (caseLines text) cs) :
    ContentFault defaultFeature text n line e ↔
      ∃ c, Writes defaultFeature line c ∧ ListFault cs n c e := by
  constructor
  · intro hfault
    cases hfault with
    | name writes empty => exact ⟨_, writes, .name empty⟩
    | pattern writes name empty => exact ⟨_, writes, .pattern name empty⟩
    | feature writes name pattern empty => exact ⟨_, writes, .feature name pattern empty⟩
    | duplicate writes complete is_above there writes_above same =>
      exact ⟨_, writes,
        .duplicate complete is_above ((mem_read_iff h).2 ⟨_, there, writes_above⟩) same⟩
  · rintro ⟨c, writes, hfault⟩
    cases hfault with
    | name empty => exact .name writes empty
    | pattern name empty => exact .pattern writes name empty
    | feature name pattern empty => exact .feature writes name pattern empty
    | duplicate complete smaller hb same =>
      obtain ⟨above, there, writes_above⟩ := (mem_read_iff h).1 hb
      exact .duplicate writes complete smaller there writes_above same

/-- The lines are all read exactly when none is at fault in its form. -/
theorem exists_read_iff (defaultFeature : String) :
    (∃ cs, (caseLines text).mapM (readLine defaultFeature) = .ok cs) ↔
      ∀ n line d, StatementAt text n line → ¬ FormFault n line d := by
  constructor
  · rintro ⟨cs, hcs⟩ n line d hline
    have hlines := Paired.mapM_eq_ok_iff.1 hcs
    obtain ⟨p, -, hp⟩ := Paired.exists_right hlines (mem_caseLines_iff.2 hline)
    exact forall_not_formFault_iff.2 ⟨p, hp⟩ d
  · intro h
    have hall : ∀ l ∈ caseLines text, ∃ p, readLine defaultFeature l = .ok p := by
      rintro ⟨n, line⟩ hl
      exact forall_not_formFault_iff.1 fun d => h n line d (mem_caseLines_iff.1 hl)
    obtain ⟨cs, hcs⟩ := Paired.exists_of_forall hall
    exact ⟨cs, Paired.mapM_eq_ok_iff.2 hcs⟩

/-- Once all lines are read, the check fails for the first one at fault in its content. -/
theorem check_read_eq_error_iff {cs : List Numbered}
    (h : (caseLines text).mapM (readLine defaultFeature) = .ok cs) :
    check cs = .error e ↔ EarliestFault text (ContentFault defaultFeature text) e := by
  have hread := Paired.mapM_eq_ok_iff.1 h
  rw [check_eq_error_iff (increasing_read hread)]
  simp only [EarliestFault, contentFault_iff hread, Prod.exists, Prod.forall, mem_read_iff hread]
  constructor
  · rintro ⟨n, c, ⟨line, there, writes⟩, hfault, hnone⟩
    refine ⟨n, line, there, ⟨c, writes, hfault⟩, ?_⟩
    rintro m above d hlt hline ⟨b, hb, hd⟩
    exact hnone m b ⟨above, hline, hb⟩ hlt d hd
  · rintro ⟨n, line, there, ⟨c, writes, hfault⟩, hnone⟩
    refine ⟨n, c, ⟨line, there, writes⟩, hfault, ?_⟩
    rintro m b ⟨above, hline, hb⟩ hlt d hd
    exact hnone m above d hlt hline ⟨b, hb, hd⟩

/-- A text is refused for its first line at fault in its form, whatever the content of the lines
before it is, and where no line is at fault in its form for the first one at fault in its
content. -/
theorem parse_eq_error_iff (text defaultFeature : String) (e : CatalogError) :
    parse text defaultFeature = .error e ↔
      EarliestFault text.toList FormFault e ∨
        (∀ n line d, StatementAt text.toList n line → ¬ FormFault n line d) ∧
          EarliestFault text.toList (ContentFault defaultFeature text.toList) e := by
  rw [parse, Paired.bind_eq_error_iff, mapM_readLine_eq_error_iff,
    ← exists_read_iff defaultFeature]
  refine or_congr_right ?_
  constructor
  · rintro ⟨cs, hread, hcheck⟩
    exact ⟨⟨cs, hread⟩, (check_read_eq_error_iff hread).1 hcheck⟩
  · rintro ⟨⟨cs, hread⟩, hfirst⟩
    exact ⟨cs, hread, (check_read_eq_error_iff hread).2 hfirst⟩

/-- The key that line 2 repeats is passed over for the form of line 4. -/
example : parse "a,Packed128,f32,x\na,packed128,Float32,y\n\nb,c" "fma4" =
    .error (.fieldCount 4 2) := by
  rfl

end Catalog
end LoweringAudit
