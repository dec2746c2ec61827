import LoweringAudit.Catalog.Format
import LoweringAudit.Proofs.Catalog.Checking
import LoweringAudit.Proofs.Paired
import LoweringAudit.Proofs.Text.Pieces
/-!
The grammar of a catalog's text, said without its reader. A line that is neither blank nor a comment
writes a case through its trimmed fields. Main statement: the reader accepts the texts of the
grammar and no others, and gives the case of each such line, one for one and in file order.
-/
namespace LoweringAudit

/-- The word is the kind's name in some mixture of ASCII letter cases. -/
def OperandKind.NamedBy (k : OperandKind) (word : List Char) : Prop :=
  Text.lower word = Text.lower k.name.toList

/-- The word is the type's long or short name in some mixture of ASCII letter cases. -/
def ElementType.NamedBy (e : ElementType) (word : List Char) : Prop :=
  Text.lower word = Text.lower e.name.toList ∨ Text.lower word = Text.lower e.shortName.toList

theorem OperandKind.ofWord?_congr {v w : List Char} (h : Text.lower v = Text.lower w) :
    ofWord? v = ofWord? w := by
  simp only [ofWord?, Text.sameLetters, h]

theorem ElementType.ofWord?_congr {v w : List Char} (h : Text.lower v = Text.lower w) :
    ofWord? v = ofWord? w := by
  simp only [ofWord?, Text.sameLetters, h]

theorem OperandKind.ofWord?_eq_some_iff {word : List Char} {k : OperandKind} :
    ofWord? word = some k ↔ k.NamedBy word := by
  constructor
  · intro h
    have hk := List.find?_some h
    exact (eq_of_beq hk).symm
  · intro h
    rw [ofWord?_congr h, ofWord?_name]

/-- A kind's own name names no other kind. -/
theorem OperandKind.namedBy_name_iff {j k : OperandKind} : k.NamedBy j.name.toList ↔ j = k := by
  rw [← ofWord?_eq_some_iff, ofWord?_name, Option.some.injEq]

theorem ElementType.ofWord?_shortName (e : ElementType) : ofWord? e.shortName.toList = some e := by
  cases e <;> decide

theorem ElementType.ofWord?_eq_some_iff {word : List Char} {e : ElementType} :
    ofWord? word = some e ↔ e.NamedBy word := by
  constructor
  · intro h
    have he := List.find?_some h
    rcases Bool.or_eq_true_iff.1 he with he | he
    · exact .inl (eq_of_beq he).symm
    · exact .inr (eq_of_beq he).symm
  · rintro (h | h)
    · rw [ofWord?_congr h, ofWord?_name]
    · rw [ofWord?_congr h, ofWord?_shortName]

theorem ElementType.namedBy_name_iff {d e : ElementType} : e.NamedBy d.name.toList ↔ d = e := by
  rw [← ofWord?_eq_some_iff, ofWord?_name, Option.some.injEq]

namespace Catalog

variable {defaultFeature : String} {text line : List Char} {b c : Case}

/-- The trimmed lines that are neither empty nor a comment, in file order. -/
def statements (text : List Char) : List (List Char) :=
  ((text.splitOn '\n').map Text.trim).filter fun line => decide (line ≠ [] ∧ line.head? ≠ some '#')

/-- A trimmed line writes a case: its name, kind, element type and pattern, in this order, and its
feature in a fifth field, without which it is the default one. -/
inductive Writes (defaultFeature : String) (line : List Char) (c : Case) : Prop where
  | short {kind elem : List Char}
      (written : fields line = [c.name.toList, kind, elem, c.pattern.toList])
      (ofKind : c.kind.NamedBy kind) (ofElem : c.elem.NamedBy elem)
      (feature : c.feature = defaultFeature)
  | long {kind elem : List Char}
      (written : fields line = [c.name.toList, kind, elem, c.pattern.toList, c.feature.toList])
      (ofKind : c.kind.NamedBy kind) (ofElem : c.elem.NamedBy elem)

example : statements "# a\n\n b,c\r\n".toList = ["b,c".toList] := by decide

/-- The reader's own choice of lines is the grammar's. -/
theorem map_snd_caseLines (text : List Char) :
    (caseLines text).map Prod.snd = statements text := by
  have hcase : ∀ line : List Char,
      isCaseLine line = decide (line ≠ [] ∧ line.head? ≠ some '#') := by
    intro line
    cases line with
    | nil => rfl
    | cons c r => simp [isCaseLine, bne, BEq.beq]
  have hlines : ((text.splitOn '\n').zipIdx 1).map (Text.trim ∘ Prod.fst) =
      (text.splitOn '\n').map Text.trim := by
    rw [← List.map_map, List.zipIdx_map_fst]
  have hread : caseLines text = (((text.splitOn '\n').zipIdx 1).map fun p =>
      (p.2, Text.trim p.1)).filter fun p => isCaseLine p.2 := rfl
  rw [statements, ← hlines, hread, List.filter_map, List.filter_map, List.map_map]
  simp only [Function.comp_def, hcase]

theorem readFields_eq_ok_iff {n : Nat} {name kind elem pattern : List Char} {feature : String}
    {p : Numbered} :
    readFields n name kind elem pattern feature = .ok p ↔
      p.1 = n ∧ name = p.2.name.toList ∧ p.2.kind.NamedBy kind ∧ p.2.elem.NamedBy elem ∧
        pattern = p.2.pattern.toList ∧ p.2.feature = feature := by
  obtain ⟨m, nameOf, kindOf, elemOf, patternOf, featureOf⟩ := p
  have hof : ∀ (l : List Char) (s : String), String.ofList l = s ↔ l = s.toList := by
    intro l s
    constructor
    · rintro rfl
      exact String.toList_ofList.symm
    · rintro rfl
      exact String.ofList_toList
  simp only [← OperandKind.ofWord?_eq_some_iff, ← ElementType.ofWord?_eq_some_iff, ← hof]
  unfold readFields
  cases hk : OperandKind.ofWord? kind with
  | none => simp
  | some k =>
    cases he : ElementType.ofWord? elem with
    | none => simp
    | some e =>
      simp only [Except.ok.injEq, Prod.mk.injEq, Case.mk.injEq, Option.some.injEq]
      constructor
      · rintro ⟨rfl, hn, hk, he, hp, rfl⟩
        exact ⟨rfl, hn, hk, he, hp, rfl⟩
      · rintro ⟨rfl, hn, hk, he, hp, rfl⟩
        exact ⟨rfl, hn, hk, he, hp, rfl⟩

/-- A line is read as a case exactly when it writes that case, complete or not. -/
theorem readLine_eq_ok_iff {n : Nat} {p : Numbered} :
    readLine defaultFeature (n, line) = .ok p ↔ p.1 = n ∧ Writes defaultFeature line p.2 := by
  constructor
  · intro h
    simp only [readLine] at h
    split at h
    · next hf =>
      obtain ⟨hn, hname, hk, he, hp, hd⟩ := readFields_eq_ok_iff.1 h
      exact ⟨hn, .short (by rw [hf, hname, hp]) hk he hd⟩
    · next hf =>
      obtain ⟨hn, hname, hk, he, hp, hd⟩ := readFields_eq_ok_iff.1 h
      refine ⟨hn, .long ?_ hk he⟩
      rw [hf, hname, hp, hd, String.toList_ofList]
    · cases h
  · rintro ⟨hn, ⟨hf, hk, he, hd⟩ | ⟨hf, hk, he⟩⟩
    · simp only [readLine, hf]
      exact readFields_eq_ok_iff.2 ⟨hn, rfl, hk, he, rfl, hd⟩
    · simp only [readLine, hf]
      exact readFields_eq_ok_iff.2 ⟨hn, rfl, hk, he, rfl, String.ofList_toList.symm⟩

/-- A line writes one case at most. -/
theorem Writes.unique (hb : Writes defaultFeature line b) (hc : Writes defaultFeature line c) :
    b = c := by
  have hb := readLine_eq_ok_iff (n := 0) (p := (0, b)).2 ⟨rfl, hb⟩
  have hc := readLine_eq_ok_iff (n := 0) (p := (0, c)).2 ⟨rfl, hc⟩
  rw [hb] at hc
  cases hc
  rfl

/-- The text is read as a catalog exactly when its lines write the catalog's cases in order. -/
theorem parse_eq_ok_iff {text : String} {catalog : Catalog} :
    parse text defaultFeature = .ok catalog ↔
      List.Forall₂ (Writes defaultFeature) (statements text.toList) catalog.cases := by
  have hline : ∀ (l : Nat × List Char) (c : Case),
      (∃ p, readLine defaultFeature l = .ok p ∧ p.2 = c) ↔ Writes defaultFeature l.2 c := by
    intro l c
    constructor
    · rintro ⟨p, hp, rfl⟩
      exact (readLine_eq_ok_iff.1 hp).2
    · intro h
      exact ⟨(l.1, c), readLine_eq_ok_iff.2 ⟨rfl, h⟩, rfl⟩
  rw [parse, Paired.bind_eq_ok_iff, ← map_snd_caseLines, List.forall₂_map_left_iff]
  simp only [Paired.mapM_eq_ok_iff, check_eq_ok_iff, Paired.exists_map_iff, hline]

/-- Two lines do not write cases of one key. -/
def Apart (defaultFeature : String) (l m : List Char) : Prop :=
  ∀ b c, Writes defaultFeature l b → Writes defaultFeature m c → b.key ≠ c.key

/-- Lines are apart when the cases they write have distinct keys. -/
theorem pairwise_apart_iff {lines : List (List Char)} {cs : List Case}
    (h : List.Forall₂ (Writes defaultFeature) lines cs) :
    lines.Pairwise (Apart defaultFeature) ↔ (cs.map Case.key).Nodup := by
  induction h with
  | nil => simp
  | @cons l c ls cs hl hls ih =>
    rw [List.pairwise_cons, List.map_cons, List.nodup_cons, ih]
    refine and_congr_left fun _ => ?_
    constructor
    · intro hapart hmem
      obtain ⟨b, hb, hkey⟩ := List.mem_map.1 hmem
      obtain ⟨m, hm, hw⟩ := Paired.exists_left hls hb
      exact hapart m hm c b hl hw hkey.symm
    · intro hmem m hm b b' hb hb' hkey
      obtain ⟨e, he, hw⟩ := Paired.exists_right hls hm
      rw [hb.unique hl, hb'.unique hw] at hkey
      exact hmem (List.mem_map.2 ⟨e, he, hkey.symm⟩)

/-- A text is accepted exactly when each of its lines writes a complete case and no two lines have
one key. The catalog then has these lines' cases, one for each line, in file order. -/
theorem parse_accepts_grammar (text defaultFeature : String) :
    ((∃ catalog, parse text defaultFeature = .ok catalog) ↔
      (∀ line ∈ statements text.toList, ∃ c, Writes defaultFeature line c ∧ c.Complete) ∧
        (statements text.toList).Pairwise (Apart defaultFeature)) ∧
    ∀ catalog, parse text defaultFeature = .ok catalog → ∀ cs,
      List.Forall₂ (Writes defaultFeature) (statements text.toList) cs ↔ cs = catalog.cases := by
  constructor
  · constructor
    · rintro ⟨catalog, hparse⟩
      have hlines := parse_eq_ok_iff.1 hparse
      refine ⟨fun line hline => ?_, (pairwise_apart_iff hlines).2 catalog.distinct⟩
      obtain ⟨c, hc, hw⟩ := Paired.exists_right hlines hline
      exact ⟨c, hw, catalog.complete c hc⟩
    · rintro ⟨hcomplete, hapart⟩
      obtain ⟨cs, hcs⟩ := Paired.exists_of_forall hcomplete
      have hlines : List.Forall₂ (Writes defaultFeature) (statements text.toList) cs :=
        hcs.imp fun _ _ h => h.1
      have hall : ∀ c ∈ cs, c.Complete := by
        intro c hc
        obtain ⟨line, _, hw⟩ := Paired.exists_left hcs hc
        exact hw.2
      exact ⟨⟨cs, hall, (pairwise_apart_iff hlines).1 hapart⟩, parse_eq_ok_iff.2 hlines⟩
  · intro catalog hparse cs
    have hlines := parse_eq_ok_iff.1 hparse
    have hunique : Relator.RightUnique (Writes defaultFeature) := fun _ _ _ => Writes.unique
    constructor
    · intro hcs
      exact hunique.forall₂ hcs hlines
    · rintro rfl
      exact hlines

end Catalog

end LoweringAudit
