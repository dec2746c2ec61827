import LoweringAudit.Proofs.Catalog.Grammar
import Mathlib.Data.List.Nodup
/-!
Which catalogs survive being written and read again. A case is written raw, field after field, so a
separator inside a field makes other fields or other lines of it, and a blank at its end is lost.
Main statement: the cases read again are the cases written exactly when each case fits on a line
that says this case and nothing else, whatever the default feature is.
-/
namespace LoweringAudit

/-- A text that is one whole field: no separator in it and no blank at its ends. -/
def IsField (s : List Char) : Prop :=
  ',' ∉ s ∧ '\n' ∉ s ∧ Text.Trimmed s

instance (s : List Char) : Decidable (IsField s) :=
  inferInstanceAs (Decidable (_ ∧ _))

/-- The free texts of the case are fields, and its line is not taken for a comment. -/
structure Case.FitsLine (c : Case) : Prop where
  name : IsField c.name.toList
  pattern : IsField c.pattern.toList
  feature : IsField c.feature.toList
  noComment : c.name.toList.head? ≠ some '#'

theorem OperandKind.isField_name (k : OperandKind) : IsField k.name.toList := by
  cases k <;> decide

theorem ElementType.isField_name (e : ElementType) : IsField e.name.toList := by
  cases e <;> decide

namespace Catalog

variable {defaultFeature : String} {text line f : List Char} {b c : Case}

theorem isField_of_mem_fields (hl : '\n' ∉ line) (hf : f ∈ fields line) : IsField f := by
  obtain ⟨piece, hp, rfl⟩ := List.mem_map.1 hf
  have hpiece := Text.mem_piece hp
  refine ⟨fun hc => hpiece.1 (Text.mem_of_mem_trim hc), fun hc => hl ?_, Text.trimmed_trim piece⟩
  exact hpiece.2 _ (Text.mem_of_mem_trim hc)

/-- The first field of a trimmed line begins as the line does. -/
theorem head?_first_field {rest : List (List Char)} (hl : Text.Trimmed line)
    (hf : fields line = f :: rest) {x : Char} (hx : f.head? = some x) : line.head? = some x := by
  cases line with
  | nil =>
    simp only [fields, List.splitOn_nil, List.map_cons, Text.trim_nil, List.cons.injEq] at hf
    rw [← hf.1] at hx
    cases hx
  | cons y l =>
    have hy : Text.isBlank y = false := hl.1 y rfl
    obtain ⟨p, ps, hp⟩ := List.exists_cons_of_ne_nil (List.splitOn_ne_nil ',' l)
    rw [fields, List.splitOn_cons_eq_if_modifyHead, hp] at hf
    by_cases hc : y = ','
    · simp only [hc, beq_self_eq_true, ↓reduceIte, List.map_cons, Text.trim_nil,
        List.cons.injEq] at hf
      rw [← hf.1] at hx
      cases hx
    · simp only [beq_iff_eq, hc, ↓reduceIte, List.modifyHead_cons, List.map_cons,
        List.cons.injEq] at hf
      have htrim : Text.trim (y :: p) = y :: Text.trimEnd p := by
        rw [Text.trim, Text.trimStart_eq_self (by simpa using hy)]
        exact Text.trimEnd_append_cons hy [] p
      rw [← hf.1, htrim] at hx
      exact hx

theorem mem_statements (h : line ∈ statements text) :
    '\n' ∉ line ∧ Text.Trimmed line ∧ line ≠ [] ∧ line.head? ≠ some '#' := by
  obtain ⟨hmem, hline⟩ := List.mem_filter.1 h
  obtain ⟨piece, hp, rfl⟩ := List.mem_map.1 hmem
  refine ⟨fun hc => ?_, Text.trimmed_trim piece, of_decide_eq_true hline⟩
  exact (Text.mem_piece hp).1 (Text.mem_of_mem_trim hc)

/-- What a line writes as a name or a pattern can be written as such again. -/
theorem Writes.fits (hl : line ∈ statements text) (hw : Writes defaultFeature line c) :
    IsField c.name.toList ∧ IsField c.pattern.toList ∧ c.name.toList.head? ≠ some '#' := by
  obtain ⟨hnew, htrim, -, hhash⟩ := mem_statements hl
  obtain ⟨kind, elem, rest, hf⟩ : ∃ kind elem rest,
      fields line = c.name.toList :: kind :: elem :: c.pattern.toList :: rest := by
    cases hw with
    | short hf => exact ⟨_, _, _, hf⟩
    | long hf => exact ⟨_, _, _, hf⟩
  refine ⟨isField_of_mem_fields hnew (by simp [hf]), isField_of_mem_fields hnew (by simp [hf]), ?_⟩
  intro hx
  exact hhash (head?_first_field htrim hf hx)

/-- The line of a case up to the comma before its feature. -/
def front (c : Case) : List Char :=
  c.name.toList ++ ',' :: (c.kind.name.toList ++ ',' :: (c.elem.name.toList ++
    ',' :: c.pattern.toList))

theorem toList_renderCase (c : Case) :
    (renderCase c).toList = front c ++ ',' :: c.feature.toList := by
  simp [renderCase, front]

theorem fields_front (hn : IsField c.name.toList) (hp : IsField c.pattern.toList) (t : List Char) :
    fields (front c ++ ',' :: t) = c.name.toList :: c.kind.name.toList :: c.elem.name.toList ::
      c.pattern.toList :: fields t := by
  have hk := c.kind.isField_name
  have he := c.elem.isField_name
  simp only [fields, front, List.append_assoc, List.cons_append]
  rw [List.splitOn_append_cons_self_of_not_mem hn.1, List.splitOn_append_cons_self_of_not_mem hk.1,
    List.splitOn_append_cons_self_of_not_mem he.1, List.splitOn_append_cons_self_of_not_mem hp.1]
  simp only [List.map_cons, Text.trim_eq_self hn.2.2, Text.trim_eq_self hk.2.2,
    Text.trim_eq_self he.2.2, Text.trim_eq_self hp.2.2]

theorem not_mem_front (hn : IsField c.name.toList) (hp : IsField c.pattern.toList) :
    '\n' ∉ front c ++ [','] := by
  simp [front, hn.2.1, hp.2.1, c.kind.isField_name.2.1, c.elem.isField_name.2.1]

theorem statements_append (s t : List Char) :
    statements (s ++ '\n' :: t) = statements s ++ statements t := by
  simp only [statements, List.splitOn_append_cons_self, List.map_append, List.filter_append]

theorem statements_render (catalog : Catalog) :
    statements catalog.render.toList =
      catalog.cases.flatMap fun c => statements (renderCase c).toList := by
  rw [render, String.toList_join]
  induction catalog.cases with
  | nil => decide
  | cons c cs ih =>
    have hline : (renderCase c ++ "\n").toList = (renderCase c).toList ++ ['\n'] := by simp
    rw [List.map_cons, List.flatMap_cons, hline, List.append_assoc, List.singleton_append,
      statements_append, ih, List.flatMap_cons]

/-- The first line of a written case holds its front, and what is left of the feature's first line.
-/
theorem statements_renderCase (hn : IsField c.name.toList) (hp : IsField c.pattern.toList)
    (hname : c.name ≠ "") (hhash : c.name.toList.head? ≠ some '#') {t : List Char}
    {ts : List (List Char)} (ht : c.feature.toList.splitOn '\n' = t :: ts) :
    statements (renderCase c).toList = (front c ++ ',' :: Text.trimEnd t) ::
      (ts.map Text.trim).filter fun line => decide (line ≠ [] ∧ line.head? ≠ some '#') := by
  have hsplit : (renderCase c).toList.splitOn '\n' = (front c ++ ',' :: t) :: ts := by
    rw [toList_renderCase, ← List.singleton_append, ← List.append_assoc,
      Text.splitOn_append (not_mem_front hn hp), ht]
    simp
  obtain ⟨x, r, hx⟩ : ∃ x r, c.name.toList = x :: r :=
    List.exists_cons_of_ne_nil (by simpa using hname)
  have hfront : front c ≠ [] ∧ (front c).head? = some x := by simp [front, hx]
  have hblank : ∀ y ∈ (front c).head?, Text.isBlank y = false := by
    intro y hy
    exact hn.2.2.1 y (by simpa [hx, hfront.2] using hy)
  have htrim := Text.trim_append_cons hfront.1 hblank (c := ',') (by decide) t
  have hstates : front c ++ ',' :: Text.trimEnd t ≠ [] ∧
      (front c ++ ',' :: Text.trimEnd t).head? ≠ some '#' := by
    simpa [hfront.2, hx] using hhash
  rw [statements, hsplit, List.map_cons, htrim, List.filter_cons_of_pos]
  exact decide_eq_true hstates

/-- A case that fits on a line is written as that line alone, which writes the case. -/
theorem writes_renderCase (hc : c.FitsLine) (hname : c.name ≠ "") (defaultFeature : String) :
    ∃ line, statements (renderCase c).toList = [line] ∧ Writes defaultFeature line c := by
  have hf := hc.feature
  have hsplit : c.feature.toList.splitOn '\n' = [c.feature.toList] :=
    List.splitOn_eq_singleton hf.2.1
  refine ⟨_, statements_renderCase hc.name hc.pattern hname hc.noComment hsplit, ?_⟩
  rw [Text.trimEnd_eq_self hf.2.2.2]
  have hwritten : fields (front c ++ ',' :: c.feature.toList) = [c.name.toList, c.kind.name.toList,
      c.elem.name.toList, c.pattern.toList, c.feature.toList] := by
    rw [fields_front hc.name hc.pattern]
    simp [fields, List.splitOn_eq_singleton hf.1, Text.trim_eq_self hf.2.2]
  exact .long hwritten (OperandKind.namedBy_name_iff.2 rfl) (ElementType.namedBy_name_iff.2 rfl)

/-- A written catalog has a line for each case whose name and pattern are in order. It begins with
the case's front and a comma, whatever has become of the feature after them. -/
theorem exists_mem_statements_render {catalog : Catalog} (hc : c ∈ catalog.cases)
    (hn : IsField c.name.toList) (hp : IsField c.pattern.toList)
    (hhash : c.name.toList.head? ≠ some '#') :
    ∃ t, front c ++ ',' :: t ∈ statements catalog.render.toList := by
  obtain ⟨t, ts, ht⟩ := List.exists_cons_of_ne_nil (List.splitOn_ne_nil '\n' c.feature.toList)
  have hfirst := statements_renderCase hn hp (catalog.complete c hc).1 hhash ht
  refine ⟨Text.trimEnd t, ?_⟩
  rw [statements_render]
  exact List.mem_flatMap.2 ⟨c, hc, by rw [hfirst]; exact List.mem_cons_self⟩

/-- A line with the front of a case writes its key and its pattern, and takes no default. -/
theorem Writes.of_front {t : List Char} (hw : Writes defaultFeature (front c ++ ',' :: t) b)
    (hn : IsField c.name.toList) (hp : IsField c.pattern.toList) :
    b.key = c.key ∧ b.pattern = c.pattern ∧ b.feature.toList ∈ fields (front c ++ ',' :: t) := by
  have hfields := fields_front hn hp t
  cases hw with
  | short hf _ _ _ =>
    rw [hfields] at hf
    simp [fields] at hf
  | long hf hk he =>
    have hsame := hf
    rw [hfields] at hsame
    simp only [List.cons.injEq] at hsame
    obtain ⟨hname, rfl, rfl, hpattern, -⟩ := hsame
    have hkind : c.kind = b.kind := OperandKind.namedBy_name_iff.1 hk
    have helem : c.elem = b.elem := ElementType.namedBy_name_iff.1 he
    refine ⟨?_, (String.toList_inj.1 hpattern).symm, by simp [hf]⟩
    simp [Case.key, String.toList_inj.1 hname, hkind, helem]

/-- If each line of the written catalog writes some case of it, a case whose name and pattern are in
order has a feature that is a field: the case's first line has five fields, so it takes no default,
and no other case of the catalog has its key. -/
theorem isField_feature {catalog : Catalog}
    (hlines : ∀ line ∈ statements catalog.render.toList, ∃ b ∈ catalog.cases,
      Writes defaultFeature line b)
    (hc : c ∈ catalog.cases) (hn : IsField c.name.toList) (hp : IsField c.pattern.toList)
    (hhash : c.name.toList.head? ≠ some '#') : IsField c.feature.toList := by
  obtain ⟨t, hmem⟩ := exists_mem_statements_render hc hn hp hhash
  obtain ⟨b, hb, hw⟩ := hlines _ hmem
  obtain ⟨hkey, -, hfeature⟩ := hw.of_front hn hp
  have hcb : b = c := List.inj_on_of_nodup_map catalog.distinct hb hc hkey
  rw [hcb] at hfeature
  exact isField_of_mem_fields (mem_statements hmem).1 hfeature

/-- The cases of a catalog are read again from its text, whatever the default feature is, exactly
when each of them fits on a line. -/
theorem parse_render_iff {cs : List Case} {catalog : Catalog} (h : ofCases cs = .ok catalog)
    (defaultFeature : String) :
    (∃ again, parse catalog.render defaultFeature = .ok again ∧ again.cases = cs) ↔
      ∀ c ∈ cs, c.FitsLine := by
  obtain rfl := ofCases_eq_ok_iff.1 h
  constructor
  · rintro ⟨again, hparse, hsame⟩ c hc
    have hlines := parse_eq_ok_iff.1 hparse
    rw [hsame] at hlines
    obtain ⟨line, hline, hw⟩ := Paired.exists_left hlines hc
    obtain ⟨hn, hp, hhash⟩ := hw.fits hline
    have hfeature := isField_feature (fun l hl => Paired.exists_right hlines hl) hc hn hp hhash
    exact ⟨hn, hp, hfeature, hhash⟩
  · intro hfits
    refine ⟨catalog, parse_eq_ok_iff.2 ?_, rfl⟩
    rw [statements_render]
    apply Paired.flatMap_of_singletons
    intro c hc
    exact writes_renderCase (hfits c hc) (catalog.complete c hc).1 defaultFeature

/-- A feature with a line break is lost even where it is the default feature: what follows the break
becomes a comment, and the fifth field before it is taken for the whole feature. -/
theorem parse_render_broken_feature :
    let c : Case := ⟨"macc_ps", .packed128, .float32, "fma4.vfmadd.ps", "fma4\n# avx"⟩
    ∃ catalog, ofCases [c] = .ok catalog ∧
      ¬ ∃ again, parse catalog.render c.feature = .ok again ∧ again.cases = [c] := by
  intro c
  have h : ofCases [c] = .ok ⟨[c], by decide, by decide⟩ := ofCases_eq_ok_iff.2 rfl
  refine ⟨_, h, fun hagain => ?_⟩
  have hfits := (parse_render_iff h c.feature).1 hagain c List.mem_cons_self
  exact absurd hfits.feature (by decide)

end Catalog

end LoweringAudit
