import LoweringAudit.Proofs.Catalog.RoundTrip
/-!
What becomes of a text that is read, written and read again. A name or a pattern that was read is a
field of its line, so it can be written as one. The default feature was never part of a line, and a
written case shows it. Main statement: the listing of a text is read as the same cases exactly when
no line of the text took the default feature, or that feature is itself a field.
-/
namespace LoweringAudit.Catalog

variable {defaultFeature : String} {text line : List Char} {c : Case} {catalog : Catalog}

/-- The feature of a case is a field of its line, unless the line has four fields only. -/
theorem Writes.feature_cases (hl : line ∈ statements text) (hw : Writes defaultFeature line c) :
    (fields line).length = 4 ∧ c.feature = defaultFeature ∨
      (fields line).length ≠ 4 ∧ IsField c.feature.toList := by
  cases hw with
  | short hf _ _ hfeature => exact .inl ⟨by simp [hf], hfeature⟩
  | long hf _ _ =>
    refine .inr ⟨by simp [hf], ?_⟩
    exact isField_of_mem_fields (mem_statements hl).1 (by simp [hf])

/-- A case that was read fits on a line as soon as its feature is a field. -/
theorem Writes.fitsLine_iff (hl : line ∈ statements text) (hw : Writes defaultFeature line c) :
    c.FitsLine ↔ IsField c.feature.toList := by
  obtain ⟨hn, hp, hhash⟩ := hw.fits hl
  constructor
  · intro h
    exact h.feature
  · intro h
    exact ⟨hn, hp, h, hhash⟩

/-- Cases that fit on lines are read again as they were written. -/
theorem parse_render_of_fitsLine (h : ∀ c ∈ catalog.cases, c.FitsLine) (defaultFeature : String) :
    parse catalog.render defaultFeature = .ok catalog := by
  rw [parse_eq_ok_iff, statements_render]
  apply Paired.flatMap_of_singletons
  intro c hc
  exact writes_renderCase (h c hc) (catalog.complete c hc).1 defaultFeature

/-- No line of the text takes the default feature, or this is a field and can be written as one. -/
def SafeDefault (text : List Char) (defaultFeature : String) : Prop :=
  (∀ line ∈ statements text, (fields line).length ≠ 4) ∨ IsField defaultFeature.toList

instance (text : List Char) (defaultFeature : String) :
    Decidable (SafeDefault text defaultFeature) :=
  inferInstanceAs (Decidable (_ ∨ _))

theorem fitsLine_of_safeDefault {cs : List Case}
    (h : List.Forall₂ (Writes defaultFeature) (statements text) cs)
    (hsafe : SafeDefault text defaultFeature) (hc : c ∈ cs) : c.FitsLine := by
  obtain ⟨line, hl, hw⟩ := Paired.exists_left h hc
  apply (hw.fitsLine_iff hl).2
  rcases hw.feature_cases hl with ⟨hfour, hd⟩ | ⟨-, hfield⟩
  · rcases hsafe with hnone | hdefault
    · exact absurd hfour (hnone line hl)
    · rw [hd]
      exact hdefault
  · exact hfield

/-- A listing that is read as it was written shows no default feature that is not a field: a line of
four fields has a case with this feature, and the listing has a line of its own for this case. -/
theorem safeDefault_of_parse_render {otherDefault : String}
    (h : List.Forall₂ (Writes defaultFeature) (statements text) catalog.cases)
    (hagain : List.Forall₂ (Writes otherDefault) (statements catalog.render.toList) catalog.cases) :
    SafeDefault text defaultFeature := by
  by_cases hnone : ∀ line ∈ statements text, (fields line).length ≠ 4
  · exact .inl hnone
  · simp only [not_forall, not_not] at hnone
    obtain ⟨line, hl, hfour⟩ := hnone
    -- A single line of four fields is enough: its case shows the default feature.
    obtain ⟨c, hc, hw⟩ := Paired.exists_right h hl
    obtain ⟨hn, hp, hhash⟩ := hw.fits hl
    have hfeature := isField_feature (fun l hl => Paired.exists_right hagain hl) hc hn hp hhash
    rcases hw.feature_cases hl with ⟨-, hd⟩ | ⟨hother, -⟩
    · exact .inr (hd ▸ hfeature)
    · exact absurd hfour hother

/-- What is read from a written catalog has the names and patterns that were written, whatever has
become of the features. -/
theorem exists_of_parse_render {again : Catalog}
    (h : parse catalog.render defaultFeature = .ok again) (hc : c ∈ catalog.cases)
    (hn : IsField c.name.toList) (hp : IsField c.pattern.toList)
    (hhash : c.name.toList.head? ≠ some '#') :
    ∃ b ∈ again.cases, b.key = c.key ∧ b.pattern = c.pattern := by
  obtain ⟨t, hmem⟩ := exists_mem_statements_render hc hn hp hhash
  obtain ⟨b, hb, hw⟩ := Paired.exists_right (parse_eq_ok_iff.1 h) hmem
  obtain ⟨hkey, hpattern, -⟩ := hw.of_front hn hp
  exact ⟨b, hb, hkey, hpattern⟩

/-- The cases of a text are read again from their listing, and so listed again alike, exactly when
no line of the text has four fields or the default feature is a field. Nothing else can stand in the
way: a case that was read fits on a line if its feature does, and each name and pattern is in
whatever is read from the listing. -/
theorem parse_render_of_parse {text defaultFeature : String}
    (h : parse text defaultFeature = .ok catalog) (otherDefault : String) :
    ((∃ again, parse catalog.render otherDefault = .ok again ∧ again.cases = catalog.cases) ↔
      (∀ line ∈ statements text.toList, (fields line).length ≠ 4) ∨
        IsField defaultFeature.toList) ∧
    (∀ c ∈ catalog.cases, c.FitsLine ↔ IsField c.feature.toList) ∧
    ∀ again, parse catalog.render otherDefault = .ok again →
      (again.cases = catalog.cases → again.render = catalog.render) ∧
      ∀ c ∈ catalog.cases, ∃ b ∈ again.cases, b.key = c.key ∧ b.pattern = c.pattern := by
  have hlines := parse_eq_ok_iff.1 h
  refine ⟨⟨?_, ?_⟩, ?_, ?_⟩
  · rintro ⟨again, hparse, hsame⟩
    have hagain := parse_eq_ok_iff.1 hparse
    rw [hsame] at hagain
    exact safeDefault_of_parse_render hlines hagain
  · intro hsafe
    have hfits : ∀ c ∈ catalog.cases, c.FitsLine := fun c hc =>
      fitsLine_of_safeDefault hlines hsafe hc
    exact ⟨catalog, parse_render_of_fitsLine hfits otherDefault, rfl⟩
  · intro c hc
    obtain ⟨line, hl, hw⟩ := Paired.exists_left hlines hc
    exact hw.fitsLine_iff hl
  · intro again hagain
    refine ⟨fun hsame => by rw [ext_cases hsame], fun c hc => ?_⟩
    obtain ⟨line, hl, hw⟩ := Paired.exists_left hlines hc
    obtain ⟨hn, hp, hhash⟩ := hw.fits hl
    exact exists_of_parse_render hagain hc hn hp hhash

/-- A default feature with a blank at its end is lost in the listing of a line that took it. -/
theorem parse_render_of_parse_blank_default :
    let text := "macc_ps,Packed128,f32,vfmadd.ps\nmsub_ps,Packed128,f32,vfmsub.ps,avx"
    ∃ catalog, parse text "fma4 " = .ok catalog ∧
      ¬ ∃ again, parse catalog.render "fma4 " = .ok again ∧ again.cases = catalog.cases := by
  intro text
  have hlines : statements text.toList = ["macc_ps,Packed128,f32,vfmadd.ps".toList,
      "msub_ps,Packed128,f32,vfmsub.ps,avx".toList] := by decide
  have h : parse text "fma4 " = .ok ⟨[⟨"macc_ps", .packed128, .float32, "vfmadd.ps", "fma4 "⟩,
      ⟨"msub_ps", .packed128, .float32, "vfmsub.ps", "avx"⟩], by decide, by decide⟩ := by
    rw [parse_eq_ok_iff, hlines]
    refine .cons (.short (by decide) rfl (.inr rfl) rfl) (.cons ?_ .nil)
    exact .long (by decide) rfl (.inr rfl)
  have hunsafe : ¬ SafeDefault text.toList "fma4 " := by decide
  refine ⟨_, h, fun hagain => ?_⟩
  exact hunsafe ((parse_render_of_parse h "fma4 ").1.1 hagain)

end LoweringAudit.Catalog
