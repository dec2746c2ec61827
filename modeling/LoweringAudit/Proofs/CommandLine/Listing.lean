import LoweringAudit.Proofs.Catalog.Listing
import LoweringAudit.Proofs.CommandLine.LastLine
/-!
The last line of a listing. A listing shows the feature of its last case at its end, and the feature
of a case is a field of its line or else the default one, which a configuration may spread over
several lines. Main statement: a listing ends with the line of a summary exactly when its last case
takes a default feature that does.
-/
namespace LoweringAudit

namespace Catalog

variable {catalog : Catalog} {c : Case}

/-- Every case is written with its feature at the end of its last line. -/
theorem toList_render_append (catalog : Catalog) {before : List Case}
    (h : catalog.cases = before ++ [c]) :
    ∃ front, catalog.render.toList = front ++ ',' :: (c.feature.toList ++ ['\n']) :=
  ⟨(String.join (before.map fun b => renderCase b ++ "\n")).toList ++ Catalog.front c,
    by simp [render, h, toList_renderCase]⟩

/-- A feature with a line feed in it was not written on a line of a catalog. -/
theorem feature_eq_of_newline {files : Files} {defaultFeature : String} {source : CatalogSource}
    (h : source.load files defaultFeature = .ok catalog) (hc : c ∈ catalog.cases)
    (hnew : '\n' ∈ c.feature.toList) : c.feature = defaultFeature := by
  cases source with
  | embedded =>
    have hfma4 : ∀ c ∈ Fma4.cases, '\n' ∉ c.feature.toList := by decide
    have hload : ofCases Fma4.cases = .ok catalog := h
    rw [ofCases_eq_ok_iff.1 hload] at hc
    exact absurd hnew (hfma4 c hc)
  | file path =>
    simp only [CatalogSource.load] at h
    split at h
    · cases h
    · next text _ =>
      obtain ⟨line, hl, hw⟩ := Paired.exists_left (parse_eq_ok_iff.1 h) hc
      rcases hw.feature_cases hl with ⟨-, hdefault⟩ | ⟨-, hfield⟩
      · exact hdefault
      · exact absurd hnew hfield.2.1

end Catalog

namespace CommandLine

variable {s : Surroundings} {o : Options} {c : Config} {catalog : Catalog}

theorem comma_not_mem_passedLine (p t : Nat) : ',' ∉ (passedLine p t).toList := by
  have hp : ',' ∉ Nat.toDigits 10 p := not_mem_toDigits (by decide)
  have ht : ',' ∉ Nat.toDigits 10 t := not_mem_toDigits (by decide)
  rw [toList_passedLine]
  simp [hp, ht]

/-- A place of a character lies before any end of the text that does not hold the character. -/
theorem exists_tail_of_cut {front back before line : List Char} {c : Char}
    (h : front ++ c :: back = before ++ line) (hc : c ∉ line) :
    ∃ tail, before = front ++ c :: tail ∧ back = tail ++ line := by
  rcases List.append_eq_append_iff.1 h with ⟨as, hbefore, hback⟩ | ⟨bs, -, hline⟩
  · cases as with
    | nil => exact absurd (by rw [← List.nil_append line, ← hback]; simp) hc
    | cons d as =>
      cases hback
      exact ⟨as, hbefore, rfl⟩
  · exact absurd (by rw [hline]; simp) hc

/-- What comes after the last comma ends with the line, and has a line feed before it. -/
theorem exists_of_lastLine {output line : String} {front back : List Char}
    (houtput : output.toList = front ++ ',' :: (back ++ ['\n'])) (hcomma : ',' ∉ line.toList)
    (h : LastLine (written output) line) : ∃ start, back = start ++ '\n' :: line.toList := by
  obtain ⟨before, hwritten, hbefore, -⟩ := h
  have htext := congrArg String.toList (written_inj.1 hwritten)
  rw [houtput] at htext
  have hclosed : front ++ ',' :: back ++ ['\n'] = before.toList ++ line.toList ++ ['\n'] := by
    simpa using htext
  obtain ⟨tail, hfront, hback⟩ := exists_tail_of_cut (List.append_cancel_right hclosed) hcomma
  have hlast : tail.getLast? = some '\n' := by
    rcases hbefore with rfl | hlast
    · simp at hfront
    · rw [hfront] at hlast
      cases tail with
      | nil => simp at hlast
      | cons d tail => simpa using hlast
  obtain ⟨start, rfl⟩ := List.getLast?_eq_some_iff.1 hlast
  exact ⟨start, by simp [hback]⟩

/-- A listing ends with the line of a summary when the default feature does, and its last case takes
this one. -/
theorem lastLine_of_listed (h : Loaded s o c catalog) (hlist : o.list = true) (p t : Nat) :
    LastLine (verify s o).output (passedLine p t) ↔
      ∃ before case start, catalog.cases = before ++ [case] ∧
        case.feature = c.target.defaultFeature ∧
        c.target.defaultFeature = start ++ "\n" ++ passedLine p t := by
  rw [(verify_of_listed h hlist).2]
  constructor
  · intro hlast
    rcases List.eq_nil_or_concat catalog.cases with hnil | ⟨before, case, hcases⟩
    · obtain ⟨ahead, hwritten, -, -⟩ := hlast
      have hempty : catalog.render = "" := by simp [Catalog.render, hnil]
      have htext := written_inj.1 hwritten
      rw [hempty] at htext
      exact absurd (String.append_eq_empty_iff.1 htext.symm).2 (by decide)
    · rw [List.concat_eq_append] at hcases
      obtain ⟨front, hrender⟩ := catalog.toList_render_append hcases
      obtain ⟨start, hstart⟩ := exists_of_lastLine hrender (comma_not_mem_passedLine p t) hlast
      have hdefault : case.feature = c.target.defaultFeature :=
        Catalog.feature_eq_of_newline h.cataloged (by simp [hcases]) (by simp [hstart])
      refine ⟨before, case, String.ofList start, hcases, hdefault, ?_⟩
      rw [← hdefault, ← String.toList_inj]
      simp [hstart]
  · rintro ⟨before, case, start, hcases, hdefault, hstart⟩
    obtain ⟨front, hrender⟩ := catalog.toList_render_append hcases
    rw [hdefault, hstart] at hrender
    refine ⟨String.ofList (front ++ ',' :: (start.toList ++ ['\n'])), ?_, .inr ?_,
      newline_not_mem_passedLine p t⟩
    · rw [written_inj, ← String.toList_inj, hrender]
      simp
    · simp [List.getLast?_append, List.getLast?_cons]

end CommandLine

end LoweringAudit
