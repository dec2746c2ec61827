import LoweringAudit.Proofs.Catalog.Numbering
import Mathlib.Data.List.Nodup
/-!
What becomes of the cases and of the error when catalog texts are put together. The lines of the
second text are read as before under other numbers, but their cases are checked against those of the
first. Main statement: the joint text is accepted exactly when both texts are and share no key; else
the error is one of the first text's, or one of the second's with its number raised by the lines of
the first.
-/
namespace LoweringAudit

/-- Whether the error is about the form of a line: its fields, its kind or its element type. -/
def CatalogError.IsForm : CatalogError → Prop
  | fieldCount .. | unknownKind .. | unknownElem .. => True
  | _ => False

namespace Catalog

variable {defaultFeature : String} {text s t line : List Char} {n : Nat} {e : CatalogError}
  {cs : List Numbered}

/-- Whether no line of the text is at fault in its form. -/
def Regular (text defaultFeature : String) : Prop :=
  ∀ e, parse text defaultFeature = .error e → ¬ e.IsForm

theorem FormFault.isForm (h : FormFault n line e) : e.IsForm := by
  cases h <;> trivial

theorem ContentFault.not_isForm (h : ContentFault defaultFeature text n line e) : ¬ e.IsForm := by
  cases h <;> exact id

theorem isForm_of_mapM (h : (caseLines text).mapM (readLine defaultFeature) = .error e) :
    e.IsForm := by
  obtain ⟨n, line, -, hfault, -⟩ := mapM_readLine_eq_error_iff.1 h
  exact hfault.isForm

theorem not_isForm_of_check (hread : (caseLines text).mapM (readLine defaultFeature) = .ok cs)
    (h : check cs = .error e) : ¬ e.IsForm := by
  obtain ⟨n, line, -, hfault, -⟩ := (check_read_eq_error_iff hread).1 h
  exact hfault.not_isForm

/-- What a line of the second of two texts is at fault for in its content: what it is in its own
text, or the key of a case of the first. -/
inductive ContinuedFault (before : List Case) (defaultFeature : String) (text : List Char) (n : Nat)
    (line : List Char) : CatalogError → Prop where
  | own {e : CatalogError} (fault : ContentFault defaultFeature text n line e) :
      ContinuedFault before defaultFeature text n line e
  | seen {b c : Case} (writes : Writes defaultFeature line c) (complete : c.Complete)
      (there : b ∈ before) (same : b.key = c.key) :
      ContinuedFault before defaultFeature text n line (.duplicate n c.name c.kind c.elem)

/-- The error of two texts put together: one in the form of a line comes before any in the content,
and one in the first text before any of its sort in the second. -/
inductive JointError (first second defaultFeature : String) : CatalogError → Prop where
  | formAbove {e : CatalogError} (form : e.IsForm) (h : parse first defaultFeature = .error e) :
      JointError first second defaultFeature e
  | formBelow {e : CatalogError} (regular : Regular first defaultFeature) (form : e.IsForm)
      (h : parse second defaultFeature = .error e) :
      JointError first second defaultFeature
        (e.mapLine ((Text.lines first.toList).length + ·))
  | contentAbove {e : CatalogError} (regular : Regular second defaultFeature)
      (content : ¬ e.IsForm) (h : parse first defaultFeature = .error e) :
      JointError first second defaultFeature e
  | contentBelow {above : Catalog} {e : CatalogError}
      (accepted : parse first defaultFeature = .ok above) (regular : Regular second defaultFeature)
      (h : EarliestFault second.toList
        (ContinuedFault above.cases defaultFeature second.toList) e) :
      JointError first second defaultFeature
        (e.mapLine ((Text.lines first.toList).length + ·))

/-- Reading the lines of two texts put together is reading those of the first, and then those of the
second under their new numbers. -/
theorem mapM_readLine_append (closed : Text.Closed s) (t : List Char) :
    (caseLines (s ++ t)).mapM (readLine defaultFeature) = (do
      let above ← (caseLines s).mapM (readLine defaultFeature)
      let below ← (((caseLines t).mapM (readLine defaultFeature)).map
        (List.map (Prod.map ((Text.lines s).length + ·) id))).mapError
          (·.mapLine ((Text.lines s).length + ·))
      return above ++ below) := by
  rw [caseLines_append closed, List.mapM_append, mapM_readLine_renumber]

theorem firstFault_append (seen : List Case.Key) (cs ds : List Numbered) :
    firstFault seen (cs ++ ds) =
      (firstFault seen cs).or (firstFault ((cs.map fun p => p.2.key).reverse ++ seen) ds) := by
  induction cs generalizing seen with
  | nil => simp [firstFault]
  | cons p cs ih =>
    obtain ⟨n, c⟩ := p
    simp only [List.cons_append, firstFault]
    cases fault? seen n c with
    | some e => rfl
    | none => simp [ih]

/-- The lines of the first text have numbers up to their count. -/
theorem le_of_mem_read (hread : List.Forall₂ (fun l p => readLine defaultFeature l = .ok p)
    (caseLines s) cs) {p : Numbered} (hp : p ∈ cs) : p.1 ≤ (Text.lines s).length := by
  obtain ⟨l, hl, hlp⟩ := Paired.exists_left hread hp
  rw [caseLines_eq] at hl
  have hbounds := bounds_of_mem_caseLinesFrom hl
  obtain ⟨hsame, -⟩ := readLine_eq_ok_iff.1 hlp
  omega

theorem StatementAt.pos (h : StatementAt text n line) : 0 < n := by
  obtain ⟨i, -, -, rfl, -⟩ := h
  omega

/-- A line of the second text is at fault after the first one when the case that it writes is, among
the cases of both. -/
theorem continuedFault_iff {above below : List Numbered} {k : Nat}
    (hread : List.Forall₂ (fun l p => readLine defaultFeature l = .ok p) (caseLines t) below)
    (hk : ∀ p ∈ above, p.1 ≤ k) (hn : 0 < n) :
    (∃ c, Writes defaultFeature line c ∧
        ListFault (above ++ below.map (Prod.map (k + ·) id)) (k + n) c e) ↔
      ∃ d, ContinuedFault (above.map Prod.snd) defaultFeature t n line d ∧
        e = d.mapLine (k + ·) := by
  constructor
  · rintro ⟨c, writes, h⟩
    cases h with
    | name empty => exact ⟨_, .own (.name writes empty), rfl⟩
    | pattern name empty => exact ⟨_, .own (.pattern writes name empty), rfl⟩
    | feature name pattern empty => exact ⟨_, .own (.feature writes name pattern empty), rfl⟩
    | @duplicate m b complete smaller there same =>
      rcases List.mem_append.1 there with there | there
      · exact ⟨_, .seen writes complete (List.mem_map_of_mem there) same, rfl⟩
      · obtain ⟨⟨i, d⟩, hd, heq⟩ := List.mem_map.1 there
        cases heq
        have hlt : i < n := Nat.lt_of_add_lt_add_left smaller
        obtain ⟨other, hother, hwrites⟩ := (mem_read_iff hread).1 hd
        exact ⟨_, .own (.duplicate writes complete hlt hother hwrites same), rfl⟩
  · rintro ⟨d, h, rfl⟩
    cases h with
    | own fault =>
      obtain ⟨c, writes, h⟩ := (contentFault_iff hread).1 fault
      refine ⟨c, writes, ?_⟩
      cases h with
      | name empty => exact .name empty
      | pattern name empty => exact .pattern name empty
      | feature name pattern empty => exact .feature name pattern empty
      | @duplicate m b complete smaller there same =>
        have hmem : (k + m, b) ∈ below.map (Prod.map (k + ·) id) :=
          List.mem_map.2 ⟨(m, b), there, rfl⟩
        exact .duplicate complete (by omega) (List.mem_append_right _ hmem) same
    | seen writes complete there same =>
      obtain ⟨⟨m, b⟩, hm, rfl⟩ := List.mem_map.1 there
      have hle := hk _ hm
      exact ⟨_, writes, .duplicate complete (by omega) (List.mem_append_left _ hm) same⟩

/-- After a first text that is accepted, the check stops at the first line of the second that is at
fault after it. -/
theorem check_append_eq_error_iff {above below : List Numbered} {k : Nat}
    (accepted : firstFault [] above = none) (hk : ∀ p ∈ above, p.1 ≤ k)
    (hincreasing : (above ++ below.map (Prod.map (k + ·) id)).Pairwise fun p q => p.1 < q.1)
    (hread : List.Forall₂ (fun l p => readLine defaultFeature l = .ok p) (caseLines t) below) :
    check (above ++ below.map (Prod.map (k + ·) id)) = .error e ↔
      ∃ d, EarliestFault t (ContinuedFault (above.map Prod.snd) defaultFeature t) d ∧
        e = d.mapLine (k + ·) := by
  have hrest : (below.map (Prod.map (k + ·) id)).Pairwise fun p q => p.1 < q.1 :=
    (List.pairwise_append.1 hincreasing).2.1
  have hkeys : ∀ key, key ∈ (above.map fun p => p.2.key).reverse ++ [] ↔
      ∃ p ∈ above, p.2.key = key := by simp
  rw [check_eq_error_iff_firstFault, firstFault_append, accepted, Option.none_or,
    firstFault_eq_some_iff hincreasing rfl hkeys, Earliest.iff_of_increasing hrest]
  have hmem : ∀ {n c}, (n, c) ∈ below → (k + n, c) ∈ below.map (Prod.map (k + ·) id) :=
    fun h => List.mem_map.2 ⟨_, h, rfl⟩
  constructor
  · rintro ⟨p, hp, hfault, hnone⟩
    obtain ⟨⟨n, c⟩, hc, rfl⟩ := List.mem_map.1 hp
    obtain ⟨line, there, writes⟩ := (mem_read_iff hread).1 hc
    obtain ⟨d, hd, rfl⟩ :=
      (continuedFault_iff hread hk there.pos).1 ⟨c, writes, hfault⟩
    refine ⟨d, ⟨n, line, there, hd, ?_⟩, rfl⟩
    intro m other d' hlt hother hd'
    obtain ⟨c', writes', hfault'⟩ :=
      (continuedFault_iff hread hk hother.pos).2 ⟨d', hd', rfl⟩
    have hc' := (mem_read_iff hread).2 ⟨other, hother, writes'⟩
    exact hnone _ (hmem hc') (Nat.add_lt_add_left hlt k) _ hfault'
  · rintro ⟨d, ⟨n, line, there, hd, hnone⟩, rfl⟩
    obtain ⟨c, writes, hfault⟩ := (continuedFault_iff hread hk there.pos).2 ⟨d, hd, rfl⟩
    have hc := (mem_read_iff hread).2 ⟨line, there, writes⟩
    refine ⟨(k + n, c), hmem hc, hfault, ?_⟩
    intro q hq hlt d' hfault'
    obtain ⟨⟨m, c'⟩, hc', rfl⟩ := List.mem_map.1 hq
    obtain ⟨other, hother, writes'⟩ := (mem_read_iff hread).1 hc'
    obtain ⟨d'', hd'', -⟩ :=
      (continuedFault_iff hread hk hother.pos).1 ⟨c', writes', hfault'⟩
    exact hnone m other d'' (Nat.lt_of_add_lt_add_left hlt) hother hd''

theorem isForm_error_iff {text : String} :
    parse text defaultFeature = .error e ∧ e.IsForm ↔
      (caseLines text.toList).mapM (readLine defaultFeature) = .error e := by
  rw [parse, Paired.bind_eq_error_iff]
  constructor
  · rintro ⟨h | ⟨cs, hread, hcheck⟩, hform⟩
    · exact h
    · exact absurd hform (not_isForm_of_check hread hcheck)
  · intro h
    exact ⟨.inl h, isForm_of_mapM h⟩

theorem regular_iff {text : String} : Regular text defaultFeature ↔
    ∃ cs, (caseLines text.toList).mapM (readLine defaultFeature) = .ok cs := by
  unfold Regular
  cases h : (caseLines text.toList).mapM (readLine defaultFeature) with
  | error e =>
    obtain ⟨hparse, hform⟩ := isForm_error_iff.2 h
    simp only [reduceCtorEq, exists_false, iff_false]
    intro hregular
    exact hregular e hparse hform
  | ok cs =>
    simp only [Except.ok.injEq, exists_eq', iff_true]
    intro e hparse hform
    rw [isForm_error_iff.1 ⟨hparse, hform⟩] at h
    cases h

/-- A text whose lines are all read is what the check makes of their cases. -/
theorem parse_of_read {text : String}
    (h : (caseLines text.toList).mapM (readLine defaultFeature) = .ok cs) :
    parse text defaultFeature = check cs := by
  rw [parse, h]
  rfl

section Joint

variable {first second : String} {above below : List Numbered}

theorem parse_append_of_form (closed : Text.Closed first.toList)
    (h : (caseLines first.toList).mapM (readLine defaultFeature) = .error e) :
    parse (first ++ second) defaultFeature = .error e := by
  rw [parse, String.toList_append, mapM_readLine_append closed, h]
  rfl

theorem parse_append_of_form_below (closed : Text.Closed first.toList)
    (habove : (caseLines first.toList).mapM (readLine defaultFeature) = .ok above)
    (h : (caseLines second.toList).mapM (readLine defaultFeature) = .error e) :
    parse (first ++ second) defaultFeature =
      .error (e.mapLine ((Text.lines first.toList).length + ·)) := by
  rw [parse, String.toList_append, mapM_readLine_append closed, habove, h]
  rfl

theorem mapM_readLine_append_of_read (closed : Text.Closed first.toList)
    (habove : (caseLines first.toList).mapM (readLine defaultFeature) = .ok above)
    (hbelow : (caseLines second.toList).mapM (readLine defaultFeature) = .ok below) :
    (caseLines (first ++ second).toList).mapM (readLine defaultFeature) =
      .ok (above ++ below.map (Prod.map ((Text.lines first.toList).length + ·) id)) := by
  rw [String.toList_append, mapM_readLine_append closed, habove, hbelow]
  rfl

/-- Both texts are read, and the content of the first is at fault. -/
theorem parse_append_of_content (closed : Text.Closed first.toList)
    (habove : (caseLines first.toList).mapM (readLine defaultFeature) = .ok above)
    (hbelow : (caseLines second.toList).mapM (readLine defaultFeature) = .ok below)
    (h : parse first defaultFeature = .error e) :
    parse (first ++ second) defaultFeature = .error e := by
  rw [parse_of_read habove, check_eq_error_iff_firstFault] at h
  rw [parse_of_read (mapM_readLine_append_of_read closed habove hbelow),
    check_eq_error_iff_firstFault, firstFault_append, h, Option.some_or]

/-- Both texts are read, and the first is accepted. -/
theorem parse_append_eq_error_iff_of_accepted (closed : Text.Closed first.toList)
    (habove : (caseLines first.toList).mapM (readLine defaultFeature) = .ok above)
    (hbelow : (caseLines second.toList).mapM (readLine defaultFeature) = .ok below)
    {catalog : Catalog} (h : parse first defaultFeature = .ok catalog) :
    parse (first ++ second) defaultFeature = .error e ↔
      ∃ d, EarliestFault second.toList
          (ContinuedFault catalog.cases defaultFeature second.toList) d ∧
        e = d.mapLine ((Text.lines first.toList).length + ·) := by
  have hjoint := mapM_readLine_append_of_read closed habove hbelow
  rw [parse_of_read habove, check_eq_ok_iff] at h
  have hle : ∀ p ∈ above, p.1 ≤ (Text.lines first.toList).length := fun p hp =>
    le_of_mem_read (Paired.mapM_eq_ok_iff.1 habove) hp
  rw [parse_of_read hjoint, ← h]
  exact check_append_eq_error_iff (firstFault_eq_none catalog h) hle
    (increasing_read (Paired.mapM_eq_ok_iff.1 hjoint)) (Paired.mapM_eq_ok_iff.1 hbelow)

/-- The stages of the two readings, one after the other, each with the error that it leaves. -/
theorem jointError_of_parse_append (closed : Text.Closed first.toList)
    (h : parse (first ++ second) defaultFeature = .error e) :
    JointError first second defaultFeature e := by
  cases habove : (caseLines first.toList).mapM (readLine defaultFeature) with
  | error d =>
    rw [parse_append_of_form closed habove] at h
    cases h
    obtain ⟨hparse, hform⟩ := isForm_error_iff.2 habove
    exact .formAbove hform hparse
  | ok above =>
    have hregular : Regular first defaultFeature := regular_iff.2 ⟨above, habove⟩
    cases hbelow : (caseLines second.toList).mapM (readLine defaultFeature) with
    | error d =>
      rw [parse_append_of_form_below closed habove hbelow] at h
      cases h
      obtain ⟨hparse, hform⟩ := isForm_error_iff.2 hbelow
      exact .formBelow hregular hform hparse
    | ok below =>
      have hregularBelow : Regular second defaultFeature := regular_iff.2 ⟨below, hbelow⟩
      cases hparse : parse first defaultFeature with
      | error d =>
        rw [parse_append_of_content closed habove hbelow hparse] at h
        cases h
        exact .contentAbove hregularBelow (hregular _ hparse) hparse
      | ok catalog =>
        obtain ⟨d, hd, rfl⟩ :=
          (parse_append_eq_error_iff_of_accepted closed habove hbelow hparse).1 h
        exact .contentBelow hparse hregularBelow hd

theorem JointError.parse_eq_error (closed : Text.Closed first.toList)
    (h : JointError first second defaultFeature e) :
    parse (first ++ second) defaultFeature = .error e := by
  cases h with
  | formAbove form h => exact parse_append_of_form closed (isForm_error_iff.1 ⟨h, form⟩)
  | formBelow regular form h =>
    obtain ⟨above, habove⟩ := regular_iff.1 regular
    exact parse_append_of_form_below closed habove (isForm_error_iff.1 ⟨h, form⟩)
  | contentAbove regular content h =>
    obtain ⟨below, hbelow⟩ := regular_iff.1 regular
    have hregular : Regular first defaultFeature := by
      intro d hd
      rw [h] at hd
      cases hd
      exact content
    obtain ⟨above, habove⟩ := regular_iff.1 hregular
    exact parse_append_of_content closed habove hbelow h
  | contentBelow accepted regular h =>
    obtain ⟨below, hbelow⟩ := regular_iff.1 regular
    obtain ⟨above, habove, -⟩ := Paired.bind_eq_ok_iff.1 accepted
    exact (parse_append_eq_error_iff_of_accepted closed habove hbelow accepted).2 ⟨_, h, rfl⟩

/-- Two catalogs without a common key as one. -/
def append (above below : Catalog)
    (apart : (above.cases.map Case.key).Disjoint (below.cases.map Case.key)) : Catalog where
  cases := above.cases ++ below.cases
  complete := by
    intro c hc
    rcases List.mem_append.1 hc with hc | hc
    · exact above.complete c hc
    · exact below.complete c hc
  distinct := by
    rw [List.map_append, List.nodup_append']
    exact ⟨above.distinct, below.distinct, apart⟩

/-- A joint text is accepted when both texts are and their cases have no key in common. -/
theorem parse_append_eq_ok_iff (closed : Text.Closed first.toList) {catalog : Catalog} :
    parse (first ++ second) defaultFeature = .ok catalog ↔
      ∃ above below, parse first defaultFeature = .ok above ∧
        parse second defaultFeature = .ok below ∧
        (above.cases.map Case.key).Disjoint (below.cases.map Case.key) ∧
        catalog.cases = above.cases ++ below.cases := by
  have hlines : statements (first ++ second).toList =
      statements first.toList ++ statements second.toList := by
    rw [String.toList_append]
    exact statements_append_of_closed closed second.toList
  rw [parse_eq_ok_iff, hlines, Paired.append_left_iff]
  constructor
  · rintro ⟨bs, cs, hbs, hcs, hcases⟩
    have hcomplete := catalog.complete
    have hdistinct := catalog.distinct
    rw [hcases] at hcomplete hdistinct
    rw [List.map_append, List.nodup_append'] at hdistinct
    obtain ⟨hb, hc, hapart⟩ := hdistinct
    refine ⟨⟨bs, fun b h => hcomplete b (List.mem_append_left cs h), hb⟩,
      ⟨cs, fun c h => hcomplete c (List.mem_append_right bs h), hc⟩, ?_, ?_, hapart, hcases⟩
    · exact parse_eq_ok_iff.2 hbs
    · exact parse_eq_ok_iff.2 hcs
  · rintro ⟨above, below, habove, hbelow, -, hcases⟩
    exact ⟨_, _, parse_eq_ok_iff.1 habove, parse_eq_ok_iff.1 hbelow, hcases⟩

end Joint

/-- Texts put together: the joint text is accepted exactly when both are and no key is in both, and
then it has the cases of the first followed by those of the second. Else its error is the one that
the parts tell. And lines without a case, put in anywhere in a text, change neither its cases nor
its error beyond the line number. -/
theorem parse_append {first : String} (closed : Text.Closed first.toList)
    (second defaultFeature : String) :
    ((∃ catalog, parse (first ++ second) defaultFeature = .ok catalog) ↔
      ∃ above below, parse first defaultFeature = .ok above ∧
        parse second defaultFeature = .ok below ∧
        (above.cases.map Case.key).Disjoint (below.cases.map Case.key)) ∧
    (∀ catalog above below, parse (first ++ second) defaultFeature = .ok catalog →
      parse first defaultFeature = .ok above → parse second defaultFeature = .ok below →
      catalog.cases = above.cases ++ below.cases) ∧
    (∀ e, parse (first ++ second) defaultFeature = .error e ↔
      JointError first second defaultFeature e) ∧
    ∀ (text other : String) (above inserted below : List (List Char)),
      Text.lines text.toList = above ++ below →
      Text.lines other.toList = above ++ inserted ++ below → (∀ l ∈ inserted, Silent l) →
      parse other defaultFeature = (parse text defaultFeature).mapError
        (·.mapLine (pushedBy inserted.length above.length)) := by
  refine ⟨⟨?_, ?_⟩, ?_,
    fun e => ⟨jointError_of_parse_append closed, JointError.parse_eq_error closed⟩, ?_⟩
  · rintro ⟨catalog, h⟩
    obtain ⟨above, below, habove, hbelow, hapart, -⟩ := (parse_append_eq_ok_iff closed).1 h
    exact ⟨above, below, habove, hbelow, hapart⟩
  · rintro ⟨above, below, habove, hbelow, hapart⟩
    exact ⟨above.append below hapart, (parse_append_eq_ok_iff closed).2
      ⟨above, below, habove, hbelow, hapart, rfl⟩⟩
  · intro catalog above below h habove hbelow
    obtain ⟨a, b, ha, hb, -, hcases⟩ := (parse_append_eq_ok_iff closed).1 h
    rw [habove] at ha
    rw [hbelow] at hb
    cases ha
    cases hb
    exact hcases
  · intro text other above inserted below htext hother hsilent
    exact parse_insert defaultFeature htext hother hsilent

/-- The second text is accepted alone. After the first, its line 2 repeats a key. -/
theorem parse_append_repeated :
    let first := "macc_ps,Packed128,f32,vfmadd.ps\n"
    let second := "# again\nmacc_ps,packed128,FLOAT32,vfmadd,avx"
    Text.Closed first.toList ∧ (∃ below, parse second "fma4" = .ok below) ∧
      parse (first ++ second) "fma4" = .error (.duplicate 3 "macc_ps" .packed128 .float32) := by
  intro first second
  let line := "macc_ps,packed128,FLOAT32,vfmadd,avx".toList
  have closed : Text.Closed first.toList := by decide
  have hfirst : statements first.toList = ["macc_ps,Packed128,f32,vfmadd.ps".toList] := by decide
  have hsecond : statements second.toList = [line] := by decide
  have hfields : fields line = ["macc_ps".toList, "packed128".toList, "FLOAT32".toList,
      "vfmadd".toList, "avx".toList] := by decide
  let b : Case := ⟨"macc_ps", .packed128, .float32, "vfmadd.ps", "fma4"⟩
  let c : Case := ⟨"macc_ps", .packed128, .float32, "vfmadd", "avx"⟩
  have hwrites : Writes "fma4" line c := .long hfields
    (OperandKind.ofWord?_eq_some_iff.1 (by decide)) (ElementType.ofWord?_eq_some_iff.1 (by decide))
  have habove : parse first "fma4" = .ok ⟨[b], by decide, by decide⟩ := by
    rw [parse_eq_ok_iff, hfirst]
    exact .cons (.short (by decide) rfl (.inr rfl) rfl) .nil
  have hbelow : parse second "fma4" = .ok ⟨[c], by decide, by decide⟩ := by
    rw [parse_eq_ok_iff, hsecond]
    exact .cons hwrites .nil
  have hregular : Regular second "fma4" := by
    intro e he
    rw [hbelow] at he
    cases he
  have hthere : StatementAt second.toList 2 line :=
    ⟨1, line, by decide, rfl, by decide, by decide, by decide⟩
  have hfault : EarliestFault second.toList
      (ContinuedFault [b] "fma4" second.toList) (.duplicate 2 "macc_ps" .packed128 .float32) := by
    refine ⟨2, line, hthere, .seen hwrites (by decide) List.mem_cons_self rfl, ?_⟩
    intro m other d hlt hother
    have hlines : caseLines second.toList = [(2, line)] := by decide
    rw [← mem_caseLines_iff, hlines, List.mem_singleton] at hother
    cases hother
    omega
  have hcount : (Text.lines first.toList).length = 1 := by decide
  have hjoint := JointError.contentBelow habove hregular hfault
  rw [hcount] at hjoint
  exact ⟨closed, ⟨_, hbelow⟩, ((parse_append closed second "fma4").2.2.1 _).2 hjoint⟩

end Catalog

end LoweringAudit
