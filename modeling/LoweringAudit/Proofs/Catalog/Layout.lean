import LoweringAudit.Proofs.Catalog.Numbering
import Mathlib.Logic.Relation
/-!
What a catalog's text may be written like without being read otherwise. A text is edited at the
blanks around its fields, at its line ends, and in the spelling of kinds and element types; all that
is read of it is the outline that these edits leave alone. Main statement: texts that come from each
other by any number of edits are read as the same catalog, or refused on the same line for the same
thing, up to the letters of a word that names nothing.
-/
namespace LoweringAudit

namespace Text

variable {c : Char} {s t v w : List Char}

/-- A letter is lowered by 32 places, and nothing else is changed. -/
theorem toLower_cases (c : Char) : c.toLower = c ∨
    (0x41 ≤ c.toNat ∧ c.toNat ≤ 0x5A ∧ c.toLower.toNat = c.toNat + 0x20) := by
  unfold Char.toLower
  split
  · next h =>
    have hlow : 0x41 ≤ c.toNat := h.1
    have hhigh : c.toNat ≤ 0x5A := h.2
    refine .inr ⟨hlow, hhigh, ?_⟩
    have hadd : (c.val + 0x20).toNat = c.val.toNat + 0x20 := by
      have hval : c.val.toNat = c.toNat := rfl
      have hplaces : (0x20 : UInt32).toNat = 0x20 := rfl
      rw [UInt32.toNat_add]
      omega
    exact hadd
  · exact .inl rfl

theorem isBlank_of_between (h : 0x41 ≤ c.toNat ∧ c.toNat ≤ 0x7A) : isBlank c = false := by
  simp only [isBlank, blankRanges, List.any_cons, List.any_nil, Bool.or_false,
    Bool.or_eq_false_iff, Bool.and_eq_false_imp, decide_eq_true_eq, decide_eq_false_iff_not]
  omega

theorem isBlank_toLower (c : Char) : isBlank c.toLower = isBlank c := by
  rcases toLower_cases c with h | ⟨hlow, hhigh, h⟩
  · rw [h]
  · rw [isBlank_of_between (c := c) (by omega), isBlank_of_between (by omega)]

theorem lower_lower (s : List Char) : lower (lower s) = lower s := by
  rw [lower, lower, List.map_map]
  refine List.map_congr_left fun c _ => ?_
  rw [Function.comp_apply]
  rcases toLower_cases c with h | ⟨hlow, hhigh, h⟩
  · rw [h, h]
  · rcases toLower_cases c.toLower with hsame | ⟨-, hletter, -⟩
    · exact hsame
    · omega

theorem lower_trim (s : List Char) : lower (trim s) = trim (lower s) := by
  have hblank : isBlank ∘ Char.toLower = isBlank := funext isBlank_toLower
  simp only [lower, trim, trimEnd, trimStart, ← List.map_reverse,
    List.dropWhile_map, hblank]

/-- Texts of the same letters hold the same characters that stand before the letters. -/
theorem not_mem_of_lower_eq (hc : c.toNat < 0x41) (h : lower s = lower t) (hs : c ∉ s) :
    c ∉ t := by
  intro ht
  have hself : c.toLower = c := by
    rcases toLower_cases c with h | ⟨hlow, -, -⟩
    · exact h
    · omega
  have hmem : c.toLower ∈ lower s := by
    rw [h]
    exact List.mem_map_of_mem ht
  obtain ⟨d, hd, hlow⟩ := List.mem_map.1 hmem
  rcases toLower_cases d with hsame | ⟨hletter, -, hmoved⟩
  · rw [hsame, hself] at hlow
    exact hs (hlow ▸ hd)
  · rw [hlow, hself] at hmoved
    omega

end Text

/-- The errors are the same but for the case of letters in a word that is unknown. -/
inductive CatalogError.Alike : CatalogError → CatalogError → Prop where
  | same (e : CatalogError) : Alike e e
  | kind (line : Nat) {v w : String} (letters : Text.lower v.toList = Text.lower w.toList) :
      Alike (unknownKind line v) (unknownKind line w)
  | elem (line : Nat) {v w : String} (letters : Text.lower v.toList = Text.lower w.toList) :
      Alike (unknownElem line v) (unknownElem line w)

namespace Catalog

/-- The place between two parts of a text is at the edge of a field: a comma or a line end stands
next to it, or the text begins or ends there. -/
def Edge (s t : List Char) : Prop :=
  (∀ c ∈ s.getLast?, c = ',' ∨ c = '\n') ∨ ∀ c ∈ t.head?, c = ',' ∨ c = '\n'

/-- Blanks that end no line. -/
def Blanks (s : List Char) : Prop :=
  ∀ c ∈ s, Text.isBlank c = true ∧ c ≠ '\n'

/-- Between `s` and `t` stands the field of a line that `k` fields come before, and the whole of
it. -/
structure FieldAt (k : Nat) (s field t : List Char) : Prop where
  noComma : ',' ∉ field
  noLineEnd : '\n' ∉ field
  place : (s.rtakeWhile (· != '\n')).count ',' = k
  opened : ∀ c ∈ s.getLast?, c = ',' ∨ c = '\n'
  closed : ∀ c ∈ t.head?, c = ',' ∨ c = '\n'

/-- One change of a text. -/
inductive Edit : List Char → List Char → Prop where
  /-- Other blanks at the edge of a field. -/
  | blanks {s old new t : List Char} (edge : Edge s t) (blank : Blanks old)
      (blank_new : Blanks new) : Edit (s ++ old ++ t) (s ++ new ++ t)
  /-- A carriage return before a line end. -/
  | lineEnd (s t : List Char) : Edit (s ++ '\n' :: t) (s ++ '\r' :: '\n' :: t)
  /-- A line end after the text. -/
  | lastLineEnd (s : List Char) : Edit s (s ++ ['\n'])
  /-- Other letters in the field of the kind. -/
  | kind {s old new t : List Char} (field : FieldAt 1 s old t)
      (letters : Text.lower old = Text.lower new) : Edit (s ++ old ++ t) (s ++ new ++ t)
  /-- Other letters in the field of the element type. -/
  | elem {s old new t : List Char} (field : FieldAt 2 s old t)
      (letters : Text.lower old = Text.lower new) : Edit (s ++ old ++ t) (s ++ new ++ t)
  /-- The short name of an element type for the long one. -/
  | shortName {s t : List Char} (e : ElementType) (field : FieldAt 2 s e.name.toList t) :
      Edit (s ++ e.name.toList ++ t) (s ++ e.shortName.toList ++ t)

/-- Any number of changes, either way. -/
def Relaid : List Char → List Char → Prop :=
  Relation.EqvGen Edit

/-- The results of two readings are the same, or errors that are alike. -/
inductive ReadAlike {α : Type} : Except CatalogError α → Except CatalogError α → Prop where
  | ok (a : α) : ReadAlike (.ok a) (.ok a)
  | error {e d : CatalogError} (alike : e.Alike d) : ReadAlike (.error e) (.error d)

variable {defaultFeature : String} {s t v w raw line : List Char} {n : Nat}

theorem ReadAlike.refl {α : Type} (x : Except CatalogError α) : ReadAlike x x := by
  cases x with
  | error e => exact .error (.same e)
  | ok a => exact .ok a

theorem ReadAlike.bind {α β : Type} {x y : Except CatalogError α} (h : ReadAlike x y)
    (f : α → Except CatalogError β) : ReadAlike (x >>= f) (y >>= f) := by
  cases h with
  | ok a => exact .refl (f a)
  | error alike => exact .error alike

/-! The outline of a text: of each line that holds a case its number and fields, with the kind in
lower case and the element type by its name, or in lower case if it has none. -/

/-- The word of an element type, spelt in one way. -/
def settledElem (word : List Char) : List Char :=
  match ElementType.ofWord? word with
  | some e => e.name.toList
  | none => Text.lower word

def settled : List (List Char) → List (List Char)
  | [] => []
  | [name] => [name]
  | [name, kind] => [name, Text.lower kind]
  | name :: kind :: elem :: others => name :: Text.lower kind :: settledElem elem :: others

/-- The trimmed fields of a line with its blanks. -/
def cells (raw : List Char) : List (List Char) :=
  (raw.splitOn ',').map Text.trim

/-- Whether a line of these fields holds a case. -/
def holdsCase : List (List Char) → Bool
  | [] => false
  | [[]] => false
  | first :: _ => first.head? != some '#'

def outlineFrom (n : Nat) (rows : List (List (List Char))) : List (Nat × List (List Char)) :=
  ((rows.zipIdx n).map fun (row, n) => (n, row)).filter fun (_, row) => holdsCase row

def rows (text : List Char) : List (List (List Char)) :=
  (text.splitOn '\n').map fun raw => settled (cells raw)

def outline (text : List Char) : List (Nat × List (List Char)) :=
  outlineFrom 1 (rows text)

theorem ofWord?_settledElem (word : List Char) :
    ElementType.ofWord? (settledElem word) = ElementType.ofWord? word := by
  unfold settledElem
  split
  · next e he => rw [ElementType.ofWord?_name, he]
  · exact ElementType.ofWord?_congr (Text.lower_lower word)

theorem ofWord?_eq_of_settledElem (h : settledElem v = settledElem w) :
    ElementType.ofWord? v = ElementType.ofWord? w := by
  rw [← ofWord?_settledElem v, h, ofWord?_settledElem]

theorem lower_eq_of_settledElem (h : settledElem v = settledElem w)
    (unknown : ElementType.ofWord? v = none) : Text.lower v = Text.lower w := by
  have hw : ElementType.ofWord? w = none := by rw [← ofWord?_eq_of_settledElem h, unknown]
  simpa only [settledElem, unknown, hw] using h

theorem settledElem_congr (h : Text.lower v = Text.lower w) : settledElem v = settledElem w := by
  rw [settledElem, settledElem, ElementType.ofWord?_congr h, h]

theorem holdsCase_settled (row : List (List Char)) : holdsCase (settled row) = holdsCase row := by
  rcases row with _ | ⟨name, _ | ⟨kind, _ | ⟨elem, others⟩⟩⟩
  · rfl
  · rfl
  · cases name <;> rfl
  · cases name <;> rfl

/-- Rows that settle alike are alike field by field. -/
theorem settled_eq_cases {fs gs : List (List Char)} (h : settled fs = settled gs) :
    fs.length = gs.length ∧ ∀ name kind elem others, fs = name :: kind :: elem :: others →
      ∃ kind' elem', gs = name :: kind' :: elem' :: others ∧ Text.lower kind = Text.lower kind' ∧
        settledElem elem = settledElem elem' := by
  rcases fs with _ | ⟨a, _ | ⟨b, _ | ⟨c, fs⟩⟩⟩ <;>
    rcases gs with _ | ⟨a', _ | ⟨b', _ | ⟨c', gs⟩⟩⟩ <;>
    simp only [settled, reduceCtorEq, List.cons.injEq, and_false] at h
  · simp
  · simp
  · simp
  · obtain ⟨rfl, hkind, helem, rfl⟩ := h
    refine ⟨rfl, fun name kind elem others hfs => ?_⟩
    cases hfs
    exact ⟨b', c', rfl, hkind, helem⟩

theorem getLast?_rtakeWhile {p : Char → Bool} {c : Char}
    (h : c ∈ (s.rtakeWhile p).getLast?) : c ∈ s.getLast? ∧ p c = true := by
  obtain ⟨front, hfront⟩ := List.rtakeWhile_suffix p s
  refine ⟨?_, List.mem_rtakeWhile_imp (List.mem_of_getLast? h)⟩
  rw [← hfront, List.getLast?_append, Option.mem_def.1 h]
  rfl

theorem head?_takeWhile {p : Char → Bool} {c : Char} (h : c ∈ (t.takeWhile p).head?) :
    c ∈ t.head? ∧ p c = true := by
  cases t with
  | nil => simp at h
  | cons x t =>
    by_cases hx : p x = true
    · rw [List.takeWhile_cons_of_pos hx] at h
      cases h
      exact ⟨rfl, hx⟩
    · rw [List.takeWhile_cons_of_neg hx] at h
      cases h

/-- Blanks do not matter next to a comma or at the ends of a line. -/
theorem cells_blanks {old new : List Char}
    (edge : (∀ c ∈ s.getLast?, c = ',') ∨ ∀ c ∈ t.head?, c = ',')
    (blank : ∀ c ∈ old, Text.isBlank c = true) (blank_new : ∀ c ∈ new, Text.isBlank c = true) :
    cells (s ++ old ++ t) = cells (s ++ new ++ t) := by
  have hcomma : ∀ {bs : List Char}, (∀ c ∈ bs, Text.isBlank c = true) → ',' ∉ bs :=
    fun hb hmem => absurd (hb _ hmem) (by decide)
  obtain ⟨before, after, -, hsplit⟩ := Text.exists_splitOn_middle ',' s t
  have htrim : ∀ {bs : List Char}, (∀ c ∈ bs, Text.isBlank c = true) →
      Text.trim (s.rtakeWhile (· != ',') ++ bs ++ t.takeWhile (· != ',')) =
        Text.trim (s.rtakeWhile (· != ',') ++ t.takeWhile (· != ',')) := by
    intro bs hb
    rcases edge with h | h
    · have hopen : s.rtakeWhile (· != ',') = [] :=
        Text.rtakeWhile_eq_nil fun c hc => by simp [h c hc]
      rw [hopen, List.nil_append, List.nil_append, Text.trim_blank_append hb]
    · have hclose : t.takeWhile (· != ',') = [] :=
        Text.takeWhile_eq_nil fun c hc => by simp [h c hc]
      rw [hclose, List.append_nil, List.append_nil, Text.trim_append_blank hb]
  rw [cells, cells, hsplit _ (hcomma blank), hsplit _ (hcomma blank_new), List.map_append,
    List.map_append, List.map_cons, List.map_cons, htrim blank, htrim blank_new]

/-- A line has the same fields before and after it is trimmed. -/
theorem fields_trim (raw : List Char) : fields (Text.trim raw) = cells raw := by
  obtain ⟨front, back, hraw, hfront, hback⟩ := Text.exists_trim raw
  have hnone : ∀ c ∈ ([] : List Char), Text.isBlank c = true := by simp
  have hstart := cells_blanks (s := []) (t := Text.trim raw ++ back) (.inl (by simp)) hfront hnone
  have hend := cells_blanks (s := Text.trim raw) (t := []) (.inr (by simp)) hback hnone
  simp only [List.nil_append, List.append_nil] at hstart hend
  conv_rhs => rw [hraw]
  rw [List.append_assoc, hstart, hend]
  rfl

theorem isCaseLine_eq_holdsCase (h : Text.Trimmed line) :
    isCaseLine line = holdsCase (fields line) := by
  cases line with
  | nil => rfl
  | cons x l =>
    have hx : Text.isBlank x = false := h.1 x rfl
    obtain ⟨others, hl⟩ := Text.exists_splitOn_eq ',' l
    rw [fields, List.splitOn_cons_eq_if_modifyHead, hl]
    by_cases hc : x = ','
    · simp [hc, isCaseLine, holdsCase]
    · have htrim : Text.trim (x :: l.takeWhile (· != ',')) =
          x :: Text.trimEnd (l.takeWhile (· != ',')) := by
        rw [Text.trim, Text.trimStart_eq_self (by simpa using hx)]
        exact Text.trimEnd_append_cons hx [] _
      have hmark : (x != '#') = (some x != some '#') := rfl
      simp [hc, isCaseLine, holdsCase, htrim, hmark]

/-- The outline says of a text what is read of it. -/
theorem map_caseLines (text : List Char) :
    (caseLines text).map (Prod.map id fun line => settled (fields line)) = outline text := by
  have hlines : ∀ n (ls : List (List Char)),
      (caseLinesFrom n ls).map (Prod.map id fun line => settled (fields line)) =
        outlineFrom n (ls.map fun raw => settled (cells raw)) := by
    intro n ls
    induction ls generalizing n with
    | nil => rfl
    | cons raw ls ih =>
      have hcase : isCaseLine (Text.trim raw) = holdsCase (settled (cells raw)) := by
        rw [isCaseLine_eq_holdsCase (Text.trimmed_trim raw), fields_trim, holdsCase_settled]
      have ih := ih (n + 1)
      simp only [caseLinesFrom, outlineFrom, List.map_cons, List.zipIdx_cons, List.filter_cons,
        hcase] at ih ⊢
      split
      · rw [List.map_cons, ih, Prod.map_apply, id_eq, fields_trim]
      · exact ih
  exact hlines 1 _

/-! Each change leaves the outline as it is. -/

theorem rows_congr {old new : List Char} (hold : '\n' ∉ old) (hnew : '\n' ∉ new)
    (h : settled (cells (s.rtakeWhile (· != '\n') ++ old ++ t.takeWhile (· != '\n'))) =
      settled (cells (s.rtakeWhile (· != '\n') ++ new ++ t.takeWhile (· != '\n')))) :
    rows (s ++ old ++ t) = rows (s ++ new ++ t) := by
  obtain ⟨before, after, -, hsplit⟩ := Text.exists_splitOn_middle '\n' s t
  rw [rows, rows, hsplit old hold, hsplit new hnew, List.map_append, List.map_append,
    List.map_cons, List.map_cons, h]

theorem rows_blanks {old new : List Char} (edge : Edge s t) (blank : Blanks old)
    (blank_new : Blanks new) : rows (s ++ old ++ t) = rows (s ++ new ++ t) := by
  refine rows_congr (fun h => (blank _ h).2 rfl) (fun h => (blank_new _ h).2 rfl) ?_
  rw [cells_blanks ?_ (fun c hc => (blank c hc).1) fun c hc => (blank_new c hc).1]
  refine edge.imp (fun h c hc => ?_) fun h c hc => ?_
  · obtain ⟨hlast, hne⟩ := getLast?_rtakeWhile hc
    exact (h c hlast).resolve_right (by simpa using hne)
  · obtain ⟨hhead, hne⟩ := head?_takeWhile hc
    exact (h c hhead).resolve_right (by simpa using hne)

/-- The fields of the line around a field. -/
theorem FieldAt.exists_cells {k : Nat} {field : List Char} (h : FieldAt k s field t) :
    ∃ before after, before.length = k ∧ ∀ other, ',' ∉ other →
      cells (s.rtakeWhile (· != '\n') ++ other ++ t.takeWhile (· != '\n')) =
        before ++ Text.trim other :: after := by
  obtain ⟨before, after, hcount, hsplit⟩ := Text.exists_splitOn_middle ','
    (s.rtakeWhile (· != '\n')) (t.takeWhile (· != '\n'))
  have hopen : (s.rtakeWhile (· != '\n')).rtakeWhile (· != ',') = [] := by
    refine Text.rtakeWhile_eq_nil fun c hc => ?_
    obtain ⟨hlast, hne⟩ := getLast?_rtakeWhile hc
    simp [(h.opened c hlast).resolve_right (by simpa using hne)]
  have hclose : (t.takeWhile (· != '\n')).takeWhile (· != ',') = [] := by
    refine Text.takeWhile_eq_nil fun c hc => ?_
    obtain ⟨hhead, hne⟩ := head?_takeWhile hc
    simp [(h.closed c hhead).resolve_right (by simpa using hne)]
  refine ⟨before.map Text.trim, after.map Text.trim, ?_, fun other hother => ?_⟩
  · rw [List.length_map, hcount, h.place]
  · rw [cells, hsplit other hother, hopen, hclose, List.map_append, List.map_cons, List.nil_append,
      List.append_nil]

theorem settled_kind {before after : List (List Char)} (hlength : before.length = 1)
    (h : Text.lower v = Text.lower w) :
    settled (before ++ v :: after) = settled (before ++ w :: after) := by
  obtain ⟨name, rfl⟩ := List.length_eq_one_iff.1 hlength
  cases after with
  | nil => simp [settled, h]
  | cons elem others => simp [settled, h]

theorem settled_elem {before after : List (List Char)} (hlength : before.length = 2)
    (h : settledElem v = settledElem w) :
    settled (before ++ v :: after) = settled (before ++ w :: after) := by
  obtain ⟨name, kind, rfl⟩ := List.length_eq_two.1 hlength
  simp [settled, h]

/-- Another word in a field that settles like the old one. -/
theorem FieldAt.rows_eq {k : Nat} {old new : List Char} (h : FieldAt k s old t)
    (hcomma : ',' ∉ new) (hline : '\n' ∉ new)
    (hsettled : ∀ before after : List (List Char), before.length = k →
      settled (before ++ Text.trim old :: after) = settled (before ++ Text.trim new :: after)) :
    rows (s ++ old ++ t) = rows (s ++ new ++ t) := by
  obtain ⟨before, after, hlength, hcells⟩ := h.exists_cells
  apply rows_congr h.noLineEnd hline
  rw [hcells old h.noComma, hcells new hcomma]
  exact hsettled before after hlength

theorem FieldAt.rows_letters {k : Nat} {old new : List Char} (h : FieldAt k s old t)
    (letters : Text.lower old = Text.lower new)
    (hsettled : ∀ before after : List (List Char), before.length = k →
      settled (before ++ Text.trim old :: after) = settled (before ++ Text.trim new :: after)) :
    rows (s ++ old ++ t) = rows (s ++ new ++ t) :=
  h.rows_eq (Text.not_mem_of_lower_eq (by decide) letters h.noComma)
    (Text.not_mem_of_lower_eq (by decide) letters h.noLineEnd) hsettled

/-- A row without a case at the end says nothing. -/
theorem outlineFrom_append_silent (n : Nat) (rows : List (List (List Char)))
    {row : List (List Char)} (h : holdsCase row = false) :
    outlineFrom n (rows ++ [row]) = outlineFrom n rows := by
  simp [outlineFrom, List.zipIdx_append, h]

theorem Edit.outline_eq (h : Edit s t) : outline s = outline t := by
  cases h with
  | blanks edge blank blank_new => exact congrArg (outlineFrom 1) (rows_blanks edge blank blank_new)
  | lineEnd s t =>
    have hblank : Blanks ['\r'] := by
      intro c hc
      rw [List.mem_singleton.1 hc]
      decide
    have hrows : rows (s ++ [] ++ '\n' :: t) = rows (s ++ ['\r'] ++ '\n' :: t) :=
      rows_blanks (.inr (by simp)) (by simp [Blanks]) hblank
    simp only [List.append_nil, List.append_assoc, List.singleton_append] at hrows
    exact congrArg (outlineFrom 1) hrows
  | lastLineEnd s =>
    have hrows : rows (s ++ ['\n']) = rows s ++ [[[]]] := by
      rw [rows, List.splitOn_append_cons_self, List.map_append]
      rfl
    rw [outline, outline, hrows, outlineFrom_append_silent 1 _ rfl]
  | kind field letters =>
    refine congrArg (outlineFrom 1) (field.rows_letters letters fun before after hlength => ?_)
    apply settled_kind hlength
    rw [Text.lower_trim, letters, Text.lower_trim]
  | elem field letters =>
    refine congrArg (outlineFrom 1) (field.rows_letters letters fun before after hlength => ?_)
    apply settled_elem hlength
    apply settledElem_congr
    rw [Text.lower_trim, letters, Text.lower_trim]
  | shortName e field =>
    have hcomma : ',' ∉ e.shortName.toList := by cases e <;> decide
    have hline : '\n' ∉ e.shortName.toList := by cases e <;> decide
    refine congrArg (outlineFrom 1) (field.rows_eq hcomma hline fun before after hlength => ?_)
    apply settled_elem hlength
    cases e <;> decide

theorem Relaid.outline_eq (h : Relaid s t) : outline s = outline t := by
  induction h with
  | rel s t edit => exact edit.outline_eq
  | refl s => rfl
  | symm s t _ ih => exact ih.symm
  | trans s t u _ _ first second => exact first.trans second

/-! Texts of one outline are read alike. -/

theorem readFields_alike {name kind kind' elem elem' pattern : List Char} {feature : String}
    (hkind : Text.lower kind = Text.lower kind') (helem : settledElem elem = settledElem elem') :
    ReadAlike (readFields n name kind elem pattern feature)
      (readFields n name kind' elem' pattern feature) := by
  rw [readFields, readFields, ← OperandKind.ofWord?_congr hkind, ← ofWord?_eq_of_settledElem helem]
  cases OperandKind.ofWord? kind with
  | none => exact .error (.kind n (by simpa using hkind))
  | some k =>
    cases ht : ElementType.ofWord? elem with
    | none => exact .error (.elem n (by simpa using lower_eq_of_settledElem helem ht))
    | some e => exact .ok _

theorem readLine_alike {l m : List Char} (h : settled (fields l) = settled (fields m)) :
    ReadAlike (readLine defaultFeature (n, l)) (readLine defaultFeature (n, m)) := by
  obtain ⟨hlength, hfields⟩ := settled_eq_cases h
  rcases fields_cases l with ⟨h4, h5⟩ | ⟨name, kind, elem, pattern, feature, hl, hshort⟩
  · rw [readLine_of_count h4 h5, readLine_of_count (by rwa [← hlength]) (by rwa [← hlength]),
      hlength]
    exact .refl _
  · obtain ⟨kind', elem', hm, hkind, helem⟩ := hfields _ _ _ _ hl
    rw [readLine_of_written hl hshort, readLine_of_written hm hshort]
    exact readFields_alike hkind helem

/-- Lines that are read alike one by one are read alike together. -/
theorem mapM_readLine_alike {ls ms : List (Nat × List Char)}
    (h : List.Forall₂ (fun l m => ReadAlike (readLine defaultFeature l) (readLine defaultFeature m))
      ls ms) :
    ReadAlike (ls.mapM (readLine defaultFeature)) (ms.mapM (readLine defaultFeature)) := by
  induction h with
  | nil => exact .refl _
  | @cons l m ls ms hline _ ih =>
    rw [List.mapM_cons, List.mapM_cons]
    generalize readLine defaultFeature l = x at hline
    generalize readLine defaultFeature m = y at hline
    cases hline with
    | ok p => exact ih.bind _
    | error alike => exact .error alike

/-- Texts that are edited into each other are read as the same catalog, or refused with errors that
are alike. -/
theorem parse_relaid {text other : String} (h : Relaid text.toList other.toList)
    (defaultFeature : String) :
    ReadAlike (parse text defaultFeature) (parse other defaultFeature) := by
  have houtline := h.outline_eq
  rw [← map_caseLines, ← map_caseLines, ← List.forall₂_eq_eq_eq, List.forall₂_map_left_iff,
    List.forall₂_map_right_iff] at houtline
  refine (mapM_readLine_alike (houtline.imp ?_)).bind check
  rintro ⟨n, l⟩ ⟨m, k⟩ hsame
  obtain ⟨rfl, hfields⟩ := Prod.mk.inj hsame
  exact readLine_alike hfields

theorem parse_relaid_respelt :
    Relaid "a,Packed128,Float32,x".toList " a,PACKED128,f32,x\r\n".toList ∧
      ReadAlike (parse "a,Packed128,Float32,x" "sse") (parse " a,PACKED128,f32,x\r\n" "sse") := by
  have hblank : Edit ([] ++ [] ++ "a,Packed128,Float32,x".toList)
      ([] ++ " ".toList ++ "a,Packed128,Float32,x".toList) :=
    .blanks (.inl (by simp)) (by simp [Blanks]) (List.forall_mem_singleton.2 (by decide))
  have hkind : Edit (" a,".toList ++ "Packed128".toList ++ ",Float32,x".toList)
      (" a,".toList ++ "PACKED128".toList ++ ",Float32,x".toList) :=
    .kind ⟨by decide, by decide, by decide, by rintro _ ⟨⟩; decide, by rintro _ ⟨⟩; decide⟩
      (by decide)
  have helem : Edit (" a,PACKED128,".toList ++ ElementType.float32.name.toList ++ ",x".toList)
      (" a,PACKED128,".toList ++ ElementType.float32.shortName.toList ++ ",x".toList) :=
    .shortName .float32
      ⟨by decide, by decide, by decide, by rintro _ ⟨⟩; decide, by rintro _ ⟨⟩; decide⟩
  have hlast : Edit " a,PACKED128,f32,x".toList " a,PACKED128,f32,x\n".toList :=
    .lastLineEnd _
  have hend : Edit " a,PACKED128,f32,x\n".toList " a,PACKED128,f32,x\r\n".toList :=
    .lineEnd " a,PACKED128,f32,x".toList []
  have hall : Relaid "a,Packed128,Float32,x".toList " a,PACKED128,f32,x\r\n".toList :=
    .trans _ _ _ (.rel _ _ hblank) (.trans _ _ _ (.rel _ _ hkind) (.trans _ _ _ (.rel _ _ helem)
      (.trans _ _ _ (.rel _ _ hlast) (.rel _ _ hend))))
  exact ⟨hall, parse_relaid hall "sse"⟩

end Catalog

end LoweringAudit
