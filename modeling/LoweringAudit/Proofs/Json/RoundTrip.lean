import LoweringAudit.Json.Printer
import LoweringAudit.Proofs.Json.Grammar
/-!
What the printer writes is a text of the value, in one line and spread over lines, so that reading
undoes writing. A value may hold any literal as a number; the values here hold numbers of the
grammar, as the decimal digits of every number are.
-/
namespace LoweringAudit.Json

/-- Every number in the value is one of the grammar. -/
inductive Valid : Json → Prop where
  | null : Valid null
  | bool (b : Bool) : Valid (bool b)
  | number {literal : String} (h : Number literal.toList) : Valid (number literal)
  | string (text : Option String) : Valid (string text)
  | array {items : List Json} (h : ∀ j ∈ items, Valid j) : Valid (array items)
  | object {members : List (Option String × Json)} (h : ∀ m ∈ members, Valid m.2) :
      Valid (object members)

attribute [simp] Valid.null Valid.bool Valid.string

@[simp] theorem valid_array {items : List Json} : Valid (array items) ↔ ∀ j ∈ items, Valid j := by
  refine ⟨fun h => ?_, .array⟩
  cases h with
  | array h => exact h

@[simp] theorem valid_object {members : List (Option String × Json)} :
    Valid (object members) ↔ ∀ m ∈ members, Valid m.2 := by
  refine ⟨fun h => ?_, .object⟩
  cases h with
  | object h => exact h

@[simp] theorem valid_record {members : List (String × Json)} :
    Valid (record members) ↔ ∀ m ∈ members, Valid m.2 := by
  rw [record, valid_object, List.forall_mem_map]

/-! The decimal digits of a number. -/

theorem head?_toDigits {n : Nat} (h : 0 < n) : (Nat.toDigits 10 n).head? ≠ some '0' := by
  induction n using Nat.strong_induction_on with
  | _ n ih =>
    by_cases hn : n < 10
    · have hall : ∀ d < 10, 0 < d → [Nat.digitChar d].head? ≠ some '0' := by decide
      rw [Nat.toDigits_of_lt_base hn]
      exact hall n hn h
    · have hfirst := ih (n / 10) (by omega) (by omega)
      rw [Nat.toDigits_of_base_le (by omega) (by omega), List.head?_append_of_ne_nil _
        Nat.toDigits_ne_nil]
      exact hfirst

theorem whole_toDigits (n : Nat) : Whole (Nat.toDigits 10 n) := by
  by_cases hn : n = 0
  · rw [hn, Nat.toDigits_zero]
    exact .zero
  · refine .digits ⟨Nat.toDigits_ne_nil, fun c hc => ?_⟩ (head?_toDigits (by omega))
    exact Nat.isDigit_of_mem_toDigits (by omega) (by omega) hc

@[simp] theorem valid_nat (n : Nat) : Valid (nat n) := by
  have hnumber : Number (toString n).toList := by
    simpa using Number.positive (.mk (whole_toDigits n) .none .none)
  exact .number hnumber

@[simp] theorem valid_text (s : String) : Valid (text s) :=
  .string (some s)

@[simp] theorem valid_texts (items : List String) : Valid (texts items) := by
  simp [texts]

@[simp] theorem valid_textOrNull (s : Option String) : Valid (textOrNull s) := by
  cases s <;> simp [textOrNull]

/-! Items with commas between them, and blanks around them. -/

section Commas

variable {α : Type} {join : List α → List Char} {text : α → List Char} {f b s : List Char}
  {j : Json}

/-- Items are joined with commas by what puts one after each of them but the last. -/
theorem join_eq_intercalate (nil : join [] = []) (one : ∀ a, join [a] = text a)
    (more : ∀ a b rest, join (a :: b :: rest) = text a ++ ',' :: join (b :: rest))
    (items : List α) : join items = [','].intercalate (items.map text) := by
  induction items with
  | nil => simpa using nil
  | cons a items ih =>
    cases items with
    | nil => simpa using one a
    | cons b items =>
      rw [more, ih, List.map_cons, List.map_cons, List.map_cons, List.intercalate_cons_cons,
        List.append_assoc, List.singleton_append]

/-- What comes behind the items can be taken as a part of the last one. -/
theorem intercalate_concat_append (ss : List (List Char)) :
    [','].intercalate (ss ++ [s]) ++ b = [','].intercalate (ss ++ [s ++ b]) := by
  induction ss with
  | nil => simp
  | cons t ss ih =>
    rw [List.cons_append, List.cons_append, List.intercalate_cons_of_ne_nil (by simp),
      List.intercalate_cons_of_ne_nil (by simp), List.append_assoc, ih]

theorem blanks_nil : Blanks [] := by
  simp [Blanks]

theorem Spells.behind (front : Blanks f) (h : Spells s j) : Spells (f ++ s) j := by
  simpa using Spells.padded front h blanks_nil

theorem Spells.before (h : Spells s j) (back : Blanks b) : Spells (s ++ b) j :=
  .padded blanks_nil h back

/-- An array is spelled by texts of its items with commas between them and blanks at the end. -/
theorem spells_items {text : Json → List Char} {items : List Json}
    (h : ∀ j ∈ items, Spells (text j) j) (back : Blanks b) :
    Spells ('[' :: ([','].intercalate (items.map text) ++ b ++ [']'])) (array items) := by
  rcases List.eq_nil_or_concat items with rfl | ⟨init, last, rfl⟩
  · exact .noItems back
  · simp only [List.concat_eq_append, List.forall_mem_append, List.forall_mem_singleton] at h
    obtain ⟨hinit, hlast⟩ := h
    have hparts : ∀ i ∈ init.map (fun j => (text j, j)) ++ [(text last ++ b, last)],
        Spells i.1 i.2 :=
      List.forall_mem_append.2
        ⟨List.forall_mem_map.2 hinit, List.forall_mem_singleton.2 (hlast.before back)⟩
    have hspells := Spells.array (by simp) hparts
    simpa [Function.comp_def, ← intercalate_concat_append] using hspells

/-- An object is spelled by texts of its members in the same way. -/
theorem spells_members {name value : Option String × Json → List Char}
    {members : List (Option String × Json)} (hname : ∀ m ∈ members, SpellsName (name m) m.1)
    (hvalue : ∀ m ∈ members, Spells (value m) m.2) (back : Blanks b) :
    Spells ('{' :: ([','].intercalate (members.map fun m => name m ++ ':' :: value m) ++ b ++
      ['}'])) (object members) := by
  rcases List.eq_nil_or_concat members with rfl | ⟨init, last, rfl⟩
  · exact .noMembers back
  · simp only [List.concat_eq_append, List.forall_mem_append, List.forall_mem_singleton]
      at hname hvalue
    let part (b : List Char) (m : Option String × Json) : Member :=
      ⟨name m, m.1, value m ++ b, m.2⟩
    have hnames : ∀ m ∈ init.map (part []) ++ [part b last], SpellsName m.nameText m.name :=
      List.forall_mem_append.2
        ⟨List.forall_mem_map.2 hname.1, List.forall_mem_singleton.2 hname.2⟩
    have hvalues : ∀ m ∈ init.map (part []) ++ [part b last], Spells m.valueText m.value := by
      refine List.forall_mem_append.2
        ⟨List.forall_mem_map.2 fun m hm => ?_, List.forall_mem_singleton.2 (hvalue.2.before back)⟩
      exact (hvalue.1 m hm).before blanks_nil
    have hspells := Spells.object (by simp) hnames hvalues
    have htext : (part b last).text = name last ++ ':' :: value last ++ b := by
      simp [part, Member.text]
    rw [List.map_append, List.map_singleton, htext, ← intercalate_concat_append] at hspells
    simpa [Function.comp_def, part, Member.text, Member.content] using hspells

end Commas

/-- A literal as it is written, one without text as well. -/
theorem exists_writeString (text : Option String) :
    ∃ s us, writeString text = '"' :: (s ++ ['"']) ∧ Literal.Spells s us ∧
      (Literal.assemble us).map String.ofList = text := by
  cases text with
  | none =>
    have hspells := @Literal.Spells.number 'd' '8' '0' '0' 13 8 0 0 [] [] (by decide) (by decide)
      (by decide) (by decide) .nil
    exact ⟨_, _, by decide, hspells, by decide⟩
  | some t =>
    refine ⟨Literal.write t.toList, _, rfl, Literal.spells_write t.toList, ?_⟩
    rw [Literal.assemble_of_encodes (Literal.encodes_toNat t.toList), Option.map_some,
      String.ofList_toList]

theorem spells_writeString (text : Option String) : Spells (writeString text) (string text) := by
  obtain ⟨s, us, hwrite, hs, htext⟩ := exists_writeString text
  rw [hwrite, ← htext]
  exact .string hs

theorem spellsName_writeString {f : List Char} (front : Blanks f) (name : Option String) :
    SpellsName (f ++ writeString name) name := by
  obtain ⟨s, us, hwrite, hs, htext⟩ := exists_writeString name
  rw [hwrite, ← htext]
  exact .mk front hs blanks_nil

/-! Values in one line. -/

theorem writeItems_eq (items : List Json) :
    writeItems items = [','].intercalate (items.map write) :=
  join_eq_intercalate (by rw [writeItems]) (fun _ => by rw [writeItems])
    (fun _ _ _ => by rw [writeItems]) items

theorem writeMembers_eq (members : List (Option String × Json)) :
    writeMembers members =
      [','].intercalate (members.map fun m => writeString m.1 ++ ':' :: m.2.write) :=
  join_eq_intercalate (by rw [writeMembers]) (fun _ => by rw [writeMembers, writeMember])
    (fun _ _ _ => by rw [writeMembers, writeMember]) members

/-- A value is spelled by what is written for it. -/
theorem spells_write {j : Json} (h : Valid j) : Spells j.write j := by
  induction h with
  | null => exact .null
  | bool b => cases b with
    | false => exact .false
    | true => exact .true
  | @number literal h =>
    have hspells := Spells.number h
    rwa [String.ofList_toList] at hspells
  | string text => exact spells_writeString text
  | array _ ih =>
    rw [write, writeItems_eq]
    simpa using spells_items ih blanks_nil
  | object _ ih =>
    rw [write, writeMembers_eq]
    simpa using spells_members (fun m _ => spellsName_writeString blanks_nil m.1) ih blanks_nil

theorem spells_compact {j : Json} (h : Valid j) : Spells j.compact.toList j := by
  rw [compact, String.toList_ofList]
  exact spells_write h

/-! Values spread over lines. -/

theorem blanks_newLine (level : Nat) : Blanks (newLine level) := by
  intro c hc
  rcases List.mem_cons.1 hc with rfl | hc
  · rfl
  · rw [List.eq_of_mem_replicate hc]
    rfl

theorem spreadItems_eq (level : Nat) (items : List Json) :
    spreadItems level items =
      [','].intercalate (items.map fun j => newLine (level + 1) ++ spread (level + 1) j) :=
  join_eq_intercalate (by rw [spreadItems]) (fun _ => by rw [spreadItems])
    (fun _ _ _ => by rw [spreadItems]) items

theorem spreadMembers_eq (level : Nat) (members : List (Option String × Json)) :
    spreadMembers level members = [','].intercalate (members.map fun m =>
      (newLine (level + 1) ++ writeString m.1) ++ ':' :: ([' '] ++ spread (level + 1) m.2)) :=
  join_eq_intercalate (by rw [spreadMembers]) (fun _ => by rw [spreadMembers, spreadMember]; simp)
    (fun _ _ _ => by rw [spreadMembers, spreadMember]; simp) members

/-- A value is spelled by what is written for it at any level. -/
theorem spells_spread {j : Json} (h : Valid j) (level : Nat) : Spells (spread level j) j := by
  induction h generalizing level with
  | null => exact spells_write .null
  | bool b => exact spells_write (.bool b)
  | number h => exact spells_write (.number h)
  | string text => exact spells_write (.string text)
  | @array items _ ih =>
    cases items with
    | nil => exact .noItems blanks_nil
    | cons j rest =>
      rw [spread, spreadItems_eq]
      exact spells_items (fun j hj => (ih j hj (level + 1)).behind (blanks_newLine _))
        (blanks_newLine level)
  | @object members _ ih =>
    cases members with
    | nil => exact .noMembers blanks_nil
    | cons m rest =>
      rw [spread, spreadMembers_eq]
      have hblank : Blanks [' '] := List.forall_mem_singleton.2 rfl
      exact spells_members (fun m _ => spellsName_writeString (blanks_newLine _) m.1)
        (fun m hm => (ih m hm (level + 1)).behind hblank) (blanks_newLine level)

/-- Reading undoes spreading over lines, and a line end behind the value does no harm. -/
theorem parse?_pretty {j : Json} (h : Valid j) : parse? (j.pretty ++ "\n") = some j := by
  have hspells := (spells_spread h 0).before (List.forall_mem_singleton.2 rfl : Blanks ['\n'])
  apply parse?_of_spells
  simpa [pretty] using hspells

end LoweringAudit.Json
