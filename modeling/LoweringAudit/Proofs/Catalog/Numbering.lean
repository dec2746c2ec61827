import LoweringAudit.Proofs.Catalog.Blame
import LoweringAudit.Proofs.Text.Lines
/-!
The numbers of the lines of a catalog's text. They have a say in the error of a text and in nothing
else: a text whose case lines are those of another under other numbers is read as the same cases, or
refused for the same reason. Main statement: lines without a case, put in anywhere in a text, change
neither its cases nor its error beyond the line number.
-/
namespace LoweringAudit

/-- The error with its line renumbered. -/
def CatalogError.mapLine (f : Nat → Nat) : CatalogError → CatalogError
  | unreadable path cause => unreadable path cause
  | fieldCount line got => fieldCount (f line) got
  | unknownKind line value => unknownKind (f line) value
  | unknownElem line value => unknownElem (f line) value
  | emptyName line => emptyName (f line)
  | emptyPattern line name => emptyPattern (f line) name
  | emptyFeature line name => emptyFeature (f line) name
  | duplicate line name kind elem => duplicate (f line) name kind elem

namespace Catalog

variable {defaultFeature : String} {text s line : List Char} {n : Nat} {c : Case}
  {f : Nat → Nat}

/-- The trimmed lines that hold cases, with the numbers that they have when counted from `n`. -/
def caseLinesFrom (n : Nat) (ls : List (List Char)) : List (Nat × List Char) :=
  ((ls.zipIdx n).map fun (line, n) => (n, Text.trim line)).filter fun (_, line) => isCaseLine line

theorem caseLinesFrom_append (n : Nat) (ls ms : List (List Char)) :
    caseLinesFrom n (ls ++ ms) = caseLinesFrom n ls ++ caseLinesFrom (n + ls.length) ms := by
  simp only [caseLinesFrom, List.zipIdx_append, List.map_append, List.filter_append]

theorem caseLines_eq (text : List Char) : caseLines text = caseLinesFrom 1 (Text.lines text) := by
  have hpieces : caseLines text = caseLinesFrom 1 (text.splitOn '\n') := rfl
  rw [hpieces]
  rcases Text.splitOn_eq_lines text with h | h
  · rw [h]
  · have hempty : ∀ n, caseLinesFrom n [[]] = [] := fun _ => rfl
    rw [h, caseLinesFrom_append, hempty, List.append_nil]

/-- Counting from another number on renumbers the lines. -/
theorem caseLinesFrom_add (k n : Nat) (ls : List (List Char)) :
    caseLinesFrom (k + n) ls = (caseLinesFrom n ls).map (Prod.map (k + ·) id) := by
  simp only [caseLinesFrom, ← List.map_snd_add_zipIdx_eq_zipIdx (n := k), List.map_map,
    List.filter_map]
  congr 1
  funext p
  simp [Nat.add_comm]

theorem bounds_of_mem_caseLinesFrom {k : Nat} {ls : List (List Char)}
    (h : (n, line) ∈ caseLinesFrom k ls) : k ≤ n ∧ n < k + ls.length := by
  obtain ⟨⟨raw, m⟩, hraw, heq⟩ := List.mem_map.1 (List.mem_filter.1 h).1
  cases heq
  exact ⟨List.le_snd_of_mem_zipIdx hraw, List.snd_lt_add_of_mem_zipIdx hraw⟩

/-- The lines of the second text come after those of the first. -/
theorem caseLines_append (closed : Text.Closed s) (t : List Char) :
    caseLines (s ++ t) =
      caseLines s ++ (caseLines t).map (Prod.map ((Text.lines s).length + ·) id) := by
  rw [caseLines_eq, Text.lines_append closed, caseLinesFrom_append, Nat.add_comm 1,
    caseLinesFrom_add, ← caseLines_eq, ← caseLines_eq]

theorem statements_append_of_closed (closed : Text.Closed s) (t : List Char) :
    statements (s ++ t) = statements s ++ statements t := by
  simp only [← map_snd_caseLines, caseLines_append closed, List.map_append, List.map_map]
  rfl

/-! Renumbered lines are read as the same cases, and refused for the same reasons. -/

theorem readFields_renumber {name kind elem pattern : List Char} {feature : String} :
    readFields (f n) name kind elem pattern feature =
      ((readFields n name kind elem pattern feature).map (Prod.map f id)).mapError
        (·.mapLine f) := by
  unfold readFields
  split
  · rfl
  split
  · rfl
  · rfl

theorem readLine_renumber (f : Nat → Nat) (l : Nat × List Char) :
    readLine defaultFeature (Prod.map f id l) =
      ((readLine defaultFeature l).map (Prod.map f id)).mapError (·.mapLine f) := by
  obtain ⟨n, line⟩ := l
  simp only [Prod.map_apply, id_eq, readLine]
  split
  · exact readFields_renumber
  · exact readFields_renumber
  · rfl

theorem mapM_readLine_renumber (f : Nat → Nat) (ls : List (Nat × List Char)) :
    (ls.map (Prod.map f id)).mapM (readLine defaultFeature) =
      ((ls.mapM (readLine defaultFeature)).map (List.map (Prod.map f id))).mapError
        (·.mapLine f) := by
  induction ls with
  | nil => rfl
  | cons l ls ih =>
    rw [List.map_cons, List.mapM_cons, List.mapM_cons, readLine_renumber, ih]
    cases readLine defaultFeature l with
    | error e => rfl
    | ok p =>
      cases ls.mapM (readLine defaultFeature) with
      | error e => rfl
      | ok ps => rfl

theorem fault?_renumber (f : Nat → Nat) (seen : List Case.Key) (n : Nat) (c : Case) :
    fault? seen (f n) c = (fault? seen n c).map (·.mapLine f) := by
  simp only [fault?, apply_ite (Option.map _)]
  rfl

theorem firstFault_renumber (f : Nat → Nat) (seen : List Case.Key) (cs : List Numbered) :
    firstFault seen (cs.map (Prod.map f id)) = (firstFault seen cs).map (·.mapLine f) := by
  induction cs generalizing seen with
  | nil => rfl
  | cons p cs ih =>
    obtain ⟨n, c⟩ := p
    simp only [List.map_cons, Prod.map_apply, id_eq, firstFault, fault?_renumber]
    cases fault? seen n c with
    | some e => rfl
    | none => exact ih _

theorem check_renumber (f : Nat → Nat) (cs : List Numbered) :
    check (cs.map (Prod.map f id)) = (check cs).mapError (·.mapLine f) := by
  have hcases : (cs.map (Prod.map f id)).map Prod.snd = cs.map Prod.snd := by simp
  cases h : check cs with
  | error e =>
    rw [check_eq_error_iff_firstFault] at h
    rw [Except.mapError, check_eq_error_iff_firstFault, firstFault_renumber, h, Option.map_some]
  | ok catalog =>
    rw [check_eq_ok_iff] at h
    rw [Except.mapError, check_eq_ok_iff, hcases, h]

/-- A text with the case lines of another under other numbers has its cases, or its error on the
line of the new number. -/
theorem parse_renumber {text other : String} (defaultFeature : String) (f : Nat → Nat)
    (h : caseLines other.toList = (caseLines text.toList).map (Prod.map f id)) :
    parse other defaultFeature = (parse text defaultFeature).mapError (·.mapLine f) := by
  rw [parse, parse, h, mapM_readLine_renumber]
  cases (caseLines text.toList).mapM (readLine defaultFeature) with
  | error e => rfl
  | ok cs => exact check_renumber f cs

/-- A line without a case: a blank one or a comment. -/
def Silent (line : List Char) : Prop :=
  Text.trim line = [] ∨ (Text.trim line).head? = some '#'

theorem caseLinesFrom_of_silent {ls : List (List Char)} (h : ∀ l ∈ ls, Silent l) (n : Nat) :
    caseLinesFrom n ls = [] := by
  apply List.filter_eq_nil_iff.2
  rintro ⟨m, line⟩ hline
  obtain ⟨⟨raw, k⟩, hraw, heq⟩ := List.mem_map.1 hline
  cases heq
  rw [isCaseLine_eq_true_iff]
  rintro ⟨hne, hhash⟩
  rcases h raw (List.fst_mem_of_mem_zipIdx hraw) with hs | hs
  · exact hne hs
  · exact hhash hs

/-- The number that a line has once `k` lines are put in after line `n`. -/
def pushedBy (k n line : Nat) : Nat :=
  if line ≤ n then line else k + line

/-- Lines put in that hold no case do no more than renumber the lines below them. -/
theorem caseLines_insert {other : List Char} {above inserted below : List (List Char)}
    (htext : Text.lines text = above ++ below)
    (hother : Text.lines other = above ++ inserted ++ below) (h : ∀ l ∈ inserted, Silent l) :
    caseLines other =
      (caseLines text).map (Prod.map (pushedBy inserted.length above.length) id) := by
  have habove : (caseLinesFrom 1 above).map (Prod.map (pushedBy inserted.length above.length) id) =
      caseLinesFrom 1 above := by
    conv_rhs => rw [← List.map_id (caseLinesFrom 1 above)]
    apply List.map_congr_left
    rintro ⟨n, line⟩ hline
    obtain ⟨-, hn⟩ := bounds_of_mem_caseLinesFrom hline
    have hstays : pushedBy inserted.length above.length n = n := if_pos (by omega)
    simp [hstays]
  have hbelow : (caseLinesFrom (1 + above.length) below).map
      (Prod.map (pushedBy inserted.length above.length) id) =
        caseLinesFrom (inserted.length + (1 + above.length)) below := by
    rw [caseLinesFrom_add inserted.length]
    apply List.map_congr_left
    rintro ⟨n, line⟩ hline
    obtain ⟨hn, -⟩ := bounds_of_mem_caseLinesFrom hline
    have hmoves : pushedBy inserted.length above.length n = inserted.length + n :=
      if_neg (by omega)
    simp [hmoves]
  have hcount : 1 + (above.length + inserted.length) = inserted.length + (1 + above.length) := by
    omega
  rw [caseLines_eq, caseLines_eq, htext, hother, caseLinesFrom_append, caseLinesFrom_append,
    caseLinesFrom_append, caseLinesFrom_of_silent h, List.append_nil, List.length_append,
    List.map_append, habove, hbelow, hcount]

/-- Lines put in anywhere that hold no case leave the cases as they are, and the error but for its
line. -/
theorem parse_insert {text other : String} (defaultFeature : String)
    {above inserted below : List (List Char)} (htext : Text.lines text.toList = above ++ below)
    (hother : Text.lines other.toList = above ++ inserted ++ below)
    (hsilent : ∀ l ∈ inserted, Silent l) :
    parse other defaultFeature = (parse text defaultFeature).mapError
      (·.mapLine (pushedBy inserted.length above.length)) :=
  parse_renumber defaultFeature _ (caseLines_insert htext hother hsilent)

end Catalog

end LoweringAudit
