import LoweringAudit.Proofs.CommandLine.Stages
import LoweringAudit.Proofs.Engine.Operations
import LoweringAudit.Proofs.Text.Utf8
/-!
The last line of a report in text. Every line of a report ends with a closing bracket or with an
operation, and operations hold no slash; so no line that is written of a case can be taken for the
summary's. Main statement: a report without its summary has no line of that form at its end.
-/
namespace LoweringAudit

namespace CommandLine

/-- What was written ends with this line. -/
def LastLine (output : List UInt8) (line : String) : Prop :=
  ∃ before, output = written (before ++ line ++ "\n") ∧
    (before = "" ∨ before.toList.getLast? = some '\n') ∧ '\n' ∉ line.toList

/-- The line of a summary. -/
def passedLine (p t : Nat) : String :=
  "PASSED " ++ toString p ++ "/" ++ toString t

theorem written_inj {s t : String} : written s = written t ↔ s = t := by
  rw [written, written, Utf8.encode_inj, String.toList_inj]

theorem written_append (s t : String) : written (s ++ t) = written s ++ written t := by
  simp [written]

/-- Two texts that end alike up to a character differ, if neither end holds the other's. -/
theorem false_of_ends {front front' tail tail' : List Char} {c d : Char}
    (h : front ++ c :: tail = front' ++ d :: tail') (hc : c ∉ d :: tail') (hd : d ∉ c :: tail) :
    False := by
  rcases List.append_eq_append_iff.1 h with ⟨as, -, htail⟩ | ⟨bs, -, htail⟩
  · exact hd (by rw [htail]; simp)
  · exact hc (by rw [htail]; simp)

theorem not_mem_toDigits {n : Nat} {c : Char} (h : c.isDigit = false) : c ∉ Nat.toDigits 10 n := by
  intro hc
  rw [Nat.isDigit_of_mem_toDigits (by omega) (by omega) hc] at h
  cases h

theorem toList_passedLine (p t : Nat) : (passedLine p t).toList =
    "PASSED ".toList ++ (Nat.toDigits 10 p ++ '/' :: Nat.toDigits 10 t) := by
  simp [passedLine]

theorem newline_not_mem_passedLine (p t : Nat) : '\n' ∉ (passedLine p t).toList := by
  have hp : '\n' ∉ Nat.toDigits 10 p := not_mem_toDigits (by decide)
  have ht : '\n' ∉ Nat.toDigits 10 t := not_mem_toDigits (by decide)
  rw [toList_passedLine]
  simp [hp, ht]

/-- Of two texts that go on alike after a character in neither, the parts before it are the same. -/
theorem eq_of_cut {front front' tail tail' : List Char} {c : Char}
    (h : front ++ c :: tail = front' ++ c :: tail') (hc : c ∉ front) (hc' : c ∉ front') :
    front = front' ∧ tail = tail' := by
  rcases List.append_eq_append_iff.1 h with ⟨as, hfront, htail⟩ | ⟨bs, hfront, htail⟩
  · cases as with
    | nil =>
      cases htail
      exact ⟨by simpa using hfront.symm, rfl⟩
    | cons x as =>
      cases htail
      exact absurd (by rw [hfront]; simp) hc'
  · cases bs with
    | nil =>
      cases htail
      exact ⟨by simpa using hfront, rfl⟩
    | cons x bs =>
      cases htail
      exact absurd (by rw [hfront]; simp) hc

theorem toDigits_inj {m n : Nat} (h : Nat.toDigits 10 m = Nat.toDigits 10 n) : m = n := by
  have hvalue := congrArg (Nat.ofDigitChars 10 · 0) h
  simpa only [Nat.ofDigitChars_ten_toDigits] using hvalue

theorem passedLine_inj {p t p' t' : Nat} :
    passedLine p t = passedLine p' t' ↔ p = p' ∧ t = t' := by
  constructor
  · intro h
    have hlist := congrArg String.toList h
    rw [toList_passedLine, toList_passedLine, List.append_cancel_left_eq] at hlist
    obtain ⟨hp, ht⟩ := eq_of_cut hlist (not_mem_toDigits (by decide)) (not_mem_toDigits (by decide))
    exact ⟨toDigits_inj hp, toDigits_inj ht⟩
  · rintro ⟨rfl, rfl⟩
    rfl

/-- What comes before a line ends with a line feed, so nothing of it is on the line. -/
theorem eq_nil_of_before {before : String} {front back : List Char}
    (hbefore : before = "" ∨ before.toList.getLast? = some '\n')
    (h : before.toList = front ++ back) (hback : '\n' ∉ back) : back = [] := by
  rcases hbefore with rfl | hlast
  · exact (List.append_eq_nil_iff.1 h.symm).2
  · cases hb : back.getLast? with
    | none => exact List.getLast?_eq_none_iff.1 hb
    | some c =>
      rw [h, List.getLast?_append, hb, Option.some_or, Option.some.injEq] at hlast
      rw [hlast] at hb
      exact absurd (List.mem_of_getLast? hb) hback

/-- There is one last line only. -/
theorem LastLine.unique {output : List UInt8} {line line' : String} (h : LastLine output line)
    (h' : LastLine output line') : line = line' := by
  obtain ⟨before, rfl, hbefore, hline⟩ := h
  obtain ⟨before', hsame, hbefore', hline'⟩ := h'
  have hlist := congrArg String.toList (written_inj.1 hsame)
  simp only [String.toList_append, List.append_cancel_right_eq] at hlist
  apply String.toList_injective
  -- The longer line would hold the line feed before the shorter one.
  rcases List.append_eq_append_iff.1 hlist with ⟨as, hmore, hrest⟩ | ⟨bs, hmore, hrest⟩
  · have hnot : '\n' ∉ as := fun hmem => hline (by rw [hrest]; simp [hmem])
    rw [hrest, eq_nil_of_before hbefore' hmore hnot, List.nil_append]
  · have hnot : '\n' ∉ bs := fun hmem => hline' (by rw [hrest]; simp [hmem])
    rw [hrest, eq_nil_of_before hbefore hmore hnot, List.nil_append]

end CommandLine

namespace Audit

open CommandLine

variable {a : Audit} {c : Case} {v : Verdict} {vs : List Verdict}

/-- The line of a case ends with a bracket, or with the operation that made it pass. -/
theorem line_end (a : Audit) (v : Verdict) :
    a.line v = "" ∨ (∃ front, (a.line v).toList = front ++ [']', '\n']) ∨
      ∃ front op, v.matched = some op ∧
        (a.line v).toList = front ++ ' ' :: (op.toList ++ ['\n']) := by
  unfold line
  split
  · refine .inr (.inl ⟨("FAIL " ++ v.case.title ++ ": expected \"" ++ v.case.pattern ++
      "\" not found in [" ++ ", ".intercalate v.trace.ops).toList, ?_⟩)
    simp
  · refine .inr (.inl ⟨("FAIL " ++ v.case.title ++ ": no \"" ++ a.targetPrefix ++
      "\" operation in [" ++ ", ".intercalate v.trace.ops).toList, ?_⟩)
    simp
  · next op hmatched _ =>
    split
    · refine .inr (.inr ⟨("PASS " ++ v.case.title ++ ":").toList, op, hmatched, ?_⟩)
      simp
    · exact .inl rfl

/-- The last line of some verdicts is the line of one of them. -/
theorem exists_last (a : Audit) (vs : List Verdict) :
    String.join (vs.map a.line) = "" ∨
      ∃ v ∈ vs, a.line v ≠ "" ∧ ∃ front, String.join (vs.map a.line) = front ++ a.line v := by
  induction vs with
  | nil => exact .inl rfl
  | cons v vs ih =>
    have hjoin : String.join ((v :: vs).map a.line) = a.line v ++ String.join (vs.map a.line) := by
      simp
    rw [hjoin]
    rcases ih with hempty | ⟨w, hw, hne, front, hfront⟩
    · by_cases hv : a.line v = ""
      · exact .inl (by simp [hv, hempty])
      · exact .inr ⟨v, List.mem_cons_self, hv, "", by simp [hempty]⟩
    · exact .inr ⟨w, List.mem_cons_of_mem _ hw, hne, a.line v ++ front,
        by rw [hfront, String.append_assoc]⟩

/-- Verdicts whose operations hold no slash do not end with the line of a summary. -/
theorem not_lastLine_text (h : ∀ v ∈ vs, ∀ op, v.matched = some op → '/' ∉ op.toList) (p t : Nat) :
    ¬ LastLine (a.text vs) (passedLine p t) := by
  rintro ⟨before, hwritten, -, -⟩
  have hjoin : String.join (vs.map a.line) = before ++ passedLine p t ++ "\n" :=
    written_inj.1 hwritten
  have hdigits : ∀ c : Char, c.isDigit = false → c ≠ '/' → c ∉ '/' :: Nat.toDigits 10 t := by
    intro c hc hslash hmem
    rcases List.mem_cons.1 hmem with heq | hmem
    · exact hslash heq
    · exact not_mem_toDigits hc hmem
  rcases a.exists_last vs with hempty | ⟨v, hv, hne, front, hfront⟩
  · rw [hempty] at hjoin
    have hnewline : "\n" = "" := (String.append_eq_empty_iff.1 hjoin.symm).2
    exact absurd hnewline (by decide)
  · rw [hfront] at hjoin
    have hlist := congrArg String.toList hjoin
    simp only [String.toList_append, toList_passedLine] at hlist
    -- From the end, the slash of a summary comes before any bracket or blank, and the bracket or
    -- the blank of a case comes before any slash.
    rcases a.line_end v with hnone | ⟨ahead, hline⟩ | ⟨ahead, op, hmatched, hline⟩
    · exact hne hnone
    · have hends : before.toList ++ "PASSED ".toList ++ Nat.toDigits 10 p ++
          '/' :: Nat.toDigits 10 t ++ ['\n'] = front.toList ++ ahead ++ ']' :: [] ++ ['\n'] := by
        simpa [hline] using hlist.symm
      exact false_of_ends (List.append_cancel_right hends) (by simp)
        (hdigits _ (by decide) (by decide))
    · have hends : before.toList ++ "PASSED ".toList ++ Nat.toDigits 10 p ++
          '/' :: Nat.toDigits 10 t ++ ['\n'] =
            front.toList ++ ahead ++ ' ' :: op.toList ++ ['\n'] := by
        simpa [hline] using hlist.symm
      exact false_of_ends (List.append_cancel_right hends) (by simpa using h v hv op hmatched)
        (hdigits _ (by decide) (by decide))

/-- After the lines of verdicts, the summary stands on a line of its own. -/
theorem lastLine_summary (a : Audit) (vs : List Verdict) (summary : Summary) :
    LastLine (a.text vs ++ written (summary.render ++ "\n"))
      (passedLine summary.passed summary.total) := by
  refine ⟨String.join (vs.map a.line), ?_, ?_, newline_not_mem_passedLine _ _⟩
  · rw [String.append_assoc, written_append (String.join _)]
    rfl
  · rcases a.exists_last vs with hempty | ⟨v, -, hne, front, hfront⟩
    · exact .inl hempty
    · refine .inr ?_
      rw [hfront]
      rcases a.line_end v with hnone | ⟨ahead, hline⟩ | ⟨ahead, op, -, hline⟩
      · exact absurd hnone hne
      · simp [hline]
      · simp [hline, List.getLast?_append, List.getLast?_cons]

end Audit

end LoweringAudit
