import LoweringAudit.Proofs.Text.Pieces
import LoweringAudit.Proofs.Toml.Value
/-!
Documents made of sections: a header, and under it one setting on each line. Such a document is read
statement by statement, with the empty lines between sections passed over, and builds a table of one
table for each section. Main statement: reading the sections of a document gives their entries in
order, as long as no two sections share a name and no two settings of one section share a key.
-/
namespace LoweringAudit.Toml

variable {bound : Nat} {c : Char} {s name text rest : List Char} {v : Value}

/-- A name that needs no quotes as a key. -/
def Bare (name : List Char) : Prop :=
  name ≠ [] ∧ ∀ c ∈ name, isBare c = true

instance : Decidable (Bare name) :=
  decidable_of_iff (name.isEmpty = false ∧ name.all isBare = true) (by simp [Bare])

theorem Bare.exists_cons (h : Bare name) : ∃ c r, name = c :: r ∧ isBare c = true := by
  obtain ⟨hne, hall⟩ := h
  obtain ⟨c, r, rfl⟩ := List.exists_cons_of_ne_nil hne
  exact ⟨c, r, rfl, hall c List.mem_cons_self⟩

theorem ne_of_isBare {d : Char} (hc : isBare c = true) (hd : isBare d = false) : c ≠ d := by
  rintro rfl
  rw [hc] at hd
  cases hd

theorem isBlank_of_isBare (h : isBare c = true) : isBlank c = false := by
  have hspace : c ≠ ' ' := ne_of_isBare h (by decide)
  have htab : c ≠ '\t' := ne_of_isBare h (by decide)
  simp [isBlank, hspace, htab]

theorem step?_bare (h : Bare name) (hrest : ∀ c ∈ rest.head?, isBare c = false) :
    step? (name ++ rest) = some (String.ofList name, rest) := by
  obtain ⟨htake, hdrop⟩ := LoweringAudit.Text.span_append h.2 hrest
  obtain ⟨c, r, rfl, hc⟩ := h.exists_cons
  have hbasic : c ≠ '"' := ne_of_isBare hc (by decide)
  have hliteral : c ≠ '\'' := ne_of_isBare hc (by decide)
  rw [List.cons_append] at htake hdrop ⊢
  rw [step?]
  · simp [htake, hdrop]
  · simp [hbasic]
  · simp [hliteral]

/-- A key of one bare step. -/
theorem key?_bare (h : Bare name) (rest : List Char) (hrest : ∀ c ∈ rest.head?, isBare c = false)
    (hnext : (skipBlanks rest).head? ≠ some '.') :
    key? (name ++ rest) = some (⟨[], String.ofList name⟩, skipBlanks rest) := by
  have hstart : skipBlanks (name ++ rest) = name ++ rest := by
    obtain ⟨c, r, rfl, hc⟩ := h.exists_cons
    apply skipBlanks_eq_self
    simpa using isBlank_of_isBare hc
  have hsteps : steps? (depthBound - 1) (name ++ rest) =
      some ([String.ofList name], skipBlanks rest) := by
    rw [show depthBound - 1 = 78 + 1 from rfl, steps?, hstart, step?_bare h hrest]
    simp only
    split
    · next hdot => simp [hdot] at hnext
    · rfl
  simp [key?, hsteps, Key.ofSteps?]

/-- The end of a line with nothing left on it. -/
theorem lineEnd?_line (rest : List Char) : lineEnd? ('\n' :: rest) = some rest := by
  simp [lineEnd?, skipBlanks, List.dropWhile, isBlank, skipComment, lineFeed?]

/-- A header on its line. -/
def headerLine (name : List Char) : List Char :=
  '[' :: (name ++ [']', '\n'])

/-- A key and the text of a value on a line. -/
def settingLine (key text : List Char) : List Char :=
  key ++ " = ".toList ++ text ++ ['\n']

theorem statement?_headerLine (h : Bare name) (rest : List Char) :
    statement? (headerLine name ++ rest) = some (.table ⟨[], String.ofList name⟩, rest) := by
  have hline : headerLine name ++ rest = '[' :: (name ++ ']' :: '\n' :: rest) := by
    simp [headerLine]
  have hblank : skipBlanks (']' :: '\n' :: rest) = ']' :: '\n' :: rest :=
    skipBlanks_eq_self (by simp [isBlank])
  have hkey := key?_bare h (']' :: '\n' :: rest) (by simp; decide) (by simp [hblank])
  obtain ⟨c, r, rfl, hc⟩ := h.exists_cons
  have hbracket : c ≠ '[' := ne_of_isBare hc (by decide)
  rw [hblank] at hkey
  rw [hline]
  rw [List.cons_append] at hkey ⊢
  rw [statement?]
  · simp [hkey, lineEnd?_line]
  · simp [hbracket]

theorem statement?_settingLine (h : Bare name) (hvalue : Spells (depthBound - 1) text v)
    (rest : List Char) :
    statement? (settingLine name text ++ rest) =
      some (.assign ⟨[], String.ofList name⟩ v, rest) := by
  have hline : settingLine name text ++ rest =
      name ++ ' ' :: '=' :: ' ' :: (text ++ '\n' :: rest) := by
    simp [settingLine]
  have hblank : skipBlanks (' ' :: '=' :: ' ' :: (text ++ '\n' :: rest)) =
      '=' :: ' ' :: (text ++ '\n' :: rest) := by
    simp [skipBlanks, List.dropWhile, isBlank]
  have hkey := key?_bare h (' ' :: '=' :: ' ' :: (text ++ '\n' :: rest))
    (by simp; decide) (by simp [hblank])
  have hread := hvalue.reads ('\n' :: rest) (by simp [Text.FreeOfQuote])
  have hstart : skipBlanks (' ' :: (text ++ '\n' :: rest)) = text ++ '\n' :: rest := by
    have hhead : ∀ c ∈ (text ++ '\n' :: rest).head?, isBlank c = false := by
      cases text with
      | nil => simp [isBlank]
      | cons c text => simpa using hvalue.start c rfl
    have hdrop : skipBlanks (' ' :: (text ++ '\n' :: rest)) =
        skipBlanks (text ++ '\n' :: rest) := by
      simp [skipBlanks, List.dropWhile, isBlank]
    rw [hdrop, skipBlanks_eq_self hhead]
  have hpair : pair? (value? (depthBound - 1)) (settingLine name text ++ rest) =
      some ((⟨[], String.ofList name⟩, v), '\n' :: rest) := by
    rw [hblank] at hkey
    simp [pair?, hline, hkey, hstart, hread]
  obtain ⟨c, r, rfl, hc⟩ := h.exists_cons
  have hbracket : c ≠ '[' := ne_of_isBare hc (by decide)
  rw [statement?]
  · simp [hpair, lineEnd?_line]
  · simp [hbracket, settingLine]
  · simp [hbracket, settingLine]

/-- A text that consists of these statements. Each takes at least one character, so any bound past
the length of the text lets all of them be read. -/
def ReadsAs (s : List Char) (sts : List Statement) : Prop :=
  ∀ bound, s.length < bound → statements? bound s = some sts

variable {sts : List Statement} {st : Statement}

theorem readsAs_nil : ReadsAs [] [] := by
  intro bound hbound
  obtain ⟨n, rfl⟩ : ∃ n, bound = n + 1 := ⟨bound - 1, by simp at hbound; omega⟩
  rfl

/-- An empty line says nothing. -/
theorem ReadsAs.line (h : ReadsAs s sts) : ReadsAs ('\n' :: s) sts := by
  intro bound hbound
  obtain ⟨n, rfl⟩ : ∃ n, bound = n + 1 := ⟨bound - 1, by simp at hbound; omega⟩
  have hstart : skipBlanks ('\n' :: s) = '\n' :: s := skipBlanks_eq_self (by simp [isBlank])
  simp [statements?, hstart, lineEnd?_line, h n (by simpa using hbound)]

/-- A statement that stands before others. -/
theorem ReadsAs.cons (hc : Solid (c :: text)) (hread : statement? (c :: text ++ s) = some (st, s))
    (h : ReadsAs s sts) : ReadsAs (c :: text ++ s) (st :: sts) := by
  intro bound hbound
  obtain ⟨n, rfl⟩ : ∃ n, bound = n + 1 := ⟨bound - 1, by simp at hbound; omega⟩
  obtain ⟨hblank, hcomment, hline, hreturn⟩ := hc c rfl
  have hstart : skipBlanks (c :: text ++ s) = c :: text ++ s :=
    skipBlanks_eq_self (by simpa using hblank)
  rw [List.cons_append] at hstart hread hbound ⊢
  have hrest := h n (by simp at hbound; omega)
  simp [statements?, hstart, hread, hcomment, hline, hreturn, hrest]

theorem ReadsAs.header (hname : Bare name) (h : ReadsAs s sts) :
    ReadsAs (headerLine name ++ s) (.table ⟨[], String.ofList name⟩ :: sts) :=
  .cons (by simp [Solid, isBlank]) (statement?_headerLine hname s) h

theorem ReadsAs.setting (hname : Bare name) (hvalue : Spells (depthBound - 1) text v)
    (h : ReadsAs s sts) :
    ReadsAs (settingLine name text ++ s) (.assign ⟨[], String.ofList name⟩ v :: sts) := by
  have hread := statement?_settingLine hname hvalue s
  obtain ⟨c, r, rfl, hc⟩ := hname.exists_cons
  refine ReadsAs.cons ?_ hread h
  simpa [Solid] using ⟨isBlank_of_isBare hc, ne_of_isBare hc (by decide),
    ne_of_isBare hc (by decide), ne_of_isBare hc (by decide)⟩

/-- A key set to a value, with a text that spells the value. -/
structure Setting where
  key : String
  bare : Bare key.toList
  text : List Char
  value : Value
  spells : Spells (depthBound - 1) text value

namespace Setting

def line (a : Setting) : List Char :=
  settingLine a.key.toList a.text

def statement (a : Setting) : Statement :=
  .assign ⟨[], a.key⟩ a.value

def entry (a : Setting) : String × Value :=
  (a.key, a.value)

end Setting

/-- A header and the settings under it. -/
structure Section where
  name : String
  bare : Bare name.toList
  settings : List Setting
  distinct : (settings.map Setting.key).Nodup

namespace Section

def lines (sec : Section) : List Char :=
  headerLine sec.name.toList ++ sec.settings.flatMap Setting.line

def statements (sec : Section) : List Statement :=
  .table ⟨[], sec.name⟩ :: sec.settings.map Setting.statement

def entry (sec : Section) : String × Value :=
  (sec.name, .table .header (sec.settings.map Setting.entry))

/-- Sections with an empty line between them. -/
def document (sections : List Section) : List Char :=
  ['\n'].intercalate (sections.map lines)

end Section

theorem readsAs_settings (settings : List Setting) (h : ReadsAs s sts) :
    ReadsAs (settings.flatMap Setting.line ++ s) (settings.map Setting.statement ++ sts) := by
  induction settings with
  | nil => exact h
  | cons a settings ih =>
    have hread := ReadsAs.setting a.bare a.spells ih
    rw [String.ofList_toList] at hread
    simpa [Setting.line, Setting.statement] using hread

theorem readsAs_lines (sec : Section) (h : ReadsAs s sts) :
    ReadsAs (sec.lines ++ s) (sec.statements ++ sts) := by
  have hread := ReadsAs.header sec.bare (readsAs_settings sec.settings h)
  rw [String.ofList_toList] at hread
  simpa [Section.lines, Section.statements] using hread

theorem readsAs_document (sections : List Section) :
    ReadsAs (Section.document sections) (sections.flatMap Section.statements) := by
  induction sections with
  | nil => exact readsAs_nil
  | cons sec sections ih =>
    cases sections with
    | nil => simpa [Section.document] using readsAs_lines sec readsAs_nil
    | cons next more =>
      simpa [Section.document] using readsAs_lines sec ih.line

namespace Entries

variable {change : Option Value → Option Value} {key : String} {before : Entries}

theorem alter?_new (h : key ∉ before.map Prod.fst) :
    alter? change key before = (change none).map fun w => before ++ [(key, w)] := by
  induction before with
  | nil => rfl
  | cons e before ih =>
    simp only [List.map_cons, List.mem_cons, not_or] at h
    rw [alter?, if_neg (Ne.symm h.1), ih h.2, Option.map_map]
    rfl

theorem alter?_last (h : key ∉ before.map Prod.fst) :
    alter? change key (before ++ [(key, v)]) =
      (change (some v)).map fun w => before ++ [(key, w)] := by
  induction before with
  | nil => simp [alter?]
  | cons e before ih =>
    simp only [List.map_cons, List.mem_cons, not_or] at h
    rw [List.cons_append, alter?, if_neg (Ne.symm h.1), ih h.2, Option.map_map]
    rfl

end Entries

namespace Document

/-- The settings of a section fill the table that is last. -/
theorem carryOut?_settings {before : Entries} {name : String} (hname : name ∉ before.map Prod.fst)
    (settings : List Setting) (filled : Entries)
    (h : (filled.map Prod.fst ++ settings.map Setting.key).Nodup) :
    (settings.map Setting.statement).foldlM carryOut?
        ⟨before ++ [(name, .table .header filled)], [name]⟩ =
      some ⟨before ++ [(name, .table .header (filled ++ settings.map Setting.entry))], [name]⟩ := by
  induction settings generalizing filled with
  | nil => simp
  | cons a settings ih =>
    have hnew : a.key ∉ filled.map Prod.fst := by
      intro hmem
      exact (List.nodup_append.1 h).2.2 _ hmem _ List.mem_cons_self rfl
    have hstep : carryOut? ⟨before ++ [(name, .table .header filled)], [name]⟩ a.statement =
        some ⟨before ++ [(name, .table .header (filled ++ [a.entry]))], [name]⟩ := by
      simp [carryOut?, Setting.statement, Entries.at?, Entries.alter?_last hname,
        Value.inside?, Entries.assign?, Entries.alter?_new hnew, Setting.entry]
    have hrest := ih (filled ++ [a.entry]) (by simpa [Setting.entry] using h)
    rw [List.map_cons, List.foldlM_cons, hstep]
    simpa using hrest

/-- A section adds its table at the end. -/
theorem carryOut?_section {d : Document} (sec : Section)
    (hname : sec.name ∉ d.entries.map Prod.fst) :
    sec.statements.foldlM carryOut? d = some ⟨d.entries ++ [sec.entry], [sec.name]⟩ := by
  have hheader : carryOut? d (.table ⟨[], sec.name⟩) =
      some ⟨d.entries ++ [(sec.name, .table .header [])], [sec.name]⟩ := by
    simp [carryOut?, Entries.at?, Entries.define?, Entries.alter?_new hname]
  have hsettings := carryOut?_settings hname sec.settings [] (by simpa using sec.distinct)
  rw [Section.statements, List.foldlM_cons, hheader]
  simpa [Section.entry] using hsettings

theorem carryOut?_sections (sections : List Section) (d : Document)
    (h : (d.entries.map Prod.fst ++ sections.map Section.name).Nodup) :
    ((sections.flatMap Section.statements).foldlM carryOut? d).map Document.entries =
      some (d.entries ++ sections.map Section.entry) := by
  induction sections generalizing d with
  | nil => simp
  | cons sec sections ih =>
    have hname : sec.name ∉ d.entries.map Prod.fst := by
      intro hmem
      exact (List.nodup_append.1 h).2.2 _ hmem _ List.mem_cons_self rfl
    have hrest := ih ⟨d.entries ++ [sec.entry], [sec.name]⟩ (by simpa [Section.entry] using h)
    rw [List.flatMap_cons, List.foldlM_append, carryOut?_section sec hname]
    simpa using hrest

end Document

/-- Sections are read as the tables they spell, in order. -/
theorem parse?_document {sections : List Section} (h : (sections.map Section.name).Nodup) :
    parse? (String.ofList (Section.document sections)) = some (sections.map Section.entry) := by
  have hmark : dropMark (Section.document sections) = Section.document sections := by
    match sections with
    | [] => rfl
    | [sec] => rfl
    | sec :: next :: more => rfl
  have hread := readsAs_document sections _ (Nat.lt_succ_self _)
  obtain ⟨d, hbuild, hentries⟩ := Option.map_eq_some_iff.1
    (Document.carryOut?_sections sections Document.empty (by simpa [Document.empty] using h))
  rw [parse?, String.toList_ofList, hmark]
  simp only [hread, Document.ofStatements?, hbuild, Option.bind_eq_bind, Option.bind_some]
  simpa [Document.empty] using hentries

end LoweringAudit.Toml
