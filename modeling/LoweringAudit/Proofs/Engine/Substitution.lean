import LoweringAudit.Proofs.Engine.Template
/-!
Templates filled in one pass. A template in which every opening brace begins a placeholder is a list
of parts, characters that stand for themselves and placeholders, and it can be read off from left to
right. Main statement: where the name of the builtin has no opening brace, the placeholders of such
a template may be replaced one after the other or all at once, whatever the features are called.
-/
namespace LoweringAudit

namespace Placeholder

/-- The character that every placeholder begins with, and has nowhere else. -/
def opener : Char := '{'

/-- The placeholder that a text begins with. -/
def leading? (text : List Char) : Option Placeholder :=
  all.find? fun p => p.word.toList.isPrefixOf text

/-- Every opening brace begins a placeholder. -/
def WellFormed (template : List Char) : Prop :=
  ∀ rest, opener :: rest <:+ template → ∃ p : Placeholder, p.word.toList <+: opener :: rest

theorem mem_all (p : Placeholder) : p ∈ all := by
  cases p <;> decide

instance (template : List Char) : Decidable (WellFormed template) :=
  decidable_of_iff
    (∀ s ∈ template.tails, s.head? = some opener → ∃ p ∈ all, p.word.toList <+: s) <| by
    simp only [List.mem_tails]
    constructor
    · intro h rest hrest
      obtain ⟨p, -, hp⟩ := h _ hrest rfl
      exact ⟨p, hp⟩
    · intro h s hs hhead
      obtain ⟨rest, rfl⟩ := List.head?_eq_some_iff.1 hhead
      obtain ⟨p, hp⟩ := h rest hs
      exact ⟨p, p.mem_all, hp⟩

theorem exists_word (p : Placeholder) : ∃ tail, p.word.toList = opener :: tail := by
  cases p <;> exact ⟨_, rfl⟩

theorem leading?_eq_some {p : Placeholder} {text : List Char} (h : leading? text = some p) :
    p.word.toList <+: text := by
  have hp := List.find?_some (p := fun p : Placeholder => p.word.toList.isPrefixOf text) h
  exact List.isPrefixOf_iff_prefix.1 hp

theorem leading?_eq_none_iff {text : List Char} :
    leading? text = none ↔ ∀ p : Placeholder, ¬ p.word.toList <+: text := by
  simp only [leading?, List.find?_eq_none, List.isPrefixOf_iff_prefix]
  exact ⟨fun h p => h p p.mem_all, fun h p _ => h p⟩

/-- A text begins with one placeholder at most, since none is within another. -/
theorem word_unique {p q : Placeholder} {text : List Char} (hp : p.word.toList <+: text)
    (hq : q.word.toList <+: text) : p = q := by
  by_contra hne
  rcases List.prefix_or_prefix_of_prefix hp hq with h | h
  · exact (apart_word hne).not_within p.word_ne_nil h.isInfix
  · exact (apart_word (Ne.symm hne)).not_within q.word_ne_nil h.isInfix

theorem leading?_word_append (p : Placeholder) (s : List Char) :
    leading? (p.word.toList ++ s) = some p := by
  have hp : p.word.toList <+: p.word.toList ++ s := List.prefix_append _ _
  cases hlead : leading? (p.word.toList ++ s) with
  | none => exact absurd hp (leading?_eq_none_iff.1 hlead p)
  | some q => rw [word_unique hp (leading?_eq_some hlead)]

theorem opener_not_mem_kind (k : OperandKind) : opener ∉ k.name.toList := by
  cases k <;> decide

theorem opener_not_mem_elem (e : ElementType) : opener ∉ e.name.toList := by
  cases e <;> decide

end Placeholder

open Placeholder

/-- A part of a template: a character that stands for itself, or a placeholder. -/
inductive Part where
  | char (c : Char)
  | hole (p : Placeholder)
  deriving DecidableEq, Repr

namespace Part

variable {put : Placeholder → List Char} {r : Request} {done : List Placeholder} {q : Placeholder}
  {parts : List Part}

/-- The text of a part, given what is put for the placeholders. -/
def text (put : Placeholder → List Char) : Part → List Char
  | char c => [c]
  | hole p => put p

def join (put : Placeholder → List Char) (parts : List Part) : List Char :=
  parts.flatMap (text put)

@[simp] theorem join_char (put : Placeholder → List Char) (c : Char) (parts : List Part) :
    join put (char c :: parts) = c :: join put parts := rfl

@[simp] theorem join_hole (put : Placeholder → List Char) (p : Placeholder) (parts : List Part) :
    join put (hole p :: parts) = put p ++ join put parts := rfl

/-- Reads parts from left to right; `skip` characters of the last placeholder remain. -/
def readFrom : Nat → List Char → List Part
  | _, [] => []
  | skip + 1, _ :: rest => readFrom skip rest
  | 0, c :: rest =>
    match leading? (c :: rest) with
    | some p => hole p :: readFrom (p.word.toList.length - 1) rest
    | none => char c :: readFrom 0 rest

/-- The parts of a template: a placeholder wherever one begins behind the last, and characters. -/
def read (template : List Char) : List Part :=
  readFrom 0 template

theorem readFrom_eq_read_drop (n : Nat) (s : List Char) : readFrom n s = read (s.drop n) := by
  induction n generalizing s with
  | zero => rfl
  | succ n ih =>
    cases s with
    | nil => rfl
    | cons c rest => exact ih rest

theorem read_word_append (p : Placeholder) (s : List Char) :
    read (p.word.toList ++ s) = hole p :: read s := by
  have h := leading?_word_append p s
  obtain ⟨tail, htail⟩ := p.exists_word
  rw [htail, List.cons_append] at h ⊢
  rw [read, readFrom, h]
  simp [readFrom_eq_read_drop, htail]

theorem read_cons {c : Char} {s : List Char} (h : leading? (c :: s) = none) :
    read (c :: s) = char c :: read s := by
  rw [read, readFrom, h]
  rfl

/-- Reading a well-formed template loses nothing and leaves no opening brace to stand for itself. -/
theorem read_spec (template : List Char) (h : WellFormed template) :
    join (·.word.toList) (read template) = template ∧ char opener ∉ read template := by
  induction hn : template.length using Nat.strong_induction_on generalizing template with
  | _ n ih =>
    cases template with
    | nil => exact ⟨rfl, List.not_mem_nil⟩
    | cons c s =>
      cases hlead : leading? (c :: s) with
      | some p =>
        obtain ⟨rest, hrest⟩ := leading?_eq_some hlead
        have hshort : rest.length < n := by
          have hpos := List.length_pos_iff.2 p.word_ne_nil
          rw [← hn, ← hrest, List.length_append]
          omega
        have hwell : WellFormed rest := fun t ht => h t (ht.trans ⟨_, hrest⟩)
        obtain ⟨hjoin, hbrace⟩ := ih _ hshort rest hwell rfl
        rw [← hrest, read_word_append, join_hole, hjoin]
        exact ⟨rfl, by simpa using hbrace⟩
      | none =>
        have hc : c ≠ opener := by
          rintro rfl
          obtain ⟨p, hp⟩ := h s List.suffix_rfl
          exact leading?_eq_none_iff.1 hlead p hp
        have hwell : WellFormed s := fun t ht => h t (ht.trans (List.suffix_cons c s))
        obtain ⟨hjoin, hbrace⟩ := ih s.length (by simp [← hn]) s hwell rfl
        rw [read_cons hlead, join_char, hjoin]
        exact ⟨rfl, by simpa [Ne.symm hc] using hbrace⟩

/-- A template can be taken apart in one way only, for a placeholder begins as no other does, and no
other character as a placeholder. -/
theorem read_join (h : char opener ∉ parts) : read (join (·.word.toList) parts) = parts := by
  induction parts with
  | nil => rfl
  | cons part parts ih =>
    obtain ⟨hpart, hrest⟩ := not_or.1 (List.mem_cons.not.1 h)
    cases part with
    | char c =>
      have hnone : leading? (c :: join (·.word.toList) parts) = none := by
        rw [leading?_eq_none_iff]
        intro p hp
        obtain ⟨tail, htail⟩ := p.exists_word
        rw [htail, List.cons_prefix_cons] at hp
        exact hpart (hp.1 ▸ rfl)
      rw [join_char, read_cons hnone, ih hrest]
    | hole p => rw [join_hole, read_word_append, ih hrest]

/-- What stands for a placeholder when some of them have been replaced. -/
def partly (r : Request) (done : List Placeholder) (p : Placeholder) : List Char :=
  if p ∈ done then (p.value r).toList else p.word.toList

/-- Replacing one more placeholder touches nothing else, since an opening brace stands only where a
placeholder is left. -/
theorem fill_join (hdone : ∀ p ∈ done, opener ∉ (p.value r).toList) (hq : q ∉ done)
    (hparts : char opener ∉ parts) :
    fill r (join (partly r done) parts) q = join (partly r (q :: done)) parts := by
  obtain ⟨tail, htail⟩ := q.exists_word
  have hpass : ∀ {s t}, opener ∉ s → fill r (s ++ t) q = s ++ fill r t q := fun hs => by
    rw [fill, fill, htail, Text.replace_append_of_not_mem hs]
  induction parts with
  | nil => rfl
  | cons part parts ih =>
    obtain ⟨hpart, hrest⟩ := not_or.1 (List.mem_cons.not.1 hparts)
    cases part with
    | char c =>
      have hc : opener ∉ [c] := fun hmem => hpart (by rw [List.mem_singleton.1 hmem])
      rw [join_char, join_char, ← List.singleton_append, hpass hc, ih hrest]
      rfl
    | hole p =>
      rw [join_hole, join_hole, ← ih hrest]
      by_cases hp : p ∈ done
      · have hsame : partly r (q :: done) p = partly r done p := by simp [partly, hp]
        rw [hsame, partly, if_pos hp, hpass (hdone p hp)]
      · by_cases hpq : p = q
        · subst hpq
          rw [partly, if_neg hp, partly, if_pos List.mem_cons_self, fill,
            Text.replace_word_append p.word_ne_nil]
          rfl
        · have hsame : partly r (q :: done) p = partly r done p := by simp [partly, hp, hpq]
          rw [hsame, partly, if_neg hp]
          exact Text.replace_block (s := []) q.word_ne_nil (apart_word (Ne.symm hpq))

end Part

namespace Request

open LoweringAudit.Part

/-- The template with the values of all placeholders put in at once. -/
def substitute (r : Request) (template : String) : String :=
  String.ofList (join (fun p => (p.value r).toList) (Part.read template.toList))

theorem fillTemplate_eq_substitute {r : Request} {template : String}
    (hname : opener ∉ r.builtin.toList) (h : WellFormed template.toList) :
    r.fillTemplate template = r.substitute template := by
  obtain ⟨hjoin, hbrace⟩ := read_spec template.toList h
  have hkind := opener_not_mem_kind r.kind
  have helem := opener_not_mem_elem r.elem
  have hnone : (fun p : Placeholder => p.word.toList) = partly r [] := by
    funext p
    simp [partly]
  have hall : partly r [.features, .elem, .kind, .name] = fun p => (p.value r).toList := by
    funext p
    cases p <;> rfl
  rw [hnone] at hjoin
  -- The features come last, so that their names may hold braces.
  have hfilled : Placeholder.all.foldl (fill r) template.toList =
      join (partly r [.features, .elem, .kind, .name]) (Part.read template.toList) :=
    calc Placeholder.all.foldl (fill r) template.toList
      _ = fill r (fill r (fill r (fill r (join (partly r []) (Part.read template.toList)) .name)
            .kind) .elem) .features := by rw [hjoin]; rfl
      _ = fill r (fill r (fill r (join (partly r [.name]) (Part.read template.toList)) .kind)
            .elem) .features := by rw [fill_join (by simp) (by simp) hbrace]
      _ = fill r (fill r (join (partly r [.kind, .name]) (Part.read template.toList)) .elem)
            .features := by
          rw [fill_join (by simpa [Placeholder.value] using hname) (by simp) hbrace]
      _ = fill r (join (partly r [.elem, .kind, .name]) (Part.read template.toList))
            .features := by
          rw [fill_join (by simpa [Placeholder.value] using ⟨hkind, hname⟩) (by simp) hbrace]
      _ = join (partly r [.features, .elem, .kind, .name]) (Part.read template.toList) := by
          rw [fill_join (by simpa [Placeholder.value] using ⟨helem, hkind, hname⟩) (by simp) hbrace]
  rw [fillTemplate, hfilled, hall, substitute]

/-- Arguments from well-formed templates, one for each in order: the template with its placeholders
replaced in one pass. That is, a template is taken apart at its placeholders, in the only way there
is, and put together again with the values in their place. -/
theorem fillTemplates_eq_substitute {r : Request} {templates : List String}
    (hname : opener ∉ r.builtin.toList) (h : ∀ t ∈ templates, WellFormed t.toList) :
    r.fillTemplates templates = templates.map r.substitute ∧
    ∀ t ∈ templates, ∃ parts : List Part,
      (char opener ∉ parts ∧ t.toList = join (fun p => p.word.toList) parts) ∧
      (∀ others : List Part, char opener ∉ others →
        t.toList = join (fun p => p.word.toList) others → others = parts) ∧
      (r.substitute t).toList = join (fun p => (p.value r).toList) parts := by
  constructor
  · exact List.map_congr_left fun t ht => fillTemplate_eq_substitute hname (h t ht)
  · intro t ht
    obtain ⟨hjoin, hbrace⟩ := read_spec t.toList (h t ht)
    refine ⟨Part.read t.toList, ⟨hbrace, hjoin.symm⟩, fun others hothers hsame => ?_,
      String.toList_ofList⟩
    rw [hsame, read_join hothers]

/-- A name with a closing brace, and a feature that reads as a placeholder. -/
theorem fillTemplates_eq_substitute_braces :
    let r : Request := ⟨"macc\x7dpd", .packed256, .float64, .ofList ["{name}", "avx"]⟩
    let templates :=
      ["-b", "{name}:{kind}{elem}", "+{features}{name}\x7d"]
    opener ∉ r.builtin.toList ∧ (∀ t ∈ templates, WellFormed t.toList) ∧
      r.fillTemplates templates =
        ["-b", "macc\x7dpd:Packed256Float64", "+avx,{name}macc\x7dpd\x7d"] := by
  intro r templates
  have hname : opener ∉ r.builtin.toList := by decide
  have hwell : ∀ t ∈ templates, WellFormed t.toList := by decide
  refine ⟨hname, hwell, (fillTemplates_eq_substitute hname hwell).1.trans ?_⟩
  decide

end Request

end LoweringAudit
