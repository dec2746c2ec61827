import LoweringAudit.Proofs.Symbol
/-!
Symbols in texts put together. What stands behind an at sign is read up to the first character that
no symbol has, so nothing that comes later has a say in it. Main statement: where a text is cut at
such a character, other than an at sign, it has the symbols of the first part and then those of the
second; and names that are written behind at signs, each with such a character or nothing after it,
are extracted as they are.
-/
namespace LoweringAudit.Symbol

variable {text other s t : List Char} {c : Char}

theorem ends_nil : Ends [] := by
  simp [Ends]

theorem ends_cons_iff : Ends (c :: t) ↔ isSymbolChar c = false := by
  simp [Ends]

/-- The text up to the first character that no symbol has. -/
def frontRun (text : List Char) : List Char :=
  text.takeWhile isSymbolChar

theorem frontRun_append (h : Ends t) : frontRun (s ++ t) = frontRun s := by
  rw [frontRun, List.takeWhile_append, Text.takeWhile_eq_nil h, List.append_nil]
  split
  · next hlength =>
    exact (List.Sublist.eq_of_length (List.takeWhile_sublist _) hlength).symm
  · rfl

/-- Whether a text begins with a symbol, and with which, is told by the run at its front. -/
theorem leading?_eq_some_iff_frontRun :
    leading? text = some s ↔ IsRun (frontRun text) ∧ Names (frontRun text) s := by
  rw [leading?_eq_some_iff]
  constructor
  · rintro ⟨run, rest, rfl, hrun, hrest, hs⟩
    have hfront : frontRun (run ++ rest) = run := takeWhile_append hrun.symbolic hrest
    rw [hfront]
    exact ⟨hrun, hs⟩
  · rintro ⟨hrun, hs⟩
    refine ⟨frontRun text, text.dropWhile isSymbolChar, List.takeWhile_append_dropWhile.symm, hrun,
      ?_, hs⟩
    intro d hd
    have hnot := List.head?_dropWhile_not isSymbolChar text
    rw [Option.mem_def.1 hd] at hnot
    simpa using hnot

theorem leading?_congr (h : frontRun text = frontRun other) : leading? text = leading? other := by
  apply Option.ext
  intro s
  rw [leading?_eq_some_iff_frontRun, leading?_eq_some_iff_frontRun, h]

/-- A text that goes on with no symbol character leaves the symbols before it alone. -/
theorem scan_append (h : Ends t) : scan (s ++ t) = scan s ++ scan t := by
  induction s with
  | nil => rfl
  | cons c s ih =>
    by_cases hc : c = '@'
    · subst hc
      rw [List.cons_append, scan_at, scan_at, leading?_congr (frontRun_append h), ih,
        List.append_assoc]
    · rw [List.cons_append, scan_cons_of_ne hc, scan_cons_of_ne hc, ih]

theorem scan_of_not_mem (h : '@' ∉ text) : scan text = [] := by
  simpa using scan_append_of_not_mem (t := []) h

/-- A name in a text, and what the text has behind it up to the next at sign that it writes. -/
structure Mention where
  name : String
  after : List Char

/-- The mention as it is written. -/
def Mention.spelling (m : Mention) : List Char :=
  '@' :: (m.name.toList ++ m.after)

/-- A text with some mentions in it. -/
def written (before : List Char) (mentions : List Mention) : List Char :=
  before ++ mentions.flatMap Mention.spelling

/-- The name is `llvm.` and more, without a dot at its end; what comes behind it has no at sign and
does not go on with it. -/
structure Mention.Closed (m : Mention) : Prop where
  isRun : IsRun m.name.toList
  trimmed : m.name.toList.getLast? ≠ some '.'
  silent : '@' ∉ m.after
  ends : Ends m.after

/-- A name that does not end in a dot is the symbol of its run. -/
theorem Mention.Closed.scan_spelling {m : Mention} (h : m.Closed) :
    scan m.spelling = [m.name.toList] := by
  have hnames : Names m.name.toList m.name.toList := ⟨⟨0, by simp⟩, h.trimmed⟩
  have hlead : leading? (m.name.toList ++ m.after) = some m.name.toList :=
    leading?_eq_some_iff.2 ⟨_, _, rfl, h.isRun, h.ends, hnames⟩
  rw [Mention.spelling, scan_at, hlead, scan_append_of_symbolic h.isRun.symbolic,
    scan_of_not_mem h.silent]
  rfl

theorem ends_flatMap_spelling (mentions : List Mention) :
    Ends (mentions.flatMap Mention.spelling) := by
  cases mentions with
  | nil => exact ends_nil
  | cons m mentions => exact ends_cons_iff.2 (by decide)

theorem scan_flatMap_spelling {mentions : List Mention} (h : ∀ m ∈ mentions, m.Closed) :
    scan (mentions.flatMap Mention.spelling) = mentions.map fun m => m.name.toList := by
  induction mentions with
  | nil => rfl
  | cons m mentions ih =>
    rw [List.flatMap_cons, scan_append (ends_flatMap_spelling mentions),
      (h m List.mem_cons_self).scan_spelling, ih fun n hn => h n (List.mem_cons_of_mem m hn)]
    rfl

/-- No symbol reaches over a character that no symbol has. So what is extracted of a text that such
a character cuts in two, if it is no at sign, is what is extracted of either part; and where names
are written behind at signs, none of them ending in a dot or going on in what comes next, and no
other at sign is in the text, these names are extracted, in order and as often as they occur. -/
theorem extract_separated :
    (∀ (a b : List Char) (c : Char), isSymbolChar c = false → c ≠ '@' →
      extract (a ++ c :: b) = extract a ++ extract b) ∧
    ∀ (before : List Char) (mentions : List Mention), '@' ∉ before →
      (∀ m ∈ mentions, m.Closed) →
      extract (written before mentions) = mentions.map Mention.name := by
  constructor
  · intro a b c hc hat
    rw [extract, scan_append (ends_cons_iff.2 hc), scan_cons_of_ne hat, List.map_append]
    rfl
  · intro before mentions hbefore hclosed
    rw [extract, written, scan_append (ends_flatMap_spelling mentions), scan_of_not_mem hbefore,
      scan_flatMap_spelling hclosed, List.nil_append, List.map_map]
    exact List.map_congr_left fun m _ => String.ofList_toList

/-- A sign that is cut from its name mentions nothing, and a name that is written twice is extracted
twice, at the end of the text as well. -/
theorem extract_separated_repeated :
    (isSymbolChar ' ' = false ∧
      extract ("@llvm.a. @".toList ++ ' ' :: "llvm.b".toList) =
        extract "@llvm.a. @".toList ++ extract "llvm.b".toList) ∧
    '@' ∉ "call ".toList ∧
    extract (written "call ".toList
      [⟨"llvm.x86.a_1", "(é.x)".toList⟩, ⟨"llvm..b", " ".toList⟩, ⟨"llvm.x86.a_1", []⟩]) =
      ["llvm.x86.a_1", "llvm..b", "llvm.x86.a_1"] := by
  refine ⟨⟨by decide, extract_separated.1 _ _ ' ' (by decide) (by decide)⟩, by decide,
    extract_separated.2 _ _ (by decide) ?_⟩
  have hrun : IsRun "llvm.x86.a_1".toList := ⟨"x86.a_1".toList, by decide, by decide, rfl⟩
  intro m hm
  simp only [List.mem_cons, List.not_mem_nil, or_false] at hm
  rcases hm with rfl | rfl | rfl
  · exact ⟨hrun, by decide, by decide, ends_cons_iff.2 (by decide)⟩
  · exact ⟨⟨".b".toList, by decide, by decide, rfl⟩, by decide, by decide,
      ends_cons_iff.2 (by decide)⟩
  · exact ⟨hrun, by decide, by decide, ends_nil⟩

end LoweringAudit.Symbol
