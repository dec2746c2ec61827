import Mathlib.Data.Nat.Find
/-!
Searching a text for the words of a language, as a search for a regular expression does it: the word
that begins leftmost is taken, and of the words that begin there the longest; then the search goes
on behind it, so that no two words that are found overlap. Main statement: every search ends with
some words, if the empty text is none.
-/
namespace LoweringAudit.Text

variable {language : List Char → Prop} {text : List Char}

/-- The words that a search finds, in order. -/
inductive Finds (language : List Char → Prop) : List Char → List (List Char) → Prop where
  | nothing {text : List Char} (absent : ∀ word, language word → ¬ word <:+: text) :
      Finds language text []
  | next {before word rest : List Char} {words : List (List Char)} (isWord : language word)
      (leftmost : ∀ i < before.length, ∀ other, language other →
        ¬ other <+: (before ++ (word ++ rest)).drop i)
      (longest : ∀ other, language other → other <+: word ++ rest → other.length ≤ word.length)
      (later : Finds language rest words) :
      Finds language (before ++ (word ++ rest)) (word :: words)

/-- Of the words that a text begins with, one is the longest. -/
theorem exists_longest {word : List Char} (hword : language word) (hbegins : word <+: text) :
    ∃ longest rest, language longest ∧ text = longest ++ rest ∧
      ∀ other, language other → other <+: text → other.length ≤ longest.length := by
  classical
  have htake : ∀ {w}, w <+: text → text.take w.length = w := fun h =>
    (List.prefix_iff_eq_take.1 h).symm
  let n := Nat.findGreatest (fun n => language (text.take n)) text.length
  have hn : n ≤ text.length := Nat.findGreatest_le _
  have hlanguage : language (text.take n) :=
    Nat.findGreatest_spec (P := fun n => language (text.take n)) hbegins.length_le
      (by rwa [htake hbegins])
  refine ⟨text.take n, text.drop n, hlanguage, (List.take_append_drop n text).symm, ?_⟩
  intro other hother hbegins
  have hle : other.length ≤ n :=
    Nat.le_findGreatest hbegins.length_le (by rwa [htake hbegins])
  rwa [List.length_take, Nat.min_eq_left hn]

/-- Of the places where words begin, one is the leftmost. -/
theorem exists_leftmost {word : List Char} (hword : language word) (hinside : word <:+: text) :
    ∃ before t, text = before ++ t ∧ (∃ word, language word ∧ word <+: t) ∧
      ∀ i < before.length, ∀ other, language other → ¬ other <+: text.drop i := by
  classical
  have hplace : ∃ i, ∃ word, language word ∧ word <+: text.drop i := by
    obtain ⟨before, rest, rfl⟩ := hinside
    refine ⟨before.length, word, hword, rest, ?_⟩
    rw [List.append_assoc, List.drop_left]
  refine ⟨text.take (Nat.find hplace), text.drop (Nat.find hplace),
    (List.take_append_drop _ text).symm, Nat.find_spec hplace, ?_⟩
  intro i hi other hother hbegins
  rw [List.length_take] at hi
  exact Nat.find_min hplace (Nat.lt_of_lt_of_le hi (Nat.min_le_left _ _)) ⟨other, hother, hbegins⟩

theorem exists_finds (hnil : ¬ language []) (text : List Char) :
    ∃ words, Finds language text words := by
  induction hn : text.length using Nat.strong_induction_on generalizing text with
  | _ n ih =>
    by_cases hword : ∃ word, language word ∧ word <:+: text
    · obtain ⟨word, hword, hinside⟩ := hword
      obtain ⟨before, t, rfl, ⟨word, hword, hbegins⟩, hleftmost⟩ := exists_leftmost hword hinside
      obtain ⟨word, rest, hword, rfl, hlongest⟩ := exists_longest hword hbegins
      have hshort : rest.length < n := by
        have hpos : 0 < word.length := by
          rw [List.length_pos_iff]
          rintro rfl
          exact hnil hword
        simp only [List.length_append] at hn
        omega
      obtain ⟨words, hwords⟩ := ih _ hshort rest rfl
      exact ⟨word :: words, .next hword hleftmost hlongest hwords⟩
    · exact ⟨[], .nothing fun word h hinside => hword ⟨word, h, hinside⟩⟩

end LoweringAudit.Text
