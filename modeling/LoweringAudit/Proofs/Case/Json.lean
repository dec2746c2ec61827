import LoweringAudit.Case.Json
import LoweringAudit.Proofs.Json.RoundTrip
/-!
A case is read back from every text that holds it: the line it is encoded as, an array of its five
values, and an object whose members come in any order, with members of other names among them. An
object that lacks one of the five names, or has it more than once, holds no case.
-/
namespace LoweringAudit

namespace Json

/-- The values that stand for a word of an enumeration. -/
inductive Word (w : String) : Json → Prop where
  | text : Word w (text w)
  | object : Word w (object [(some w, null)])

variable {w key : String} {j value : Json}

theorem word?_of_word (h : Word w j) : j.word? = some w := by
  cases h <;> rfl

variable {members : List (Option String × Json)}

/-- The only member of a name is found. -/
theorem only?_of_filter {name : Option String}
    (h : members.filter (·.1 == some key) = [(name, value)]) : only? members key = some value := by
  unfold only?
  split
  · next heq =>
    cases h.symm.trans heq
    rfl
  · next hne => exact absurd h (hne name value)

/-- A name that is missing or repeated has no only member. -/
theorem only?_eq_none (h : (members.map Prod.fst).count (some key) ≠ 1) :
    only? members key = none := by
  have hlength : (members.filter (·.1 == some key)).length ≠ 1 := by
    rwa [List.count, List.countP_map, List.countP_eq_length_filter] at h
  unfold only?
  split
  · next heq => exact absurd (congrArg List.length heq) hlength
  · rfl

theorem record_eq (members : List (String × Json)) :
    record members = object (members.map (Prod.map some id)) := rfl

end Json

namespace Case

/-- The names of the members, in the order of the values. -/
def memberNames : List String :=
  ["name", "operand_kind", "element_type", "expected_op_name", "required_feature"]

/-- The five values of a case in order. -/
inductive Values (c : Case) : List Json → Prop where
  | mk {k e : Json} (kind : Json.Word c.kind.name k) (elem : Json.Word c.elem.name e) :
      Values c [.text c.name, k, e, .text c.pattern, .text c.feature]

variable {c : Case} {values : List Json}

theorem ofJson?_array (h : c.Values values) : ofJson? (.array values) = some c := by
  cases h with
  | mk kind elem =>
    simp [ofJson?, ofValues?, Json.text, Json.text?, Json.word?_of_word kind,
      Json.word?_of_word elem]

/-- In a record with the members of a case among others, each is the only one of its name. -/
theorem only?_member {members : List (String × Json)} (h : c.Values values)
    (hperm : (members.filter (·.1 ∈ memberNames)).Perm (memberNames.zip values)) :
    ∀ p ∈ memberNames.zip values,
      Json.only? (members.map (Prod.map some id)) p.1 = some p.2 := by
  intro p hp
  have hsingle : (memberNames.zip values).filter (·.1 == p.1) = [p] := by
    cases h
    simp only [memberNames, List.zip_cons_cons, List.zip_nil_left, List.mem_cons,
      List.not_mem_nil, or_false] at hp
    rcases hp with rfl | rfl | rfl | rfl | rfl <;> simp [memberNames]
  have hknown : (members.filter (·.1 ∈ memberNames)).filter (·.1 == p.1) =
      members.filter (·.1 == p.1) := by
    have hname : p.1 ∈ memberNames := (List.of_mem_zip hp).1
    rw [List.filter_filter]
    refine List.filter_congr fun m _ => ?_
    by_cases hm : m.1 = p.1 <;> simp [hm, hname]
  have hfilter := hperm.filter (·.1 == p.1)
  rw [hknown, hsingle, List.perm_singleton] at hfilter
  have hcomp : (·.1 == some p.1) ∘ Prod.map some id = fun m : String × Json => m.1 == p.1 := by
    funext m
    simp
  have hfound : (members.map (Prod.map some id)).filter (·.1 == some p.1) =
      [(some p.1, p.2)] := by
    rw [List.filter_map, hcomp, hfilter]
    rfl
  exact Json.only?_of_filter hfound

theorem ofJson?_record {members : List (String × Json)} (h : c.Values values)
    (hperm : (members.filter (·.1 ∈ memberNames)).Perm (memberNames.zip values)) :
    ofJson? (.record members) = some c := by
  have honly := only?_member h hperm
  cases h with
  | mk kind elem =>
    simp only [memberNames, List.zip_cons_cons, List.zip_nil_left, List.forall_mem_cons] at honly
    obtain ⟨hname, hkind, helem, hpattern, hfeature, -⟩ := honly
    simp [ofJson?, Json.record_eq, ofValues?, hname, hkind, helem, hpattern, hfeature, Json.text,
      Json.text?, Json.word?_of_word kind, Json.word?_of_word elem]

theorem ofJson?_eq_none {members : List (Option String × Json)} {key : String}
    (hkey : key ∈ memberNames) (h : (members.map Prod.fst).count (some key) ≠ 1) :
    ofJson? (.object members) = none := by
  have honly := Json.only?_eq_none h
  simp only [memberNames, List.mem_cons, List.not_mem_nil, or_false] at hkey
  rcases hkey with rfl | rfl | rfl | rfl | rfl <;> simp [ofJson?, honly]

theorem decode?_eq {text : String} {j : Json} (h : Json.Spells text.toList j) :
    decode? text = ofJson? j := by
  rw [decode?, Json.parse?_of_spells h]
  rfl

theorem values_texts (c : Case) :
    c.Values [.text c.name, .text c.kind.name, .text c.elem.name, .text c.pattern,
      .text c.feature] :=
  .mk .text .text

/-- A case is read from what it is encoded as, from every text of the array of its values and from
every text of an object with its members among any others. No case is read from an object in which
one of the names does not occur exactly once. -/
theorem decode?_spelled (c : Case) :
    decode? c.encode = some c ∧
      (∀ (values : List Json) (text : String), c.Values values →
        Json.Spells text.toList (.array values) → decode? text = some c) ∧
      (∀ (values : List Json) (members : List (String × Json)) (text : String), c.Values values →
        (members.filter (·.1 ∈ memberNames)).Perm (memberNames.zip values) →
        Json.Spells text.toList (.record members) → decode? text = some c) ∧
      ∀ (members : List (Option String × Json)) (key text : String), key ∈ memberNames →
        (members.map Prod.fst).count (some key) ≠ 1 →
        Json.Spells text.toList (.object members) → decode? text = none := by
  refine ⟨?_, fun values text h hspells => ?_, fun values members text h hperm hspells => ?_,
    fun members key text hkey hcount hspells => ?_⟩
  · have hvalid : c.toJson.Valid := by simp [toJson, Json.text]
    rw [encode, decode?_eq (Json.spells_compact hvalid)]
    exact ofJson?_record c.values_texts (List.Perm.refl _)
  · rw [decode?_eq hspells, ofJson?_array h]
  · rw [decode?_eq hspells, ofJson?_record h hperm]
  · rw [decode?_eq hspells, ofJson?_eq_none hkey hcount]

/-- A case with characters that are escaped or lie outside the basic plane. -/
def unusual : Case where
  name := "\"😀"
  kind := .packed256
  elem := .float64
  pattern := "a\\\x01"
  feature := ""

/-- The members of the case out of order, with another one among them. -/
def unusualMembers : List (String × Json) :=
  [("name", .text "\"😀"), ("element_type", .text "Float64"),
    ("more", .array [.record [("name", .null)]]), ("operand_kind", .text "Packed256"),
    ("expected_op_name", .text "a\\\x01"), ("required_feature", .text "")]

theorem decode?_spelled_unusual :
    decode? " [\"\\\"😀\",\x7b\"Packed256\":null\x7d,\"Float64\",\"a\\\\\\u0001\",\"\"]\n" =
        some unusual ∧
      decode? (Json.record unusualMembers).compact = some unusual ∧
      decode? (Json.record unusualMembers.tail).compact = none ∧
      decode? (Json.record (unusualMembers ++ unusualMembers)).compact = none := by
  obtain ⟨-, harray, hobject, hnone⟩ := decode?_spelled unusual
  have hvalid : ∀ m ∈ unusualMembers, m.2.Valid := by
    simp [unusualMembers, Json.text]
  refine ⟨?_, ?_, ?_, ?_⟩
  · have hvalues : unusual.Values [.text "\"😀", .object [(some "Packed256", .null)],
        .text "Float64", .text "a\\\x01", .text ""] := .mk .object .text
    have hspells : Json.Spells ([' '] ++ (Json.array [.text "\"😀",
        .object [(some "Packed256", .null)], .text "Float64", .text "a\\\x01", .text ""]).write ++
        ['\n']) _ :=
      .padded (List.forall_mem_singleton.2 rfl) (Json.spells_write (by simp [Json.text]))
        (List.forall_mem_singleton.2 rfl)
    exact harray _ _ hvalues hspells
  · exact hobject _ unusualMembers _ unusual.values_texts (.cons _ (.swap _ _ _))
      (Json.spells_compact (Json.valid_record.2 hvalid))
  · exact hnone _ "name" _ (by decide) (by decide)
      (Json.spells_compact (Json.valid_record.2 fun m hm => hvalid m (List.mem_of_mem_tail hm)))
  · exact hnone _ "name" _ (by decide) (by decide)
      (Json.spells_compact (Json.valid_record.2 (by simpa using hvalid)))

/-- Blanks, and a character spelled as a pair of escapes. -/
example : decode? ("\x7b \"name\" :\"\\ud83d\\uDE00\", \"element_type\":\"Float64\",\"more\":[]," ++
    "\"operand_kind\":\"Packed256\",\"expected_op_name\":\"\",\"required_feature\":\"\"\x7d") =
      some ⟨"😀", .packed256, .float64, "", ""⟩ := by decide +kernel

end Case

end LoweringAudit
