import LoweringAudit.Engine.Template
import LoweringAudit.Proofs.Catalog.Grammar
import LoweringAudit.Proofs.Text.Replace
/-!
What a filled template depends on. The names of kinds and element types are apart from the words of
all placeholders, and so are these words from each other; only the name of the builtin, which is put
in first, can bring about an occurrence of another placeholder. Main statement: the filled template
depends on the kind, the element type or the features exactly when their placeholder stands in the
template with the name put in, and the names that never bring one about are those apart from its
word.
-/
namespace LoweringAudit

namespace Placeholder

variable {p q : Placeholder} {ps : List Placeholder} {r r' : Request} {block text s t : List Char}

theorem word_ne_nil (p : Placeholder) : p.word.toList ≠ [] := by
  cases p <;> decide

theorem apart_word (h : p ≠ q) : Text.Apart p.word.toList q.word.toList := by
  revert h
  cases p <;> cases q <;> decide

theorem apart_kind (p : Placeholder) (k : OperandKind) :
    Text.Apart p.word.toList k.name.toList := by
  cases p <;> cases k <;> decide

theorem apart_elem (p : Placeholder) (e : ElementType) :
    Text.Apart p.word.toList e.name.toList := by
  cases p <;> cases e <;> decide

/-- The placeholders replaced before one. -/
def earlier (p : Placeholder) : List Placeholder :=
  all.takeWhile (· != p)

/-- The placeholders replaced after one. -/
def later (p : Placeholder) : List Placeholder :=
  (all.dropWhile (· != p)).tail

theorem all_eq (p : Placeholder) : all = p.earlier ++ p :: p.later := by
  cases p <;> rfl

/-- The placeholders replaced before and after one are others. -/
theorem ne_of_mem (h : q ∈ p.earlier ∨ q ∈ p.later) : q ≠ p := by
  revert h
  cases p <;> cases q <;> decide

/-- Requests that put the same text for every placeholder but one. -/
def SameBut (p : Placeholder) (r r' : Request) : Prop :=
  ∀ q, q ≠ p → q.value r = q.value r'

/-- The text in which a placeholder is looked for. -/
def reached (r : Request) (template : String) (p : Placeholder) : List Char :=
  p.earlier.foldl (fill r) template.toList

theorem foldl_fill_congr (h : ∀ q ∈ ps, q.value r = q.value r') :
    ps.foldl (fill r) text = ps.foldl (fill r') text :=
  List.foldl_ext _ _ _ fun text q hq => by rw [fill, fill, h q hq]

/-- What is apart from the words of placeholders is still there when they are replaced. -/
theorem foldl_fill_block (h : ∀ q ∈ ps, Text.Apart q.word.toList block) :
    ps.foldl (fill r) (s ++ (block ++ t)) =
      ps.foldl (fill r) s ++ (block ++ ps.foldl (fill r) t) := by
  induction ps generalizing s t with
  | nil => rfl
  | cons q ps ih =>
    obtain ⟨hq, hps⟩ := List.forall_mem_cons.1 h
    simp only [List.foldl_cons]
    rw [fill, Text.replace_block q.word_ne_nil hq, ih hps]
    rfl

theorem infix_fill_iff (hne : p ≠ q) (h : Text.Apart p.word.toList (q.value r).toList) :
    p.word.toList <:+: fill r text q ↔ p.word.toList <:+: text :=
  Text.infix_replace_iff p.word_ne_nil (apart_word hne) h

/-- The kind and the element type bring about no other placeholder. -/
theorem infix_reached_iff {template : String} (h : p ≠ name) :
    p.word.toList <:+: reached r template p ↔ p.word.toList <:+: fill r template.toList name := by
  cases p with
  | name => exact absurd rfl h
  | kind => exact Iff.rfl
  | elem => exact infix_fill_iff (by decide) (apart_kind elem r.kind)
  | features =>
    refine (infix_fill_iff (q := elem) (by decide) (apart_elem features r.elem)).trans ?_
    exact infix_fill_iff (by decide) (apart_kind features r.kind)

theorem reached_eq_of_sameBut (h : SameBut p r r') (template : String) :
    reached r template p = reached r' template p :=
  foldl_fill_congr fun q hq => h q (ne_of_mem (.inl hq))

end Placeholder

namespace Request

open Placeholder

variable {p : Placeholder} {r r' : Request} {template : String}

theorem toList_fillTemplate (r : Request) (template : String) (p : Placeholder) :
    (r.fillTemplate template).toList =
      p.later.foldl (fill r) (fill r (reached r template p) p) := by
  rw [fillTemplate, String.toList_ofList, all_eq p, List.foldl_append, List.foldl_cons]
  rfl

theorem fillTemplate_eq_of_not_infix (hsame : SameBut p r r')
    (h : ¬ p.word.toList <:+: reached r template p) :
    r.fillTemplate template = r'.fillTemplate template := by
  have h' := h
  rw [reached_eq_of_sameBut hsame] at h'
  rw [← String.toList_inj, toList_fillTemplate r template p, toList_fillTemplate r' template p,
    fill, fill, Text.replace_eq_self h, Text.replace_eq_self h', reached_eq_of_sameBut hsame]
  exact foldl_fill_congr fun q hq => hsame q (ne_of_mem (.inr hq))

/-- Where a placeholder is found, its value stands in the filled template, unless a later
placeholder can meet it. -/
theorem value_eq_of_fillTemplate_eq (hsame : SameBut p r r')
    (hlen : (p.value r).toList.length = (p.value r').toList.length)
    (hr : ∀ q ∈ p.later, Text.Apart q.word.toList (p.value r).toList)
    (hr' : ∀ q ∈ p.later, Text.Apart q.word.toList (p.value r').toList)
    (h : p.word.toList <:+: reached r template p)
    (heq : r.fillTemplate template = r'.fillTemplate template) : p.value r = p.value r' := by
  obtain ⟨before, after, hcut⟩ := Text.exists_replace_eq p.word_ne_nil h
  have hlater : ∀ text, p.later.foldl (fill r) text = p.later.foldl (fill r') text := fun _ =>
    foldl_fill_congr fun q hq => hsame q (ne_of_mem (.inr hq))
  rw [← String.toList_inj, toList_fillTemplate r template p, toList_fillTemplate r' template p,
    ← reached_eq_of_sameBut hsame, fill, fill, hcut, hcut, foldl_fill_block hr, hlater, hlater,
    foldl_fill_block hr', List.append_cancel_left_eq] at heq
  exact String.toList_inj.1 (List.append_inj_left heq hlen)

/-- Requests that differ only in what they put for one placeholder are filled alike exactly when it
is not found, provided that the values can be told apart. -/
theorem forall_fillTemplate_eq_iff {Version : Type} {version : Version → Request} (hp : p ≠ name)
    (hsame : ∀ v, SameBut p (version v) r)
    (hlater : ∀ v, ∀ q ∈ p.later, Text.Apart q.word.toList (p.value (version v)).toList)
    (v w : Version) (hne : p.value (version v) ≠ p.value (version w))
    (hlen : (p.value (version v)).toList.length = (p.value (version w)).toList.length) :
    (∀ v, (version v).fillTemplate template = r.fillTemplate template) ↔
      ¬ p.word.toList <:+: fill r template.toList name := by
  constructor
  · intro hall hfound
    have hvw : SameBut p (version v) (version w) := fun q hq =>
      (hsame v q hq).trans (hsame w q hq).symm
    have hreached : p.word.toList <:+: reached (version v) template p := by
      rw [reached_eq_of_sameBut (hsame v)]
      exact (infix_reached_iff hp).2 hfound
    exact hne (value_eq_of_fillTemplate_eq hvw hlen (hlater v) (hlater w) hreached
      ((hall v).trans (hall w).symm))
  · intro hnone v
    apply fillTemplate_eq_of_not_infix (hsame v)
    rw [reached_eq_of_sameBut (hsame v)]
    exact (infix_reached_iff hp).not.2 hnone

/-- The names that bring no occurrence of a placeholder about, whatever the template. -/
theorem forall_infix_fill_name_iff (hp : p ≠ name) :
    (∀ template, ¬ p.word.toList <:+: template →
        ¬ p.word.toList <:+: fill r template name) ↔
      Text.Apart p.word.toList r.builtin.toList := by
  constructor
  · intro hall
    by_contra hmeets
    -- With the right texts around it, the name is a part of the placeholder's word.
    obtain ⟨s, t, ⟨hs, hslen⟩, ⟨ht, htlen⟩, hword⟩ :=
      Text.exists_infix_around (by cases p <;> decide) hmeets
    have hname : ∀ {u}, u <:+: p.word.toList → fill r u name = u := fun hu =>
      Text.replace_eq_self fun hn =>
        (apart_word (Ne.symm hp)).not_within name.word_ne_nil (hn.trans hu)
    have hfill : fill r (s ++ (name.word.toList ++ t)) name = s ++ (r.builtin.toList ++ t) :=
      calc fill r (s ++ (name.word.toList ++ t)) name
        _ = fill r s name ++ (r.builtin.toList ++ fill r t name) :=
          Text.replace_append_word_append name.word_ne_nil (by decide)
        _ = s ++ (r.builtin.toList ++ t) := by rw [hname hs, hname ht]
    have hnone : ¬ p.word.toList <:+: s ++ (name.word.toList ++ t) := by
      rw [Text.infix_block_iff p.word_ne_nil (apart_word hp), not_or]
      exact ⟨fun h => absurd h.length_le (Nat.not_le.2 hslen),
        fun h => absurd h.length_le (Nat.not_le.2 htlen)⟩
    apply hall _ hnone
    rw [hfill]
    exact hword
  · intro happart template hnone
    exact (infix_fill_iff hp happart).not.2 hnone

theorem forall_features_iff :
    (∀ f, { r with features := f }.fillTemplate template = r.fillTemplate template) ↔
      ¬ Placeholder.features.word.toList <:+: fill r template.toList .name := by
  have hsame : ∀ f, SameBut .features { r with features := f } r := by
    intro f q hq
    cases q with
    | features => exact absurd rfl hq
    | _ => rfl
  have hne : (FeatureSet.ofList ["a"]).joined ≠ (FeatureSet.ofList ["b"]).joined := by decide
  have hlen : (FeatureSet.ofList ["a"]).joined.toList.length =
      (FeatureSet.ofList ["b"]).joined.toList.length := by decide
  -- Nothing is replaced after the features, so that they may read as anything.
  have hlater : ∀ q ∈ Placeholder.features.later, False := by decide
  exact forall_fillTemplate_eq_iff (by decide) hsame (fun _ q hq => (hlater q hq).elim) _ _ hne hlen

theorem forall_kind_iff :
    (∀ k, { r with kind := k }.fillTemplate template = r.fillTemplate template) ↔
      ¬ Placeholder.kind.word.toList <:+: fill r template.toList .name := by
  have hsame : ∀ k, SameBut .kind { r with kind := k } r := by
    intro k q hq
    cases q with
    | kind => exact absurd rfl hq
    | _ => rfl
  have hne : OperandKind.packed128.name ≠ OperandKind.scalar128.name := by decide
  have hlen : OperandKind.packed128.name.toList.length =
      OperandKind.scalar128.name.toList.length := by decide
  exact forall_fillTemplate_eq_iff (by decide) hsame (fun k q _ => apart_kind q k)
    .packed128 .scalar128 hne hlen

theorem forall_elem_iff :
    (∀ e, { r with elem := e }.fillTemplate template = r.fillTemplate template) ↔
      ¬ Placeholder.elem.word.toList <:+: fill r template.toList .name := by
  have hsame : ∀ e, SameBut .elem { r with elem := e } r := by
    intro e q hq
    cases q with
    | elem => exact absurd rfl hq
    | _ => rfl
  have hne : ElementType.float32.name ≠ ElementType.float64.name := by decide
  have hlen : ElementType.float32.name.toList.length = ElementType.float64.name.toList.length := by
    decide
  exact forall_fillTemplate_eq_iff (by decide) hsame (fun e q _ => apart_elem q e)
    .float32 .float64 hne hlen

/-- A filled template depends on the features, the kind or the element type exactly when their
placeholder is found once the name of the builtin has been put in. A name never brings a placeholder
about exactly when it is apart from its word. -/
theorem fillTemplate_const_iff (r : Request) :
    (∀ template,
      (∀ f, { r with features := f }.fillTemplate template = r.fillTemplate template) ↔
        ¬ Placeholder.features.word.toList <:+: fill r template.toList .name) ∧
    (∀ template, (∀ k, { r with kind := k }.fillTemplate template = r.fillTemplate template) ↔
        ¬ Placeholder.kind.word.toList <:+: fill r template.toList .name) ∧
    (∀ template, (∀ e, { r with elem := e }.fillTemplate template = r.fillTemplate template) ↔
        ¬ Placeholder.elem.word.toList <:+: fill r template.toList .name) ∧
    ∀ p : Placeholder, p ≠ .name →
      ((∀ template, ¬ p.word.toList <:+: template →
          ¬ p.word.toList <:+: fill r template .name) ↔
        Text.Apart p.word.toList r.builtin.toList) :=
  ⟨fun _ => forall_features_iff, fun _ => forall_kind_iff, fun _ => forall_elem_iff,
    fun _ => forall_infix_fill_name_iff⟩

/-- An ordinary name is apart from every placeholder. -/
example : ∀ p ∈ Placeholder.all, Text.Apart p.word.toList "macc_ps".toList := by decide

/-- The name of a builtin is read again: what is put in for it takes the features in turn. -/
theorem fillTemplate_reads_name :
    let c : Case := ⟨"{features}", .packed128, .float32, "x", "fma4"⟩
    (∃ catalog, Catalog.parse "{features},Packed128,f32,x" "fma4" = .ok catalog ∧
      c ∈ catalog.cases) ∧
    ¬ Placeholder.features.word.toList <:+: "{name}".toList ∧
    (c.request ∅).fillTemplate "{name}" ≠
      (c.request (FeatureSet.parse "avx")).fillTemplate "{name}" := by
  intro c
  have hstatements : Catalog.statements "{features},Packed128,f32,x".toList =
      ["{features},Packed128,f32,x".toList] := by decide
  have hparse : Catalog.parse "{features},Packed128,f32,x" "fma4" =
      .ok ⟨[c], by decide, by decide⟩ := by
    rw [Catalog.parse_eq_ok_iff, hstatements]
    exact .cons (.short (by decide) rfl (.inr rfl) rfl) .nil
  exact ⟨⟨_, hparse, List.mem_singleton_self c⟩, by decide, by decide⟩

end Request

end LoweringAudit
