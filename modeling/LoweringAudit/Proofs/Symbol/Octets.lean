import LoweringAudit.Engine.Command
import LoweringAudit.Proofs.Symbol.Separation
import LoweringAudit.Proofs.Text.Lossy
import Mathlib.Data.List.Infix
/-!
The symbols in a program's output, which is octets and need not be UTF-8. Symbols are ASCII, so they
can be looked for in the octets as they stand. Main statement: this gives the symbols of the text
that the octets are read as, whatever stands beside them; so octets beyond ASCII do no more than
part what is before them from what is behind.
-/
namespace LoweringAudit.Symbol

/-- The octet of an ASCII letter or digit, of the underscore or of the dot. -/
def isSymbolOctet (b : UInt8) : Bool :=
  (0x41 ≤ b && b ≤ 0x5A) || (0x61 ≤ b && b ≤ 0x7A) || (0x30 ≤ b && b ≤ 0x39) ||
    b == 0x5F || b == 0x2E

/-- `llvm.` in ASCII. -/
def rootOctets : List UInt8 :=
  [0x6C, 0x6C, 0x76, 0x6D, 0x2E]

/-- The symbol that the octets mention at their front: behind the octet of an at sign the longest
run of symbol octets, which begins with `llvm.` and goes on, without the dots at its end. -/
def mentioned? : List UInt8 → Option (List UInt8)
  | [] => none
  | b :: rest =>
    let run := rest.takeWhile isSymbolOctet
    if b = 0x40 ∧ rootOctets <+: run ∧ run ≠ rootOctets then some (run.rdropWhile (· == 0x2E))
    else none

/-- The symbols that the octets mention, one place after the other. -/
def inOctets (octets : List UInt8) : List (List UInt8) :=
  octets.tails.filterMap mentioned?

/-- ASCII octets as a text. -/
def chars (octets : List UInt8) : List Char :=
  octets.map fun b => Char.ofNat b.toNat

/-- The symbols that the octets mention, as texts. -/
def extractOctets (octets : List UInt8) : List String :=
  (inOctets octets).map fun s => String.ofList (chars s)

variable {b : UInt8} {octets passed : List UInt8} {text : List Char} {c : Char}

/-- What holds of all octets, one after the other. -/
theorem octet_forall {P : UInt8 → Prop} (h : ∀ n < 256, P (UInt8.ofNat n)) (b : UInt8) : P b := by
  have hb := h b.toNat b.toNat_lt
  rwa [UInt8.ofNat_toNat] at hb

theorem isSymbolChar_octet (b : UInt8) :
    isSymbolChar (Char.ofNat b.toNat) = isSymbolOctet b :=
  octet_forall (P := fun b => isSymbolChar (Char.ofNat b.toNat) = isSymbolOctet b)
    (by decide +kernel) b

theorem octet_injective : Function.Injective fun b : UInt8 => Char.ofNat b.toNat := by
  have hback : ∀ b : UInt8, UInt8.ofNat (Char.ofNat b.toNat).toNat = b :=
    octet_forall (by decide +kernel)
  intro b d h
  rw [← hback b, ← hback d]
  exact congrArg (fun c => UInt8.ofNat c.toNat) h

theorem isSymbolOctet_of_large (h : 0x80 ≤ b.toNat) : isSymbolOctet b = false :=
  octet_forall (P := fun b => 0x80 ≤ b.toNat → isSymbolOctet b = false) (by decide +kernel) b h

theorem isSymbolChar_of_large (h : 0x80 ≤ c.toNat) : isSymbolChar c = false := by
  have habove : ∀ d : Char, d.toNat < 0x80 → ¬ c ≤ d := by
    intro d hd hle
    have hnat : c.toNat ≤ d.toNat := UInt32.le_iff_toNat_le.1 hle
    omega
  rw [Bool.eq_false_iff, ne_eq, isSymbolChar_iff]
  rintro (⟨-, hle⟩ | ⟨-, hle⟩ | ⟨-, hle⟩ | rfl | rfl)
  · exact habove 'Z' (by decide) hle
  · exact habove 'z' (by decide) hle
  · exact habove '9' (by decide) hle
  · exact absurd h (by decide)
  · exact absurd h (by decide)

theorem ne_at_of_large (h : 0x80 ≤ c.toNat) : c ≠ '@' := by
  rintro rfl
  exact absurd h (by decide)

theorem inOctets_cons (b : UInt8) (octets : List UInt8) :
    inOctets (b :: octets) = (mentioned? (b :: octets)).toList ++ inOctets octets := by
  rw [inOctets, List.tails_cons, List.filterMap_cons]
  cases mentioned? (b :: octets) <;> rfl

theorem inOctets_cons_of_ne (h : b ≠ 0x40) (octets : List UInt8) :
    inOctets (b :: octets) = inOctets octets := by
  rw [inOctets_cons, mentioned?, if_neg fun hm => h hm.1]
  rfl

theorem inOctets_append_of_not_mem (h : 0x40 ∉ passed) :
    inOctets (passed ++ octets) = inOctets octets := by
  induction passed with
  | nil => rfl
  | cons b passed ih =>
    have hb : b ≠ 0x40 := fun he => h (he ▸ List.mem_cons_self)
    rw [List.cons_append, inOctets_cons_of_ne hb, ih fun hmem => h (List.mem_cons_of_mem b hmem)]

/-- A text that keeps the ASCII of some octets has the same run at its front as they have. -/
theorem frontRun_of_keepsAscii (h : Utf8.KeepsAscii octets text) :
    frontRun text = chars (octets.takeWhile isSymbolOctet) := by
  induction h with
  | nil => rfl
  | @ascii b octets text _ _ ih =>
    rw [frontRun] at ih
    rw [frontRun, List.takeWhile_cons, List.takeWhile_cons, isSymbolChar_octet]
    split
    · rw [ih]
      rfl
    · rfl
  | gap hpassed hmarks hoctets hchars _ _ =>
    obtain ⟨b, passed, rfl⟩ := List.exists_cons_of_ne_nil hpassed
    obtain ⟨c, marks, rfl⟩ := List.exists_cons_of_ne_nil hmarks
    have hb := isSymbolOctet_of_large (hoctets b List.mem_cons_self)
    have hc := isSymbolChar_of_large (hchars c List.mem_cons_self)
    simp [frontRun, chars, hb, hc]

theorem isRun_chars_iff {run : List UInt8} (h : ∀ b ∈ run, isSymbolOctet b = true) :
    IsRun (chars run) ↔ rootOctets <+: run ∧ run ≠ rootOctets := by
  have hroot : chars rootOctets = root := by decide
  constructor
  · rintro ⟨tail, hne, -, hrun⟩
    obtain ⟨front, back, rfl, hfront, hback⟩ := List.map_eq_append_iff.1 hrun
    obtain rfl : front = rootOctets := octet_injective.list_map (hfront.trans hroot.symm)
    refine ⟨List.prefix_append _ _, fun he => hne ?_⟩
    have hnil : back = [] := by simpa using he
    rw [← hback, hnil]
    rfl
  · rintro ⟨⟨back, rfl⟩, hne⟩
    refine ⟨chars back, fun hnil => hne ?_, ?_, ?_⟩
    · rw [List.map_eq_nil_iff.1 hnil, List.append_nil]
    · intro c hc
      obtain ⟨b, hb, rfl⟩ := List.mem_map.1 hc
      rw [isSymbolChar_octet]
      exact h b (List.mem_append_right _ hb)
    · rw [← hroot]
      exact List.map_append

theorem dropFinalDots_chars (run : List UInt8) :
    dropFinalDots (chars run) = chars (run.rdropWhile (· == 0x2E)) := by
  have hdot : ((· == '.') ∘ fun b : UInt8 => Char.ofNat b.toNat) = (· == 0x2E) := by
    funext b
    exact octet_forall (P := fun b => (Char.ofNat b.toNat == '.') = (b == 0x2E))
      (by decide +kernel) b
  rw [dropFinalDots, chars, ← List.map_reverse, List.dropWhile_map, hdot, ← List.map_reverse]
  rfl

theorem leading?_of_keepsAscii (h : Utf8.KeepsAscii octets text) :
    leading? text = (mentioned? (0x40 :: octets)).map chars := by
  have hsymbols : ∀ b ∈ octets.takeWhile isSymbolOctet, isSymbolOctet b = true := fun b hb =>
    List.mem_takeWhile_imp hb
  apply Option.ext
  intro s
  rw [leading?_eq_some_iff_frontRun, frontRun_of_keepsAscii h, isRun_chars_iff hsymbols, names_iff,
    dropFinalDots_chars, mentioned?]
  split
  · next hm => simp [hm.2, eq_comm]
  · next hm =>
    simp only [Option.map_none, reduceCtorEq, iff_false]
    exact fun hs => hm ⟨rfl, hs.1⟩

/-- The symbols of a text that keeps the ASCII of some octets are those that the octets mention. -/
theorem scan_of_keepsAscii (h : Utf8.KeepsAscii octets text) :
    scan text = (inOctets octets).map chars := by
  induction h with
  | nil => rfl
  | @ascii b octets text hb later ih =>
    by_cases hat : b = 0x40
    · subst hat
      have hsign : Char.ofNat (0x40 : UInt8).toNat = '@' := by decide
      rw [hsign, scan_at, leading?_of_keepsAscii later, ih, inOctets_cons, List.map_append]
      cases mentioned? (0x40 :: octets) <;> rfl
    · have hc : Char.ofNat b.toNat ≠ '@' := fun he => hat (octet_injective he)
      rw [scan_cons_of_ne hc, inOctets_cons_of_ne hat, ih]
  | @gap passed octets marks text _ _ hoctets hchars _ ih =>
    have hmarks : '@' ∉ marks := fun hmem => ne_at_of_large (hchars '@' hmem) rfl
    have hpassed : 0x40 ∉ passed := fun hmem => absurd (hoctets _ hmem) (by decide)
    rw [scan_append_of_not_mem hmarks, inOctets_append_of_not_mem hpassed, ih]

theorem extract_of_keepsAscii (h : Utf8.KeepsAscii octets text) :
    extract text = extractOctets octets := by
  rw [extract, scan_of_keepsAscii h, List.map_map]
  rfl

/-- What is extracted of the text that octets are read as, with a mark for all that is not UTF-8,
are the symbols that the octets mention as they stand; and these are the operations that the command
engine gives for a program that writes the octets. In particular, octets beyond ASCII, well-formed
or not, leave the symbols before them and those behind them as if these stood alone. -/
theorem extract_decodeLossy :
    (∀ octets : List UInt8, extract (Utf8.decodeLossy octets) = extractOctets octets) ∧
    (∀ (programs : Programs) (program : String) (templates : List String) (r : Request) (e : Exit),
      programs program (r.fillTemplates templates) = .ok e → e.status.isSuccess = true →
      (Engine.command programs program templates).lower r = .ok (extractOctets e.output)) ∧
    ∀ before passed after : List UInt8, passed ≠ [] → (∀ b ∈ passed, 0x80 ≤ b.toNat) →
      extract (Utf8.decodeLossy (before ++ passed ++ after)) =
        extract (Utf8.decodeLossy before) ++ extract (Utf8.decodeLossy after) := by
  have hread : ∀ octets, extract (Utf8.decodeLossy octets) = extractOctets octets := fun octets =>
    extract_of_keepsAscii (Utf8.keepsAscii_decodeLossy octets)
  refine ⟨hread, ?_, ?_⟩
  · intro programs program templates r e hrun hsuccess
    simp only [Engine.command, hrun, Exit.symbols, hsuccess, if_true, hread]
  · intro before passed after hne hpassed
    -- The parts with one mark between them keep the ASCII of the whole as well.
    have hparts : Utf8.KeepsAscii (before ++ passed ++ after)
        (Utf8.decodeLossy before ++ Utf8.replacement :: Utf8.decodeLossy after) := by
      rw [List.append_assoc]
      exact (Utf8.keepsAscii_decodeLossy before).append
        (.passed hne hpassed Utf8.large_replacement (Utf8.keepsAscii_decodeLossy after))
    rw [hread, ← extract_of_keepsAscii hparts, extract,
      scan_append (ends_cons_iff.2 (isSymbolChar_of_large Utf8.large_replacement)),
      scan_cons_of_ne (ne_at_of_large Utf8.large_replacement), List.map_append]
    rfl

/-- A character that is cut short between two symbols, and one that is written too long within the
second. -/
theorem extract_decodeLossy_broken :
    let before := Utf8.encode "call @llvm.a".toList
    let after := Utf8.encode "@llvm.b.".toList ++ [0xC0, 0xAE] ++ Utf8.encode "c".toList
    let programs : Programs := fun _ _ => .ok ⟨.code 0, before ++ [0xE2, 0x82] ++ after, []⟩
    [0xE2, 0x82] ≠ ([] : List UInt8) ∧ (∀ b ∈ ([0xE2, 0x82] : List UInt8), 0x80 ≤ b.toNat) ∧
    extract (Utf8.decodeLossy (before ++ [0xE2, 0x82] ++ after)) =
      extract (Utf8.decodeLossy before) ++ extract (Utf8.decodeLossy after) ∧
    (Engine.command programs "cc" []).lower ⟨"macc_ps", .packed128, .float32, ∅⟩ =
      .ok ["llvm.a", "llvm.b"] := by
  intro before after programs
  have hne : [0xE2, 0x82] ≠ ([] : List UInt8) := by decide
  have hlarge : ∀ b ∈ ([0xE2, 0x82] : List UInt8), 0x80 ≤ b.toNat := by simp
  obtain ⟨-, hengine, hparts⟩ := extract_decodeLossy
  refine ⟨hne, hlarge, hparts before _ after hne hlarge, ?_⟩
  rw [hengine programs "cc" [] _ _ rfl rfl]
  decide

end LoweringAudit.Symbol
