import LoweringAudit.Config.Basic
import LoweringAudit.Proofs.Engine.Intrinsics
import LoweringAudit.Proofs.Symbol
/-!
What the operations are called that an engine of a configuration gives: names made of symbol
characters. The names of the FMA4 table are, and the command engine takes from a program's output
only what is made of them.
-/
namespace LoweringAudit

namespace Fma4

theorem symbolic_mnemonic {op : Operation} (h : op ∈ operations) : Symbolic op.mnemonic.toList := by
  have hall : ∀ o ∈ operations, Symbolic o.mnemonic.toList := by decide
  exact hall op h

/-- An instruction is put together from parts that are symbolic. -/
theorem symbolic_instruction {op : Operation} (h : op ∈ operations) (kind : OperandKind)
    (elem : ElementType) : Symbolic (op.instruction kind elem).toList := by
  have hsuffix : Symbolic (elem.suffix kind).toList := by
    unfold ElementType.suffix
    split <;> decide
  have hwidth : Symbolic (if kind.widthBits = 256 then ".256" else "").toList := by
    split <;> decide
  have hdot : Symbolic ".".toList := by decide
  simp only [Operation.instruction, String.toList_append]
  exact (((symbolic_mnemonic h).append hdot).append hsuffix).append hwidth

end Fma4

namespace Engine

/-- An engine that names operations by symbols only. -/
def GivesSymbols (engine : Engine) : Prop :=
  ∀ r ops, engine.lower r = .ok ops → ∀ op ∈ ops, Symbolic op.toList

theorem givesSymbols_reference : reference.GivesSymbols := by
  intro r ops h op hop
  cases h
  unfold referenceOps at hop
  split at hop
  · obtain ⟨operation, hmem, -, -, rfl⟩ :=
      Fma4.intrinsicFor_eq_some_iff.1 (Option.mem_toList.1 hop)
    have hfront : Symbolic Fma4.intrinsicPrefix.toList := by decide
    rw [String.toList_append]
    exact hfront.append (Fma4.symbolic_instruction hmem r.kind r.elem)
  · simp at hop

theorem givesSymbols_command (programs : Programs) (program : String) (templates : List String) :
    (command programs program templates).GivesSymbols := by
  intro r ops h op hop
  simp only [command] at h
  split at h
  · cases h
  · next exit _ =>
    unfold Exit.symbols at h
    split at h
    · cases h
      obtain ⟨s, hs, rfl⟩ := List.mem_map.1 hop
      rw [String.toList_ofList]
      exact Symbol.symbolic_of_mem_scan hs
    · cases h

end Engine

/-- Whatever the configuration, the operations that its engine gives are named by symbols. -/
theorem EngineConfig.givesSymbols_of_build {c : EngineConfig} {programs : Programs}
    {kind : EngineKind} {engine : Engine} (h : c.build programs kind = .ok engine) :
    engine.GivesSymbols := by
  cases kind with
  | reference =>
    cases h
    exact Engine.givesSymbols_reference
  | command =>
    simp only [build] at h
    split at h
    · cases h
      exact Engine.givesSymbols_command programs _ _
    · cases h

end LoweringAudit
