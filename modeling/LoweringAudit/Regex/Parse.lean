import LoweringAudit.Regex.Meaning
import LoweringAudit.Regex.Nesting
import LoweringAudit.Regex.Reader
import LoweringAudit.Regex.Size
/-!
From the text of a regular expression to the expression. It must be readable, not nested too deeply,
have a meaning and not be too big, and what is wrong is looked for in this order.
-/
namespace LoweringAudit.Regex

/-- The expression that a text writes. -/
def parse (pattern : String) : Except Fault Regex := do
  let w ← read pattern
  if let some place := w.tooDeep? maxDepth 0 then throw ⟨.nestedTooDeeply, place, none⟩
  let (r, _) ← w.meaning.run {}
  if maxSize < r.size then throw ⟨.tooBig, ⟨0, 0⟩, none⟩
  return r

end LoweringAudit.Regex
