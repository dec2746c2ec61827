/-!
Letter case within ASCII. Names of operand kinds and element types, and the word for the built-in
catalog, are compared without it; letters beyond ASCII keep their case.
-/
namespace LoweringAudit.Text

def lower (s : List Char) : List Char :=
  s.map Char.toLower

/-- Equal up to the case of ASCII letters. -/
def sameLetters (s t : List Char) : Bool :=
  lower s == lower t

end LoweringAudit.Text
