import LoweringAudit.Shell.Editor.Basic
/-!
What the line editor puts in for matches.
-/
namespace LoweringAudit.Shell.Editor

open Tool (Form between)

/-- How letters are being written: in capitals or small, if they change, all of them and the next
one. -/
structure Turning where
  every : Option Bool := none
  first : Option Bool := none
  deriving DecidableEq, Repr

namespace Turning

def turn (t : Turning) : LetterCase → Turning
  | .upper => ⟨some true, none⟩
  | .lower => ⟨some false, none⟩
  | .unchanged => ⟨none, none⟩
  | .upperFirst => { t with first := some true }
  | .lowerFirst => { t with first := some false }

def letter : Option Bool → Char → Char
  | none, c => c
  | some true, c => c.toUpper
  | some false, c => c.toLower

/-- A text as it is written. -/
def write (t : Turning) : List Char → List Char
  | [] => []
  | c :: rest => letter (t.first <|> t.every) c :: rest.map (letter t.every)

/-- How letters are written after a text. -/
def after (t : Turning) (s : List Char) : Turning :=
  if s.isEmpty then t else { t with first := none }

end Turning

/-- What is put in for a match. -/
def filledFrom (text : Array Char) (m : Tool.Found) : Turning → List Part → List Char
  | _, [] => []
  | t, .turn c :: rest => filledFrom text m (t.turn c) rest
  | t, .text s :: rest => t.write s ++ filledFrom text m (t.after s) rest
  | t, .group n :: rest =>
    let s := m.group text n
    t.write s ++ filledFrom text m (t.after s) rest

/-- A text from a position on with matches given way. -/
def splice (text : Array Char) (fill : Tool.Found → List Char) : Nat → List Tool.Found → List Char
  | i, [] => between text i text.size
  | i, m :: rest => between text i m.start ++ fill m ++ splice text fill m.stop rest

/-- A text with the matches replaced that a substitution means, if there are any. -/
def Substitution.result? (s : Substitution) (f : Form) (text : List Char) : Option (List Char) :=
  let cs := text.toArray
  let found := (f.all cs).drop (s.number - 1)
  let chosen := if s.isGlobal then found else found.take 1
  if chosen.isEmpty then none
  else some (splice cs (fun m => filledFrom cs m {} s.parts) 0 chosen)

end LoweringAudit.Shell.Editor
