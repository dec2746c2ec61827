import LoweringAudit.Text.CharSet
import LoweringAudit.Text.Digits
/-!
How properties of characters are written down: a set by the gaps between its bounds, a property with
many values by runs of characters that have the same one, and names of values in lists.
-/
namespace LoweringAudit.Unicode

/-- The words that blanks and line ends keep apart. -/
def words (s : List Char) : List (List Char) :=
  ((s.map fun c => if c = '\n' then ' ' else c).splitOn ' ').filter (!·.isEmpty)

def numbers (s : String) : List Nat :=
  (words s.toList).map (Text.natOfDigits 10)

def setOfGaps (s : String) : CharSet :=
  .ofGaps (numbers s)

/-- Lists of words with commas between them. -/
def entries (s : String) : List (List String) :=
  (s.toList.splitOn ',').map fun entry => (words entry).map String.ofList

/-- A property with one value for each character: the values in the order of the characters, each
with the number of further characters that have it too. -/
structure Table where
  runs : List (String × Nat)

namespace Table

/-- A run in writing: the value and, unless it is one, the number of characters. -/
def readRun (word : List Char) : String × Nat :=
  let value := word.takeWhile Char.isAlpha
  (String.ofList value, Text.natOfDigits 10 (word.drop value.length) - 1)

def read (s : String) : Table :=
  ⟨(words s.toList).map readRun⟩

/-- The characters whose values pass a test. -/
def set (t : Table) (passes : String → Bool) : CharSet :=
  .ofRuns passes t.runs

example : (read "a3 b c2").runs = [("a", 2), ("b", 0), ("c", 1)] := by decide +kernel

end Table

end LoweringAudit.Unicode
