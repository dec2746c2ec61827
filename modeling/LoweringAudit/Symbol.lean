/-!
Intrinsic symbols in the text that a code generator writes. A symbol is written after an at sign:
`llvm.` and a run of at least one symbol character, as long as it can be. Dots that end the run
close a sentence and are not part of the symbol.
-/
namespace LoweringAudit.Symbol

/-- ASCII letters and digits, the underscore and the dot. -/
def isSymbolChar (c : Char) : Bool :=
  c.isAlphanum || c == '_' || c == '.'

/-- What every symbol begins with. -/
def root : List Char := "llvm.".toList

def dropFinalDots (s : List Char) : List Char :=
  (s.reverse.dropWhile (· == '.')).reverse

/-- The symbol that the text begins with, if it does. -/
def leading? (text : List Char) : Option (List Char) :=
  if root.isPrefixOf text then
    match (text.drop root.length).takeWhile isSymbolChar with
    | [] => none
    | run => some (dropFinalDots (root ++ run))
  else none

/-- The symbols of a text in order of appearance, each without its at sign. -/
def scan : List Char → List (List Char)
  | [] => []
  | c :: rest =>
    match if c = '@' then leading? rest else none with
    | some s => s :: scan rest
    | none => scan rest

def extract (text : List Char) : List String :=
  (scan text).map String.ofList

@[simp] theorem scan_nil : scan [] = [] := rfl

theorem scan_cons_of_ne {c : Char} (h : c ≠ '@') (rest : List Char) :
    scan (c :: rest) = scan rest := by
  simp [scan, h]

theorem scan_at (rest : List Char) :
    scan ('@' :: rest) = (leading? rest).toList ++ scan rest := by
  rw [scan, if_pos rfl]
  cases leading? rest <;> rfl

end LoweringAudit.Symbol
