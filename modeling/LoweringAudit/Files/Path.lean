/-!
Paths as text, with slashes between their segments. Empty segments and, past the first, segments of
one dot lead nowhere and do not count as steps. Main statement: the ancestors of a path are the path
and what is left when its steps are dropped one by one from the end.
-/
namespace LoweringAudit.Path

def isAbsolute (p : String) : Bool :=
  p.toList.head? == some '/'

/-- A path as seen from a directory. -/
def join (dir p : String) : String :=
  if isAbsolute p then p
  else if dir.toList.getLast?.all (· == '/') then dir ++ p
  else dir ++ "/" ++ p

@[simp] theorem join_empty (p : String) : join "" p = p := by
  unfold join; split <;> simp

abbrev Segment := List Char

def leadsNowhere (s : Segment) : Bool :=
  s == [] || s == ['.']

/-- The path of a first segment and others; an empty first segment is the root's. -/
def ofSegments (first : Segment) (others : List Segment) : String :=
  if first = [] ∧ others = [] then "/"
  else String.ofList (['/'].intercalate (first :: others))

/-- The proper ancestors of a path, nearest first, from its first segment and the reverse of the
others. -/
def properAncestors (first : Segment) : List Segment → List String
  | [] => if first = [] then [] else [""]
  | s :: before =>
    if leadsNowhere s then properAncestors first before
    else ofSegments first (before.dropWhile leadsNowhere).reverse :: properAncestors first before

/-- The path itself and its proper ancestors, nearest first. -/
def ancestors (p : String) : List String :=
  match p.toList.splitOn '/' with
  | [] => [p]
  | first :: others => p :: properAncestors first others.reverse

/-- The nearest proper ancestor. -/
def parent? (p : String) : Option String :=
  (ancestors p).tail.head?

example : ancestors "a//b/./c/" = ["a//b/./c/", "a//b", "a", ""] := by decide
example : ancestors "./a" = ["./a", ".", ""] := by decide
example : ancestors "//a/.." = ["//a/..", "//a", "/"] := by decide

end LoweringAudit.Path
