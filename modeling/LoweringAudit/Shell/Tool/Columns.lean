import LoweringAudit.Shell.Tool.Basic
/-!
Columns of lines: ranges of them, and the program that keeps some.
-/
namespace LoweringAudit.Shell.Tool

open Act

/-- A range of columns, the first of which is one; without an end it goes on. -/
abbrev Span := Nat × Option Nat

def span? (s : List Char) : Except String Span := do
  let number (ds : List Char) : Except String Nat :=
    if ds.all Char.isDigit then .ok (Text.natOfDigits 10 ds)
    else .error (quotedText (String.ofList ds))
  match s.splitOn '-' with
  | [a] =>
    let n ← number a
    return (n, some n)
  | [a, []] => return (← number a, none)
  | [[], b] => return (1, some (← number b))
  | [a, b] => return (← number a, some (← number b))
  | _ => throw (quotedText (String.ofList s))

/-- The ranges of a list. -/
def spans (what : String) (s : String) : Except String (List Span) :=
  ((s.toList.splitOn ',').mapM span?).mapError (fun v => "invalid " ++ what ++ " value " ++ v) >>=
    fun found =>
      if found.any fun (a, _) => a = 0 then
        .error (if what = "field" then "fields are numbered from 1"
          else "byte/character positions are numbered from 1")
      else if found.any fun (a, b) => b.any (· < a) then .error "invalid decreasing range"
      else .ok found

def inSpans (found : List Span) (n : Nat) : Bool :=
  found.any fun (a, b) => a ≤ n && b.all (n ≤ ·)

/-- What is kept of columns, with something between those kept. -/
def keptColumns (keep : Nat → Bool) (between : List Char) (columns : List (List Char)) :
    List Char :=
  between.intercalate ((columns.zipIdx.filter fun (_, i) => keep (i + 1)).map (·.1))

def cutColumns : Tool :=
  withFlags
    { letters := "b:c:f:d:nsKO:z",
      long := [("bytes", 'b'), ("characters", 'c'), ("fields", 'f'), ("delimiter", 'd'),
        ("only-delimited", 's'), ("complement", 'K'), ("output-delimiter", 'O')] }
    fun caller chosen paths => do
      let lists := chosen.flags.filter fun (c, _) => c ∈ ['b', 'c', 'f']
      match lists with
      | [] => refuse caller "you must specify a list of bytes, characters, or fields"
      | [(kind, list)] =>
        let separator := (chosen.value? 'd').getD "\t"
        if 1 < separator.length then
          refuse caller "the delimiter must be a single character"
        else
          match spans (if kind = 'f' then "field" else "byte/character") list with
          | .error message => refuse caller message
          | .ok found =>
            let keep (n : Nat) : Bool := inSpans found n != chosen.has 'K'
            let mark := separator.toList.headD '\x00'
            let between := match chosen.value? 'O' with
              | some s => s.toList
              | none => if kind = 'f' then [mark] else []
            let line (l : List Char) : Option (List Char) :=
              if kind = 'f' then
                if l.contains mark then some (keptColumns keep between (l.splitOn mark))
                else if chosen.has 's' then none else some l
              else some (keptColumns keep between (l.map ([·])))
            let (texts, status) ← readFiles caller paths
            emit caller (texts.flatMap fun (_, t) => unlines ((lines t).filterMap line)) status
      | _ => refuse caller "only one list may be specified"

end LoweringAudit.Shell.Tool
