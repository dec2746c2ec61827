import LoweringAudit.Regex.Written
/-!
How deeply a written expression is nested. Groups, repetitions, choices, parts in a row and sets in
brackets each go one step deeper; the first of them that goes too deep is blamed.
-/
namespace LoweringAudit.Regex

/-- Goes one step deeper at a place, unless the limit has been reached. -/
def deeper (limit depth : Nat) (place : Span) (inside : Option Span) : Option Span :=
  if depth < limit then inside else some place

mutual

/-- The first place at which a set goes too deep. -/
def SetItem.tooDeep? (limit depth : Nat) : SetItem → Option Span
  | .bracketed place _ inside => deeper limit depth place (inside.tooDeep? limit (depth + 1))
  | .items place list => deeper limit depth place (tooDeepIn? limit (depth + 1) list)
  | .operation place _ left right =>
    deeper limit depth place
      ((left.tooDeep? limit (depth + 1)).or (right.tooDeep? limit (depth + 1)))
  | _ => none

def tooDeepIn? (limit depth : Nat) : List SetItem → Option Span
  | [] => none
  | item :: rest => (item.tooDeep? limit depth).or (tooDeepIn? limit depth rest)

end

mutual

/-- The first place at which an expression goes too deep. -/
def Written.tooDeep? (limit depth : Nat) : Written → Option Span
  | .set s => s.tooDeep? limit depth
  | .repeated place a _ _ => deeper limit depth place (a.tooDeep? limit (depth + 1))
  | .group place _ a => deeper limit depth place (a.tooDeep? limit (depth + 1))
  | .alt place branches => deeper limit depth place (tooDeepAmong? limit (depth + 1) branches)
  | .seq place items => deeper limit depth place (tooDeepAmong? limit (depth + 1) items)
  | _ => none

def tooDeepAmong? (limit depth : Nat) : List Written → Option Span
  | [] => none
  | w :: rest => (w.tooDeep? limit depth).or (tooDeepAmong? limit depth rest)

end

end LoweringAudit.Regex
