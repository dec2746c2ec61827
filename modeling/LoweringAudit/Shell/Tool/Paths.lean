import LoweringAudit.Shell.Tool.Basic
/-!
The parts of a path, and the programs that show them.
-/
namespace LoweringAudit.Shell.Tool

open Act

/-- The last name of a path. -/
def lastName (path : List Char) : List Char :=
  let trimmed := (path.reverse.dropWhile (· == '/')).reverse
  if trimmed = [] then path.take 1
  else (trimmed.reverse.takeWhile (· != '/')).reverse

/-- A path without its last name. -/
def aboveLastName (path : List Char) : List Char :=
  let drop (s : List Char) : List Char := s.dropWhile (· == '/')
  let trimmed := drop path.reverse
  let above := drop (trimmed.dropWhile (· != '/'))
  if above = [] then (if path.head? = some '/' then ['/'] else ['.']) else above.reverse

/-- A name without an ending, unless it is nothing else. -/
def withoutEnding (ending name : List Char) : List Char :=
  if ending.isSuffixOf name ∧ ending ≠ name then name.take (name.length - ending.length) else name

def baseName : Tool :=
  withFlags
    { letters := "as:z", long := [("multiple", 'a'), ("suffix", 's'), ("zero", 'z')] }
    fun caller chosen paths => do
      let stop := if chosen.has 'z' then '\x00' else '\n'
      let isSeveral := chosen.has 'a' || chosen.has 's'
      match paths, isSeveral with
      | [], _ => refuse caller "missing operand"
      | _ :: _ :: third :: _, false => refuse caller ("extra operand " ++ quotedText third)
      | [path, ending], false =>
        emit caller (withoutEnding ending.toList (lastName path.toList) ++ [stop]) 0
      | paths, _ =>
        let ending := ((chosen.value? 's').getD "").toList
        emit caller
          (paths.flatMap fun p => withoutEnding ending (lastName p.toList) ++ [stop]) 0

def directoryName : Tool :=
  withFlags { letters := "z", long := [("zero", 'z')] } fun caller chosen paths => do
    let stop := if chosen.has 'z' then '\x00' else '\n'
    if paths.isEmpty then refuse caller "missing operand"
    else emit caller (paths.flatMap fun p => aboveLastName p.toList ++ [stop]) 0

end LoweringAudit.Shell.Tool
