import LoweringAudit.Shell.Place
import LoweringAudit.Shell.Printf
import LoweringAudit.Shell.Utility.Basic
/-!
The utilities `echo`, `printf` and `test`.
-/
namespace LoweringAudit.Shell

open Act

def echo : Utility := fun arguments => do
  let isBare := arguments.head? == some "-n"
  let text := " ".intercalate (if isBare then arguments.tail else arguments)
  let w := Escapes.ofArgument.written text.toList
  say (String.ofList (w.text ++ if isBare || w.halt.isSome then [] else ['\n']))

/-- What `printf` says comes before what it writes. -/
def printf : Utility := fun arguments => do
  let (_, arguments) ← optionsOf "" arguments
  match arguments with
  | [] => fail "usage: printf format [arg ...]" 2
  | form :: rest =>
    let p := Printf.builtin.run form rest
    for message in p.complaints do complain message
    let status ← say (String.ofList p.output)
    return if p.status = 0 then status else p.status

/-- The answer of a test as a status. -/
def testWords (words : List String) : Act Nat := do
  match Test.answer (← get).fileFacts words with
  | .ok true => return 0
  | .ok false => return 1
  | .error f => fail f.message 2

/-- A test between brackets. -/
def testBracketed : Utility := fun arguments => do
  if arguments.getLast? = some "]" then testWords arguments.dropLast
  else fail "missing ]" 2

end LoweringAudit.Shell
