import LoweringAudit.Shell.Expansion
import LoweringAudit.Shell.Place
/-!
Redirections. First the words of all redirections of a command are expanded, then the descriptors
are set one after the other. What a command has redirected is put back when it ends.
-/
namespace LoweringAudit.Shell

open Act

/-- What a redirection asks for once its word is known. -/
inductive Wanted where
  | path (channel : Channel) (p : String)
  | like (descriptor : Nat)
  | closed
  | text (s : List Char)
  deriving DecidableEq, Repr

def Redirect.descriptor : Redirect → Nat
  | mk d _ _ => d

/-- What a redirection asks for. -/
def Redirect.wanted (capture : Capture) : Redirect → Act (Nat × Wanted)
  | mk d (.document n) _ => do
    let w := ((← get).world.documents.lookup n).getD []
    return (d, .text (Piece.text (← pieces capture maxDepth false false w)))
  | mk d .likeDescriptor w => do
    match ← wordText capture w with
    | ['-'] => return (d, .closed)
    | [c] => if c.isDigit then return (d, .like (Text.natOfDigits 10 [c])) else badDescriptor
    | _ => badDescriptor
  | mk d channel w => do return (d, .path channel (String.ofList (← wordText capture w)))
where
  badDescriptor : Act (Nat × Wanted) :=
    fail ("Syntax error: " ++ SyntaxFault.badDescriptor.message) 2

/-- Gives a descriptor a stream, or none. -/
def setDescriptor (d : Nat) (stream : Option Nat) : Act Unit :=
  modifySession fun s =>
    let others := s.descriptors.filter (·.1 != d)
    match stream with
    | some n => { s with descriptors := (d, n) :: others }
    | none => { s with descriptors := others }

/-- What is said of a path that cannot be opened. -/
def cannotOpen (isWrite : Bool) (p : String) (f : Fault) : String :=
  let reason := match f with
    | .notFound => if isWrite then "Directory nonexistent" else "No such file"
    | .notDirectory => if isWrite then "Directory nonexistent" else "No such file"
    | f => f.reason.1
  "cannot " ++ (if isWrite then "create " else "open ") ++ p ++ ": " ++ reason

/-- Sets a descriptor as is asked for. One that was moved away is not there while it is set to be
like another, so that a fault of the other cannot be told on it. -/
def connect (wasMoved : Bool) (d : Nat) (w : Wanted) : Act Unit := do
  match w with
  | .closed => setDescriptor d none
  | .text s => setDescriptor d (some (← newStream (.source s)))
  | .like n =>
    if n = d then return ()
    match (← session).descriptors.lookup n with
    | some stream => setDescriptor d (some stream)
    | none =>
      if wasMoved then setDescriptor d none
      fail (toString n ++ ": Bad file descriptor") 2
  | .path channel p =>
    let isOn := (← session).isOn "noclobber"
    let (opened, isWrite) ← match channel with
      | .write => pure (← openToWrite p true isOn false, true)
      | .overwrite => pure (← openToWrite p true false false, true)
      | .append => pure (← openToWrite p false false true, true)
      | .readWrite => pure (← openToWrite p false false false, true)
      | _ => pure (← openToRead p, false)
    match opened with
    | .ok stream => setDescriptor d (some stream)
    | .error f => fail (cannotOpen isWrite p f) 2

/-- Sets descriptors as redirections ask for. Those that are to be put back later are moved away
when they are set for the first time. -/
def redirect (keeps : Bool) (wanted : List (Nat × Wanted)) : Act Unit :=
  go [] wanted
where
  go (moved : List Nat) : List (Nat × Wanted) → Act Unit
    | [] => return ()
    | (d, w) :: rest => do
      connect (keeps && !moved.contains d) d w
      go (d :: moved) rest

/-- Puts descriptors back to what they were. -/
def putBackDescriptors (before : List (Nat × Nat)) (ds : List Nat) : Act Unit :=
  ds.forM fun d => setDescriptor d (before.lookup d)

end LoweringAudit.Shell
