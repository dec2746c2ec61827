import LoweringAudit.Files.Standard
import LoweringAudit.Shell.State
import LoweringAudit.Shell.Test
/-!
Places in the file tree as a shell sees them: directories and devices that there always are, paths
from the directory of the shell, and what opening a path gives.
-/
namespace LoweringAudit.Shell

/-- The directories of programs. -/
def programDirectories : List Location :=
  [["usr", "bin"], ["bin"]]

/-- Whether a place is that of a program. -/
def isProgram (location : Location) : Bool :=
  location.dropLast ∈ programDirectories

/-- The tree with what every tree holds, and programs of these names. -/
def furnish (programs : List String) (t : FileTree) : FileTree :=
  (programDirectories.flatMap fun d => programs.map (d ++ [·])).foldl
    (fun t place => t.addFile place []) t.furnished

/-- The tree as the shell sees it from its directory. -/
def State.view (s : State) : FileTree :=
  { s.world.tree with workingDirectory := s.session.directory }

/-- The place of a path. -/
def State.resolve (s : State) (path : String) : Except Fault Location :=
  s.view.resolve (outside path)

/-- Whether what a letter asks holds of a place. -/
def State.holdsAt (s : State) (letter : Char) (location : Location) : Bool :=
  match s.world.tree.get? location with
  | some (.device _) => letter ∈ "cerwOG".toList
  | some .directory => letter ∈ "derwxsOG".toList
  | some (.file octets) =>
    letter ∈ "ferwOG".toList || (letter == 'x' && isProgram location) ||
      (letter == 's' && (isProgram location || !octets.isEmpty))
  | none => false

def State.fileFacts (s : State) : Test.FileFacts where
  holds := fun letter path =>
    match s.resolve path with
    | .ok location => s.holdsAt letter location
    | .error _ => false
  isSame := fun a b =>
    match s.resolve a, s.resolve b with
    | .ok p, .ok q => p == q
    | _, _ => false

namespace Act

/-- Puts an empty file at a path. -/
def create (path : String) : Act (Except Fault Location) := do
  let s ← get
  match s.view.write (outside path) [] with
  | .error f => return .error f
  | .ok tree =>
    modifyWorld fun w => { w with tree := tree }
    return (← get).resolve path

/-- The stream of a place, to be read or written from its start or its end. -/
def openPlace (location : Location) (appends : Bool) : Act (Except Fault Nat) := do
  match (← get).world.tree.get? location with
  | some (.device .void) => return .ok (← newStream .void)
  | some (.device .full) => return .ok (← newStream .full)
  | some (.device .terminal) => return .error .noDevice
  | some (.device (.descriptor n)) =>
    match (← session).descriptors.lookup n with
    | some stream => return .ok stream
    | none => return .error .notFound
  | _ => return .ok (← newStream (.file location 0 appends))

/-- Opens a path to be read. -/
def openToRead (path : String) : Act (Except Fault Nat) := do
  match (← get).resolve path with
  | .error f => return .error f
  | .ok location => openPlace location false

/-- Opens a path to be written. What a file holds is dropped, or kept, or keeps the path from being
opened. -/
def openToWrite (path : String) (drops keeps appends : Bool) : Act (Except Fault Nat) := do
  let s ← get
  match s.resolve path with
  | .error .notFound =>
    match ← create path with
    | .error f => return .error f
    | .ok location => openPlace location appends
  | .error f => return .error f
  | .ok location =>
    match s.world.tree.get? location with
    | some .directory => return .error .isDirectory
    | some (.file _) =>
      if keeps then return .error (.other "File exists")
      if drops then modifyWorld fun w => { w with tree := w.tree.put location (.file []) }
      openPlace location appends
    | _ => openPlace location appends

end Act

end LoweringAudit.Shell
