import LoweringAudit.Files.Basic
/-!
File trees as values: directories, files and devices by the names that lead to them from the root,
and a working directory. Paths are resolved name by name; a name beneath something that is no
directory, a missing name and an overlong one are told apart.
-/
namespace LoweringAudit

/-- What is opened like a file and keeps nothing. -/
inductive Device where
  /-- Reading it gives nothing, and what is written to it is lost. -/
  | void
  /-- Nothing can be written to it. -/
  | full
  /-- There is none to be opened. -/
  | terminal
  /-- What a descriptor stands for. -/
  | descriptor (n : Nat)
  deriving DecidableEq, Repr

inductive Entry where
  | directory
  | file (octets : List UInt8)
  | device (d : Device)
  deriving DecidableEq, Repr

/-- The names from the root to an entry. -/
abbrev Location := List String

structure FileTree where
  /-- The entries beneath the root; the last one for a location counts. -/
  entries : List (Location × Entry)
  workingDirectory : Location
  deriving Repr

namespace FileTree

def get? (t : FileTree) (loc : Location) : Option Entry :=
  if loc = [] then some .directory else t.entries.lookup loc

def put (t : FileTree) (loc : Location) (e : Entry) : FileTree :=
  { t with entries := (loc, e) :: t.entries }

/-- Adds a directory and those above it, where there is nothing yet. -/
def addDirectory (t : FileTree) (loc : Location) : FileTree :=
  ((List.range (loc.length + 1)).map loc.take).foldl
    (fun t above => if (t.get? above).isSome then t else t.put above .directory) t

/-- Adds a file and the directories above it. -/
def addFile (t : FileTree) (loc : Location) (octets : List UInt8) : FileTree :=
  (t.addDirectory loc.dropLast).put loc (.file octets)

/-- A tree that holds nothing but its working directory. -/
def ofWorkingDirectory (loc : Location) : FileTree :=
  FileTree.addDirectory ⟨[], loc⟩ loc

/-- The longest name and the longest path that a file system takes, in octets. -/
def maxName : Nat := 255
def maxPath : Nat := 4095

/-- Whether a path ends with a slash, and so at a directory. -/
def endsAtDirectory (path : String) : Bool :=
  path.toList.getLast? == some '/'

/-- The names between the slashes of a path. -/
def bareNames (path : String) : List String :=
  ((path.toList.splitOn '/').filter (· ≠ [])).map String.ofList

/-- The names to follow for a path. One that ends at a directory goes on as if with a dot. -/
def names (path : String) : List String :=
  bareNames path ++ if endsAtDirectory path then ["."] else []

def start (t : FileTree) (path : String) : Location :=
  if path.toList.head? = some '/' then [] else t.workingDirectory

def walk (t : FileTree) : Location → List String → Except Fault Location
  | here, [] => .ok here
  | here, name :: rest =>
    match t.get? here with
    | none => .error .notFound
    | some .directory =>
      if name = "." then walk t here rest
      else if name = ".." then walk t here.dropLast rest
      else if maxName < name.utf8ByteSize then .error .nameTooLong
      else if (t.get? (here ++ [name])).isSome then walk t (here ++ [name]) rest
      else .error .notFound
    | some _ => .error .notDirectory

/-- The fault of a path that names nothing, whatever the tree holds. -/
def pathFault? (path : String) : Option Fault :=
  if path.toList.contains '\x00' then some .nulInPath
  else if path = "" then some .notFound
  else if maxPath < path.utf8ByteSize then some .nameTooLong
  else none

def resolve (t : FileTree) (path : String) : Except Fault Location :=
  match pathFault? path with
  | some cause => .error cause
  | none => t.walk (t.start path) (names path)

def read (t : FileTree) (path : String) : Except Fault (List UInt8) :=
  match t.resolve path with
  | .error cause => .error cause
  | .ok loc =>
    match t.get? loc with
    | some (.file octets) => .ok octets
    | some (.device .terminal) => .error .noDevice
    | some (.device _) => .ok []
    | some .directory => .error .isDirectory
    | none => .error .notFound

/-- Whether a path is that of a file, and of no device. -/
def isFile (t : FileTree) (path : String) : Bool :=
  match t.resolve path with
  | .ok loc =>
    match t.get? loc with
    | some (.file _) => true
    | _ => false
  | .error _ => false

def files (t : FileTree) : Files :=
  ⟨t.read, t.isFile⟩

/-- Writes a file anew; its directory must exist, and the path must not end at a directory. -/
def write (t : FileTree) (path : String) (octets : List UInt8) : Except Fault FileTree :=
  match pathFault? path with
  | some cause => .error cause
  | none =>
    match (bareNames path).getLast? with
    | none => .error .isDirectory
    | some name =>
      match t.walk (t.start path) (bareNames path).dropLast with
      | .error cause => .error cause
      | .ok above =>
        match t.get? above with
        | none => .error .notFound
        | some .directory =>
          if name = "." ∨ name = ".." ∨ endsAtDirectory path then .error .isDirectory
          else if maxName < name.utf8ByteSize then .error .nameTooLong
          else
            match t.get? (above ++ [name]) with
            | some .directory => .error .isDirectory
            | some (.device .terminal) => .error .noDevice
            | some (.device .full) => if octets = [] then .ok t else .error .noSpace
            | some (.device _) => .ok t
            | _ => .ok (t.put (above ++ [name]) (.file octets))
        | some _ => .error .notDirectory

end FileTree

end LoweringAudit
