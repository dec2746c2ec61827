import LoweringAudit.CommandLine.Command
import LoweringAudit.Shell.Programs
/-!
The program. It looks up what the command can ask for, in the order in which the command asks: the
configuration files that it may find, then the catalog that the configuration names.

An engine program is not started. `Shell.programs`, an emulated shell, stands in for it: it is no
part of what is audited, and no result rests on it, since `Surroundings` takes any programs.
-/
namespace LoweringAudit.Main

/-- The names in a path. -/
def location (path : String) : Location :=
  FileTree.bareNames path

/-- What reading some paths gave. -/
abbrev Snapshot := List (String × Except Fault (List UInt8))

def Snapshot.files (s : Snapshot) : Files where
  read := fun path => (s.lookup path).getD (.error .notFound)
  isFile := fun path =>
    match s.lookup path with
    | some (.ok _) => true
    | _ => false

/-- The files that could be read, as a tree with a working directory. -/
def Snapshot.tree (s : Snapshot) (directory : String) : FileTree :=
  s.foldl
    (fun t (path, found) =>
      match found with
      | .ok octets => t.addFile (location (Path.join directory path)) octets
      | .error _ => t)
    (FileTree.ofWorkingDirectory (location directory))

def faultOf : IO.Error → Fault
  | .noFileOrDirectory .. => .notFound
  | .permissionDenied .. => .permissionDenied
  | .inappropriateType .. => .isDirectory
  | e => .other (toString e)

def readPath (path : String) : IO (String × Except Fault (List UInt8)) := do
  try
    let octets ← IO.FS.readBinFile path
    return (path, .ok octets.toList)
  catch e => return (path, .error (faultOf e))

open CommandLine in
/-- The paths of the configuration files that the command may read. -/
def configPaths (directory : String) (o : Options) : List String :=
  match o.config with
  | some path => [path]
  | none => Config.candidates directory

open CommandLine in
/-- The surroundings of the command in this process, but for the shell, which is emulated. -/
def lookAround (arguments : List String) : IO Surroundings := do
  let directory := (← IO.currentDir).toString
  let logSpec ← IO.getEnv "RUST_LOG"
  let surroundings (snapshot : Snapshot) : Surroundings :=
    { workingDirectory := directory
      files := snapshot.files
      programs := Shell.programs (snapshot.tree directory)
      logSpec }
  match Options.ofArguments arguments with
  | .error _ => return surroundings []
  | .ok o =>
    let configs ← (configPaths directory o).mapM readPath
    match (loadConfig (surroundings configs) o).1 with
    | .error _ => return surroundings configs
    | .ok c =>
      match catalogSource o c with
      | .embedded => return surroundings configs
      | .file path => return surroundings (configs ++ [← readPath path])

end LoweringAudit.Main

open LoweringAudit in
def main (arguments : List String) : IO UInt32 := do
  let outcome := CommandLine.execute (← Main.lookAround arguments) arguments
  let out ← IO.getStdout
  out.write ⟨outcome.output.toArray⟩
  out.flush
  IO.eprint outcome.complaint
  return outcome.exitCode.toUInt32
