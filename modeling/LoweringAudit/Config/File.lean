import LoweringAudit.Config.Format
import LoweringAudit.Files.Tree
/-!
Configuration files. The file for a directory is the nearest one of the usual name in it or above
it; where there is none the defaults hold. A file that is found is the only one that counts, even if
it cannot be read.
-/
namespace LoweringAudit.Config

/-- The name under which a configuration is looked for. -/
def fileName : String := "lowercheck.toml"

def load (files : Files) (path : String) : Except ConfigError Config :=
  match files.readText path with
  | .error .notFound => .error (.notFound path)
  | .error cause => .error (.unreadable cause)
  | .ok text =>
    match parse? text with
    | some c => .ok { c with baseDir := Path.parent? path }
    | none => .error .malformed

/-- The places to look for the configuration of a directory, nearest first. -/
def candidates (start : String) : List String :=
  (Path.ancestors start).map fun dir => Path.join dir fileName

/-- The nearest regular file of the usual name. -/
def find? (files : Files) (start : String) : Option String :=
  (candidates start).find? files.isFile

def found (path : String) : Log.Entry :=
  ⟨.debug, .config, "using config " ++ path⟩

/-- The configuration for a directory, and what is said on the way to it. -/
def findAndLoad (files : Files) (start : String) : Except ConfigError Config × List Log.Entry :=
  match find? files start with
  | some path => (load files path, [found path])
  | none => (.ok {}, [])

/-- Every configuration can be written as TOML, so only the file can be refused. -/
def save (c : Config) (tree : FileTree) (path : String) : Except ConfigError FileTree :=
  match tree.write path (Utf8.encode c.render.toList) with
  | .ok tree => .ok tree
  | .error cause => .error (.unreadable cause)

end LoweringAudit.Config
