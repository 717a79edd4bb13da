import Verdict.Config.Reading
import Verdict.FileTree

namespace Verdict

inductive ConfigError where
  | unreadable
  | invalid
  deriving DecidableEq, Repr

def ConfigError.message : ConfigError → String
  | .unreadable => "Failed to read config file"
  | .invalid => "Failed to parse config file"

namespace Config

open FileTree (Location)

def fileName : String := ".plainsight.yaml"

def ofFile (t : FileTree) (place : Location) : Except ConfigError Config :=
  match t.read? place with
  | none => .error .unreadable
  | some s =>
    match ofYaml? s with
    | none => .error .invalid
    | some c => .ok c

-- The configuration in the file on a path, and the directory that the path names.
def load (t : FileTree) (path : String) : Except ConfigError (Config × Location) :=
  match t.resolve? path with
  | none => .error .unreadable
  | some place => (ofFile t place).map fun c => (c, (FileTree.names path).dropLast)

-- The configuration in force where a path leads, and its directory. A file that cannot be read hides
-- those farther out.
def discover? (t : FileTree) (path : String) : Option (Config × Location) := do
  let place ← t.resolve? path
  let directory ← place.outward.find? fun d => t.holds (d ++ [fileName])
  match ofFile t (directory ++ [fileName]) with
  | .ok c => some (c, directory)
  | .error _ => none

end Config

end Verdict
