namespace Verdict

abbrev FileTree.Location := List String

structure FileTree where
  files : List (FileTree.Location × String)
  directories : List FileTree.Location
  deriving Repr

namespace FileTree

-- The names on a path. Parts that lead nowhere are left out.
def names (path : String) : Location := (path.splitOn "/").filter fun n => n ≠ "" ∧ n ≠ "."

-- Of two files at one place the later counts.
def ofPaths (files : List (String × String)) (directories : List String) : FileTree where
  files := files.reverse.map fun f => (names f.1, f.2)
  directories := directories.map names

def read? (t : FileTree) (place : Location) : Option String :=
  (t.files.find? (·.1 = place)).map (·.2)

-- A directory is there if something is said to be in it.
def isDirectory (t : FileTree) (place : Location) : Bool :=
  place.isEmpty || t.directories.any place.isPrefixOf ||
    t.files.any fun f => place.isPrefixOf f.1 && place ≠ f.1

def holds (t : FileTree) (place : Location) : Bool := t.isDirectory place || (t.read? place).isSome

-- One step of a path. Two dots lead out of a directory, but not out of the root.
def enter? (t : FileTree) (place : Location) (name : String) : Option Location :=
  if name = "" ∨ name = "." then if t.isDirectory place then some place else none
  else if name = ".." then
    if t.isDirectory place ∧ place ≠ [] then some place.dropLast else none
  else if t.holds (place ++ [name]) then some (place ++ [name])
  else none

-- Where a path leads from the root, if there is something.
def resolve? (t : FileTree) (path : String) : Option Location :=
  (path.splitOn "/").foldlM t.enter? []

namespace Location

-- The place and those around it, the innermost first.
def outward (place : Location) : List Location :=
  (List.range (place.length + 1)).reverse.map fun n => place.take n

def path (place : Location) : String := "/".intercalate place

end Location

end FileTree

end Verdict
