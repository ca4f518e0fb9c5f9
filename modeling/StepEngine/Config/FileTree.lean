import StepEngine.Config.Loading

/-!
# FileTree: the files of a directory, by path

A tree lists files by the parts of their paths, below its root, which is also where relative paths start. A path is walked part by part: an
empty part and a single point stay where they are, two points go one part back, and any other part goes to what has that name. Only a
directory can be walked through, and outside of the root there is nothing. A path has a longest length, in octets.
-/

namespace StepEngine

/-- Files by the parts of their paths. -/
structure FileTree where
  /-- The first part of the paths that start at the root by name. -/
  root : String
  files : List (List String × FileEntry)

namespace FileTree

/-- The tree with the given files, by their paths below the root. -/
def ofList (root : String) (files : List (String × FileEntry)) : FileTree :=
  ⟨root, files.map fun p => ((p.1.splitOn "/").filter fun part => part ≠ "" && part ≠ ".", p.2)⟩

/-- What has a place in the tree: the root and everything above a file is a directory. -/
def at? (t : FileTree) (place : List String) : Option FileEntry :=
  match t.files.lookup place with
  | some entry => some entry
  | none => if place.isEmpty || t.files.any fun p => place.isPrefixOf p.1 then some .directory else none

/-- The place that one more part of a path leads to. There is no way out of the root. -/
def enter? (place : List String) (part : String) : Option (List String) :=
  if part = "" ∨ part = "." then some place
  else if part = ".." then if place.isEmpty then none else some place.dropLast
  else some (place ++ [part])

/-- What a path leads to from a place. -/
def walk? (t : FileTree) : List String → List String → Option FileEntry
  | place, [] => t.at? place
  | place, part :: rest =>
    match t.at? place with
    | some .directory => (enter? place part).bind fun next => walk? t next rest
    | _ => none

/-- A path may have this many octets. -/
def pathLimit : Nat := 4095

/-- What there is at a path. The empty path names nothing, and neither does one that is too long, whatever its parts lead to. -/
def entry? (t : FileTree) (path : String) : Option FileEntry :=
  if pathLimit < path.utf8ByteSize then none
  else match path.splitOn "/" with
  | [""] => none
  | "" :: _ => none
  | first :: rest => if first = t.root then t.walk? [] rest else t.walk? [] (first :: rest)
  | [] => none

end FileTree

end StepEngine
