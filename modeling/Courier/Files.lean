import Courier.Fault

/-!
# Files of a run

The files that a run can read by their paths, and a folder that holds some. A path is followed name
by name from the folder that the run begins in, or from the root. What lies outside of that folder
is not known, except for the folders above it and those that every root has.
-/

namespace Courier

/-- What reading a path gives. -/
abbrev Files := String → Except ReadFault (List UInt8)

/-- Whether there is anything under a path. -/
def Files.contains (files : Files) (path : String) : Bool :=
  match files path with
  | .ok _ => true
  | .error .isDirectory => true
  | .error _ => false

/-- The files in a folder and in the folders in it, each by the names on the way to it. -/
abbrev Folder := List (List String × List UInt8)

/-- Where a way has led to. -/
inductive Place where
  /-- A folder in the one that the run begins in, by the names on the way. -/
  | inside (way : List String)
  /-- So many folders above that one. -/
  | above (levels : Nat)
  | root
  /-- A folder at the root. -/
  | atRoot
  deriving DecidableEq, Repr

def Place.parent : Place → Place
  | .inside [] => .above 1
  | .inside way => .inside way.dropLast
  | .above levels => .above (levels + 1)
  | .root => .root
  | .atRoot => .root

namespace Folder

/-- The longest name of a file in bytes, and the longest path. -/
def longestName : Nat := 255

def longestPath : Nat := 4095

def rootFolders : List String :=
  ["bin", "boot", "dev", "etc", "home", "lib", "media", "mnt", "opt", "proc", "root", "run", "sbin",
   "srv", "sys", "tmp", "usr", "var"]

/-- Reads what a way leads to. An empty name and `.` lead nowhere, and `..` leads to the folder
above, but only a folder can be gone on from. -/
def follow (folder : Folder) : Place → List String → Except ReadFault (List UInt8)
  | _, [] => .error .isDirectory
  | place, name :: rest =>
    if name = "" || name = "." then follow folder place rest
    else if name = ".." then follow folder place.parent rest
    else if longestName < name.utf8ByteSize then .error .nameTooLong
    else match place with
      | .inside way =>
        let way := way ++ [name]
        match folder.lookup way with
        | some bytes => if rest = [] then .ok bytes else .error .notDirectory
        | none =>
          if folder.any fun (file, _) => way.isPrefixOf file then follow folder (.inside way) rest
          else .error .notFound
      | .root => if name ∈ rootFolders then follow folder .atRoot rest else .error .notFound
      | _ => .error .notFound

/-- The files of a run that begins in the folder. -/
def files (folder : Folder) : Files := fun path =>
  if path = "" then .error .notFound
  else if longestPath < path.utf8ByteSize then .error .nameTooLong
  else folder.follow (if path.startsWith "/" then .root else .inside []) (path.splitOn "/")

/-- A folder with files under the given paths. -/
def ofPaths (contents : List (String × List UInt8)) : Folder :=
  contents.map fun (path, bytes) =>
    ((path.splitOn "/").filter fun name => name ≠ "" && name ≠ ".", bytes)

end Folder

end Courier
