import ReplicatedStore.Text.Bytes
import ReplicatedStore.Text.Split
import Std.Data.ExtTreeMap

/-!
# Files

The files that a node sees from the directory it works in.  Paths are texts with `/` between names;
one that starts with a slash goes from the root, any other from the working directory.  `.` stays
where it is, `..` goes up, and at the root stays there.  Names and paths may not be too long, which
is found on the way for a name and before that for a path.
-/

open Std (ExtTreeMap)

namespace ReplicatedStore

/-- Why a file cannot be read or written. -/
inductive FileError where
  /-- Nothing has that name. -/
  | notFound
  /-- The path goes on below a file. -/
  | notDirectory
  /-- The path names a directory. -/
  | isDirectory
  /-- The path, or one name in it, is too long. -/
  | tooLong
  /-- The path holds the octet zero, which no name may hold. -/
  | holdsZero
  /-- The content of a file read as text is not UTF-8. -/
  | notText
  deriving DecidableEq, Repr

/-- What is said about the fault. -/
def FileError.message : FileError → String
  | .notFound => "No such file or directory (os error 2)"
  | .notDirectory => "Not a directory (os error 20)"
  | .isDirectory => "Is a directory (os error 21)"
  | .tooLong => "File name too long (os error 36)"
  | .holdsZero => "file name contained an unexpected NUL byte"
  | .notText => "stream did not contain valid UTF-8"

/-- A working directory and the files around it. -/
structure Directory where
  /-- The names that lead from the root to the working directory. -/
  home : List String
  /-- The names that lead to other directories that exist even if no file is in them. -/
  folders : List (List String)
  /-- The content of each file, under the names that lead to it from the root. -/
  files : ExtTreeMap (List String) Bytes

namespace Directory

/-- A working directory without any files. -/
def empty (home : List String) : Directory := ⟨home, [], ∅⟩

/-- The segments of a path between its slashes. -/
def segments (path : String) : List String :=
  ((Text.splitOn '/' path.toList).filter (!·.isEmpty)).map String.ofList

/-- A directory below the root with files at the given paths, which go from it. -/
def ofFiles (files : List (String × Bytes)) : Directory :=
  let home := ["home"]
  ⟨home, [], ExtTreeMap.ofList (files.map fun (path, content) => (home ++ segments path, content))⟩

/-- Is there a directory under these names? -/
def hasDirectory (d : Directory) (names : List String) : Bool :=
  (d.home :: d.folders).any names.isPrefixOf ||
    d.files.keys.any fun file => names.isPrefixOf file && names.length < file.length

/-- Requires a directory under these names. -/
def enter (d : Directory) (names : List String) : Except FileError Unit :=
  if d.hasDirectory names then .ok ()
  else if d.files.contains names then .error .notDirectory
  else .error .notFound

/-- The most octets that a name may have. -/
def longestName : Nat := 255

/-- The most octets that a path may have. -/
def longestPath : Nat := 4095

/-- Follows the segments of a path from what these names lead to. -/
def follow (d : Directory) : List String → List String → Except FileError (List String)
  | names, [] => .ok names
  | names, segment :: rest => do
    d.enter names
    if longestName < segment.utf8ByteSize then .error .tooLong
    else if segment = "." then follow d names rest
    else if segment = ".." then follow d names.dropLast rest
    else follow d (names ++ [segment]) rest

/-- The names that a path leads to.  One that ends with a slash must lead to a directory. -/
def locate (d : Directory) (path : String) : Except FileError (List String) := do
  if path.toList.contains '\x00' then .error .holdsZero
  if longestPath < path.utf8ByteSize then .error .tooLong
  let names ← d.follow (if path.startsWith "/" then [] else d.home) (segments path)
  if path.endsWith "/" then d.enter names
  return names

/-- The content of the file that a path names. -/
def read (d : Directory) (path : String) : Except FileError Bytes := do
  let names ← d.locate path
  match d.files[names]? with
  | some content => .ok content
  | none => .error (if d.hasDirectory names then .isDirectory else .notFound)

/-- The content of the file that a path names, which must be text. -/
def readText (d : Directory) (path : String) : Except FileError String := do
  match (← d.read path).text? with
  | some text => .ok text
  | none => .error .notText

/-- Does the path name a file? -/
def hasFile (d : Directory) (path : String) : Bool :=
  (d.read path).isOk

/-- Writes a file whose directory exists. -/
def write (d : Directory) (path : String) (content : Bytes) : Except FileError Directory := do
  let names ← d.locate path
  d.enter names.dropLast
  if d.hasDirectory names then .error .isDirectory
  else .ok { d with files := d.files.insert names content }

end Directory

end ReplicatedStore
