import ReplicatedStore.Directory
import ReplicatedStore.Text.Blank
import ReplicatedStore.Text.Split
import ReplicatedStore.Text.Decimal

/-!
# Seed files

A seed file gives an empty store its first keys.  Each line holds a key and, after blanks, its
value; blank lines and lines that start with `#` say nothing.  `@select` names the database of the
lines after it, and `@include` reads another file, named from the place of the including one, as
part of the current database: a database that it selects is not selected after it.  Includes may be
sixteen deep.
-/

namespace ReplicatedStore

/-- One thing that a seed file says. -/
inductive SeedEntry where
  /-- The database is to exist. -/
  | select (db : String)
  /-- The key is to hold the string. -/
  | value (db key : String) (data : Bytes)
  deriving DecidableEq, Repr

/-- Why a seed file cannot be loaded. -/
inductive SeedError where
  /-- The file cannot be read. -/
  | unreadable (path : String) (fault : FileError)
  /-- A line is not one of the known forms. -/
  | poorlyFormed (path : String) (line : Nat) (content : String)
  /-- The file is included too deep. -/
  | tooDeep (path : String)
  deriving DecidableEq, Repr

/-- What is said about the fault. -/
def SeedError.message : SeedError → String
  | .unreadable path fault => "cannot read '" ++ path ++ "': " ++ fault.message
  | .poorlyFormed path line content =>
    "poorly formed line (file '" ++ path ++ "', line number " ++ Decimal.ofNat line ++ "): '" ++
      content ++ "'"
  | .tooDeep path => "includes nested too deeply at '" ++ path ++ "'"

namespace Seed

/-! ## Paths of included files -/

/-- A path, read from its end, without the slashes and `.` segments that stand there; a `.` that it
begins with stays. -/
def bare : List Char → List Char
  | '/' :: rest => bare rest
  | '.' :: '/' :: rest => bare rest
  | cs => cs

/-- The directory that holds the file of a path, as the path names it: nothing for `a.txt`, and `.`
for `./a.txt`. -/
def parent (path : String) : String :=
  let back := (path.toList.reverse.dropWhile (· == '/')).dropWhile (· != '/')
  let directory := String.ofList (bare back).reverse
  if directory.isEmpty && path.startsWith "/" then "/" else directory

/-- The path of a file that is named from a directory. -/
def join (directory file : String) : String :=
  if directory.isEmpty || file.startsWith "/" then file
  else if directory.endsWith "/" then directory ++ file
  else directory ++ "/" ++ file

/-! ## Lines -/

/-- What a line says. -/
inductive Line where
  /-- Nothing. -/
  | blank
  /-- Read another file here. -/
  | includes (file : String)
  /-- Go on in another database. -/
  | selects (db : String)
  /-- A key and its value. -/
  | entry (key : String) (data : Bytes)
  /-- No known form. -/
  | unknown
  deriving DecidableEq, Repr

/-- What a line says, once the white space around it is left out. -/
def Line.ofChars (cs : List Char) : Line :=
  match cs with
  | [] => .blank
  | '#' :: _ => .blank
  | '@' :: _ =>
    match (Text.words cs).map String.ofList with
    | [directive, name] =>
      if directive = "@include" then .includes name
      else if directive = "@select" then .selects name
      else .unknown
    | _ => .unknown
  | _ =>
    match Text.splitFirst? (fun c => c == ' ' || c == '\t') cs with
    | some (key, rest) =>
      .entry (String.ofList key) (Bytes.ofText (String.ofList (Text.trimStart rest)))
    | none => .unknown

/-- The lines of a text, without the white space around them. -/
def lines (text : String) : List (List Char) :=
  (Text.splitOn '\n' text.toList).map Text.trim

/-! ## Loading -/

/-- Reads the lines from number `number` on of the file at `path` while the database is `db`, where
`load` reads an included file. -/
def loadLines (load : String → String → Except SeedError (List SeedEntry)) (path : String) :
    String → Nat → List (List Char) → Except SeedError (List SeedEntry)
  | _, _, [] => .ok []
  | db, number, line :: rest =>
    match Line.ofChars line with
    | .blank => loadLines load path db (number + 1) rest
    | .includes file => do
      let included ← load (join (parent path) file) db
      return included ++ (← loadLines load path db (number + 1) rest)
    | .selects name => do
      return .select name :: (← loadLines load path name (number + 1) rest)
    | .entry key data => do
      return .value db key data :: (← loadLines load path db (number + 1) rest)
    | .unknown => .error (.poorlyFormed path number (String.ofList line))

/-- Reads the file at `path` and those it includes, as part of the database `db`, where files may
still be nested `budget` deep, this one among them. -/
def loadFile (directory : Directory) : Nat → String → String → Except SeedError (List SeedEntry)
  | 0, path, _ => .error (.tooDeep path)
  | budget + 1, path, db =>
    match directory.readText path with
    | .error fault => .error (.unreadable path fault)
    | .ok text => do
      return .select db :: (← loadLines (loadFile directory budget) path db 1 (lines text))

/-- How deep files may include each other, the first one not counted. -/
def includeDepth : Nat := 16

/-- The database that a seed file starts in. -/
def firstDatabase : String := "0"

/-- Reads the seed file at `path` and those it includes. -/
def load (directory : Directory) (path : String) : Except SeedError (List SeedEntry) :=
  loadFile directory (includeDepth + 1) path firstDatabase

end Seed

end ReplicatedStore
