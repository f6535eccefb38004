import ReplicatedStore.Toml.Bare

/-!
# Lines of configuration texts

A line gives a value to a key, or is the header of a table, or says nothing.  A value in brackets
may go on over several lines.
-/

namespace ReplicatedStore.Toml

/-- Reads from the front of the characters that are left. -/
abbrev Reading := StateT (List Char) Option

/-! ## Characters -/

/-- The next character, which stays there. -/
def next? : Reading (Option Char) := do
  return (← get).head?

/-- Takes the character if it comes next. -/
def takeIf (c : Char) : Reading Bool := fun cs =>
  match cs with
  | [] => some (false, [])
  | d :: rest => some (if d = c then (true, rest) else (false, d :: rest))

/-- Takes the character, which must come next. -/
def take (c : Char) : Reading Unit := do
  unless ← takeIf c do failure

/-- Leaves out blanks. -/
def dropSpaces : Reading Unit :=
  modify (·.dropWhile isSpace)

/-- The characters behind blanks, line breaks and comments, where a comment is open already if
`inComment`. -/
def behindBlankLines (inComment : Bool) : List Char → List Char
  | [] => []
  | '\n' :: rest => behindBlankLines false rest
  | '\r' :: '\n' :: rest => behindBlankLines false rest
  | c :: rest =>
    if inComment && isPlain c then behindBlankLines true rest
    else if !inComment && isSpace c then behindBlankLines false rest
    else if !inComment && c == '#' then behindBlankLines true rest
    else c :: rest

/-- Leaves out blanks, line breaks and comments. -/
def dropBlankLines : Reading Unit :=
  modify (behindBlankLines false)

/-- Takes the end of a line, with blanks and a comment in front of it. -/
def lineEnd : Reading Unit := do
  dropSpaces
  if ← takeIf '#' then modify (·.dropWhile isPlain)
  match ← get with
  | [] => return
  | '\n' :: rest => set rest
  | '\r' :: '\n' :: rest => set rest
  | _ => failure

/-! ## Keys -/

/-- May the character stand in a key without quotes? -/
def isBareKey (c : Char) : Bool :=
  c.isAlphanum || c == '_' || c == '-'

/-- Reads one name of a key. -/
def keyName (cs : List Char) : Option (String × List Char) :=
  match cs with
  | '"' :: rest => (quoted rest).map fun (name, rest) => (String.ofList name, rest)
  | '\'' :: rest => (literal rest).map fun (name, rest) => (String.ofList name, rest)
  | _ =>
    let (name, rest) := cs.span isBareKey
    if name.isEmpty then none else some (String.ofList name, rest)

/-- Reads a key of at most `limit` names: the way to it and its own name. -/
def keyOf : Nat → Reading (List String × String)
  | 0 => failure
  | limit + 1 => do
    dropSpaces
    let name ← keyName
    dropSpaces
    if ← takeIf '.' then
      let (path, last) ← keyOf limit
      return (name :: path, last)
    return ([], name)

/-- The most names that a key may have, and the deepest nesting that a value may have. -/
def depthLimit : Nat := 79

/-- Reads a key. -/
def key : Reading (List String × String) :=
  keyOf depthLimit

/-! ## Values -/

/-- A value of a key, the way to the key, and its own name. -/
structure Pair where
  /-- The names of the tables on the way. -/
  path : List String
  /-- The key in the last table. -/
  name : String
  /-- The value. -/
  value : Value

/-- The table with the value. -/
def Pair.assign (t : Table) (p : Pair) : Option Table :=
  t.assign p.path p.name p.value

/-- The table in braces with the pairs. -/
def braces (pairs : List Pair) : Option Value :=
  (pairs.foldlM Pair.assign []).map (.table .braces)

/-- Reads a key and its value, with blanks around them. -/
def pair (value : Reading Value) : Reading Pair := do
  let (path, name) ← key
  take '='
  dropSpaces
  let v ← value
  dropSpaces
  return ⟨path, name, v⟩

/-- Reads at most `budget` items of an array and its closing bracket. -/
def items (value : Reading Value) : Nat → Reading (List Value)
  | 0 => failure
  | budget + 1 => do
    dropBlankLines
    if ← takeIf ']' then return []
    let first ← value
    dropBlankLines
    if ← takeIf ',' then return first :: (← items value budget)
    take ']'
    return [first]

/-- Reads at most `budget` pairs of a table in braces and its closing brace. -/
def pairs (value : Reading Value) : Nat → Reading (List Pair)
  | 0 => failure
  | budget + 1 => do
    let first ← pair value
    if ← takeIf ',' then return first :: (← pairs value budget)
    take '\x7d'
    return [first]

/-- Reads a value, which may nest arrays and tables `depth` deep. -/
def valueOf : Nat → Reading Value
  | 0 => fun cs => scalar cs
  | depth + 1 => do
    if ← takeIf '[' then return .array (← items (valueOf depth) ((← get).length + 1))
    if ← takeIf '\x7b' then
      dropSpaces
      if ← takeIf '\x7d' then return .table .braces []
      let entries ← pairs (valueOf depth) ((← get).length + 1)
      return ← braces entries
    fun cs => scalar cs
where
  /-- Reads a value that holds no others. -/
  scalar (cs : List Char) : Option (Value × List Char) :=
    match string cs with
    | some (text, rest) => some (.text (String.ofList text), rest)
    | none => bare cs

/-- Reads a value. -/
def value : Reading Value :=
  valueOf depthLimit

/-! ## Lines -/

/-- What a line says. -/
inductive Line where
  /-- A key has a value. -/
  | pair (p : Pair)
  /-- The table of a key follows. -/
  | header (path : List String) (name : String)
  /-- The next table of the array of a key follows. -/
  | element (path : List String) (name : String)

/-- Reads a line, which says nothing if there is only a comment on it. -/
def line : Reading (Option Line) := do
  dropSpaces
  if ← takeIf '[' then
    let doubled ← takeIf '['
    let (path, name) ← key
    take ']'
    if doubled then take ']'
    lineEnd
    return some (if doubled then .element path name else .header path name)
  let first ← next?
  if first ∈ [none, some '#', some '\n', some '\r'] then
    lineEnd
    return none
  let p ← pair value
  lineEnd
  return some (.pair p)

/-- Reads at most `budget` lines up to the end of the text. -/
def lines : Nat → Reading (List Line)
  | 0 => failure
  | budget + 1 => do
    if (← next?).isNone then return []
    let first ← line
    return first.toList ++ (← lines budget)

end ReplicatedStore.Toml
