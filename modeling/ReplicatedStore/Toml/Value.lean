/-!
# Values of configuration texts

A configuration text in TOML says a table: keys with values, some of which are tables again.  What a
later line may still add to a table depends on how the table came to be, so that is kept with it.
`Table.assign`, `Table.begin` and `Table.beginElement` are all the ways in which a text adds to the
table that it says; each refuses what would say the same thing twice.
-/

namespace ReplicatedStore.Toml

/-- How a table came to be. -/
inductive Origin where
  /-- It is written as a value, in braces. -/
  | braces
  /-- It has a header of its own, or is the whole text. -/
  | header
  /-- It lies on the way of the header of another table. -/
  | headerPath
  /-- It lies on the way of a dotted key. -/
  | keyPath
  deriving DecidableEq, Repr

/-- A value. -/
inductive Value where
  /-- A string. -/
  | text (s : String)
  /-- An integer. -/
  | integer (i : Int)
  /-- A number with a fraction or an exponent, an infinite one, or none at all, as it is written. -/
  | real (written : String)
  /-- True or false. -/
  | truth (b : Bool)
  /-- A date, a time of day or both, as it is written. -/
  | moment (written : String)
  /-- An array written as a value. -/
  | array (items : List Value)
  /-- A table. -/
  | table (origin : Origin) (entries : List (String × Value))
  /-- An array of tables that have headers, never empty, its last one first. -/
  | tables (last : List (String × Value)) (others : List (List (String × Value)))

/-- The keys of a table and their values, in the order in which they are written. -/
abbrev Table := List (String × Value)

namespace Table

/-- The value of a key. -/
def get? (t : Table) (key : String) : Option Value :=
  t.lookup key

/-- The table where the key has another value. -/
def replace (t : Table) (key : String) (value : Value) : Table :=
  t.map fun entry => if entry.1 = key then (key, value) else entry

/-- The table with a key that it did not have. -/
def add (t : Table) (key : String) (value : Value) : Table :=
  t ++ [(key, value)]

/-- Changes the table at the end of a path, where `origin` is that of `t`.  Tables that are missing
on the way come to be by it, with the origin `way`.  Of an array of tables the last one is meant.  A
table in braces is closed, and one with a header is closed to dotted keys. -/
def changeAt (way : Origin) (change : Origin → Table → Option Table) :
    List String → Origin → Table → Option Table
  | [], origin, t => change origin t
  | key :: path, _, t =>
    match t.get? key with
    | none => (changeAt way change path way []).map fun inner => t.add key (.table way inner)
    | some (.table origin inner) =>
      if origin = .braces ∨ (origin = .header ∧ way = .keyPath) then none
      else (changeAt way change path origin inner).map fun inner =>
        t.replace key (.table origin inner)
    | some (.tables last others) =>
      (changeAt way change path .header last).map fun last => t.replace key (.tables last others)
    | some _ => none

/-- Gives a value to a key behind a path of a dotted key.  A key that already has a value gets no
other.  Behind a path, the table must have come to be by dotted keys. -/
def assign (path : List String) (key : String) (value : Value) (t : Table) : Option Table :=
  changeAt .keyPath (fun origin inner =>
    if !path.isEmpty && origin != .keyPath then none
    else match inner.get? key with
      | none => some (inner.add key value)
      | some _ => none) path .header t

/-- Begins the table of a header.  The table may be there already only because it lies on the way of
other headers. -/
def begin (path : List String) (key : String) (t : Table) : Option Table :=
  changeAt .headerPath (fun _ inner =>
    match inner.get? key with
    | none => some (inner.add key (.table .header []))
    | some (.table .headerPath entries) => some (inner.replace key (.table .header entries))
    | some _ => none) path .header t

/-- Begins one more table of the array of tables of a header. -/
def beginElement (path : List String) (key : String) (t : Table) : Option Table :=
  changeAt .headerPath (fun _ inner =>
    match inner.get? key with
    | none => some (inner.add key (.tables [] []))
    | some (.tables last others) => some (inner.replace key (.tables [] (last :: others)))
    | some _ => none) path .header t

end Table

end ReplicatedStore.Toml
