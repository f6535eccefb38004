import ReplicatedStore.Toml.Line

/-!
# Configuration texts

The table that a text in TOML 1.0 says, or nothing when the text is no TOML.
-/

namespace ReplicatedStore.Toml

/-- The table of the whole text and the names that lead to the table of the last header. -/
structure Outline where
  /-- The table of the whole text. -/
  root : Table
  /-- The names that lead to the table that keys are added to. -/
  header : List String

/-- The outline of a text without lines. -/
def Outline.empty : Outline := ⟨[], []⟩

/-- The outline with one more line. -/
def Outline.add (o : Outline) : Line → Option Outline
  | .pair p =>
    (Table.changeAt .headerPath (fun _ inner => p.assign inner) o.header .header o.root).map
      fun root => ⟨root, o.header⟩
  | .header path name => (o.root.begin path name).map fun root => ⟨root, path ++ [name]⟩
  | .element path name => (o.root.beginElement path name).map fun root => ⟨root, path ++ [name]⟩

/-- The characters without the mark of byte order at their start. -/
def dropByteOrderMark : List Char → List Char
  | [] => []
  | c :: rest => if c.toNat = 0xFEFF then rest else c :: rest

/-- The table that a text says. -/
def parse? (text : String) : Option Table := do
  let cs := dropByteOrderMark text.toList
  let (lines, _) ← (lines (cs.length + 1)).run cs
  let outline ← lines.foldlM Outline.add .empty
  return outline.root

end ReplicatedStore.Toml
