import ReplicatedStore.Pattern.Glob
import ReplicatedStore.Pattern.Regex.Compile
import ReplicatedStore.Store.Keys

/-!
# Finding keys by patterns

Both kinds of pattern answer the names in their order, joined by blanks.  A regular expression is
put into the group of an anchored one as it is written, so that it may also close that group.
-/

namespace ReplicatedStore.Store

/-- The names of a database that a glob pattern matches. -/
def keysLike (s : Store) (db pattern : String) : String :=
  s.matchingKeys db fun key => Glob.isMatch (Bytes.ofText pattern) (Bytes.ofText key)

/-- The anchored expression that a pattern is put into. -/
def anchored (pattern : String) : String :=
  "^(?:" ++ pattern ++ ")"

/-- The names of a database that a regular expression matches from their start. -/
def keysMatching (s : Store) (db pattern : String) : Except StoreError String :=
  match Regex.ofText? (anchored pattern) with
  | some r => .ok (s.matchingKeys db fun key => r.isMatch key.toList)
  | none => .error (.invalidPattern pattern)

end ReplicatedStore.Store
