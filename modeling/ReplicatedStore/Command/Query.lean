import ReplicatedStore.Reply
import ReplicatedStore.Store.Lists
import ReplicatedStore.Store.Patterns
import ReplicatedStore.Store.Sets
import ReplicatedStore.Store.Sort

/-!
# Queries

Commands that answer from one database and change nothing.
-/

namespace ReplicatedStore

/-- A question about a database. -/
inductive Query where
  /-- The string of a key. -/
  | get (key : String)
  /-- The strings of several keys. -/
  | getMany (keys : List String)
  /-- Does the key exist? -/
  | has (key : String)
  /-- The names that a glob pattern matches. -/
  | keysLike (pattern : String)
  /-- The names that a regular expression matches. -/
  | keysMatching (pattern : String)
  /-- The type of what a key holds. -/
  | type (key : String)
  /-- The seconds that a key has left. -/
  | timeToLive (key : String)
  /-- Any key. -/
  | randomKey
  /-- The items of a list or set in order. -/
  | sort (key : String) (options : SortOptions)
  /-- The length of a list. -/
  | listLength (key : String)
  /-- A part of a list. -/
  | listRange (key : String) (start stop : Int)
  /-- One item of a list. -/
  | itemAt (key : String) (index : Int)
  /-- The number of members of a set. -/
  | memberCount (key : String)
  /-- Is the member in the set? -/
  | isMember (key : String) (member : Bytes)
  /-- The members of a set. -/
  | members (key : String)
  /-- What an operation of set algebra finds. -/
  | combine (op : Store.SetAlgebra) (keys : List String)
  /-- The number of keys. -/
  | size
  deriving DecidableEq, Repr

/-- Answers a question about a database. -/
def Query.answer [Clock] (q : Query) (s : Store) (now pick : Nat) (db : String) :
    Except StoreError Reply :=
  match q with
  | .get key => .ok (.ofOption (s.get? db key))
  | .getMany keys => .ok (.array (keys.map fun key => .ofOption (s.get? db key)))
  | .has key => .ok (.ofBool (s.has db key))
  | .keysLike pattern => .ok (.bulk (Bytes.ofText (s.keysLike db pattern)))
  | .keysMatching pattern => (s.keysMatching db pattern).map fun names => .bulk (Bytes.ofText names)
  | .type key => .ok (.simple (s.typeOf db key).name)
  | .timeToLive key => .ok (.integer (s.timeToLive now db key))
  | .randomKey => .ok (.ofOption ((s.randomKey? pick db).map Bytes.ofText))
  | .sort key options =>
    (s.sort db key options).map fun found => .array (found.map Reply.ofOption)
  | .listLength key => (s.listLength db key).map .count
  | .listRange key start stop => (s.listRange db key start stop).map .bulks
  | .itemAt key index => (s.itemAt db key index).map .ofOption
  | .memberCount key => (s.memberCount db key).map .count
  | .isMember key member => (s.isMember db key member).map .ofBool
  | .members key => (s.members db key).map .bulks
  | .combine op keys => .ok (.bulks (s.combine op db keys).toList)
  | .size => .ok (.count (s.size db))

end ReplicatedStore
