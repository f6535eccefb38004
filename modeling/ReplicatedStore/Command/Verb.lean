import ReplicatedStore.Store.Error
import ReplicatedStore.Value

/-!
# Commands by name

Every command has a name, a number of arguments, a right that it needs, and a demand on what its
first argument names in the store.  All this is checked before the arguments themselves are looked
at.
-/

namespace ReplicatedStore

/-- What a command is allowed to do, and where. -/
inductive Access where
  /-- It changes no data. -/
  | read
  /-- It changes data; clients may only run it on the authority. -/
  | write
  /-- Nodes send it to each other. -/
  | internal
  deriving DecidableEq, Repr

/-- What the first argument of a command must name in the store. -/
inductive Demand where
  /-- Any key that exists. -/
  | any
  /-- A string or nothing. -/
  | stringOrNone
  /-- A list or nothing. -/
  | listOrNone
  /-- A list. -/
  | list
  /-- A set or nothing. -/
  | setOrNone
  /-- A set. -/
  | set
  /-- Nothing is demanded. -/
  | unconstrained
  deriving DecidableEq, Repr

/-- Holds the type of what a key holds against the demand. -/
def Demand.check (demand : Demand) (found : ValueType) : Except StoreError Unit :=
  let among (allowed : List ValueType) : Except StoreError Unit :=
    if found ∈ allowed then .ok () else .error .wrongType
  match demand with
  | .any => if found = .none then .error .noSuchKey else .ok ()
  | .stringOrNone => among [.string, .none]
  | .listOrNone => among [.list, .none]
  | .list => among [.list]
  | .setOrNone => among [.set, .none]
  | .set => among [.set]
  | .unconstrained => .ok ()

/-- The commands. -/
inductive Verb where
  | get | set | setNew | getSet | getMany | increment | incrementBy | decrement | decrementBy
  | remove | removeList | has | keys | matching | rename | renameNew | move | type | expire
  | timeToLive | randomKey | sort
  | pushHead | pushTail | listLength | listRange | trim | itemAt | setItem | removeItems | popHead
  | popTail
  | addMember | memberCount | isMember | members | removeMember | intersect | intersectInto | unite
  | uniteInto | subtract | subtractInto | popMember | moveMember
  | select | ping | auth | info | save | saveLater | lastSave | databaseSize | flush | flushAll
  | shutdown | quit | version
  | attach | attachSubordinate | replay | replaceAll
  deriving DecidableEq, Repr

/-- What is known of a command before its arguments are looked at. -/
structure Descriptor where
  /-- The name of the command, in small letters. -/
  name : String
  /-- How many arguments it takes; none when the number may differ. -/
  arity : Option Nat
  /-- The right that it needs. -/
  access : Access
  /-- What its first argument must name. -/
  demand : Demand
  deriving DecidableEq, Repr

namespace Verb

/-- The descriptor of a command. -/
def descriptor : Verb → Descriptor
  | .get => ⟨"get", some 1, .read, .stringOrNone⟩
  | .set => ⟨"set", none, .write, .unconstrained⟩
  | .setNew => ⟨"setnx", some 2, .write, .stringOrNone⟩
  | .getSet => ⟨"getset", some 2, .write, .stringOrNone⟩
  | .getMany => ⟨"mget", none, .read, .unconstrained⟩
  | .increment => ⟨"incr", some 1, .write, .stringOrNone⟩
  | .incrementBy => ⟨"incrby", some 2, .write, .stringOrNone⟩
  | .decrement => ⟨"decr", some 1, .write, .stringOrNone⟩
  | .decrementBy => ⟨"decrby", some 2, .write, .stringOrNone⟩
  | .remove => ⟨"del", none, .write, .unconstrained⟩
  | .removeList => ⟨"ldel", some 1, .write, .listOrNone⟩
  | .has => ⟨"exists", some 1, .read, .unconstrained⟩
  | .keys => ⟨"keys", some 1, .read, .unconstrained⟩
  | .matching => ⟨"re", some 1, .read, .unconstrained⟩
  | .rename => ⟨"rename", some 2, .write, .unconstrained⟩
  | .renameNew => ⟨"renamenx", some 2, .write, .unconstrained⟩
  | .move => ⟨"move", some 2, .write, .unconstrained⟩
  | .type => ⟨"type", some 1, .read, .unconstrained⟩
  | .expire => ⟨"expire", some 2, .write, .any⟩
  | .timeToLive => ⟨"ttl", some 1, .read, .unconstrained⟩
  | .randomKey => ⟨"randomkey", some 0, .read, .unconstrained⟩
  | .sort => ⟨"sort", none, .read, .any⟩
  | .pushHead => ⟨"lpush", some 2, .write, .listOrNone⟩
  | .pushTail => ⟨"rpush", some 2, .write, .listOrNone⟩
  | .listLength => ⟨"llen", some 1, .read, .list⟩
  | .listRange => ⟨"lrange", some 3, .read, .listOrNone⟩
  | .trim => ⟨"ltrim", some 3, .write, .list⟩
  | .itemAt => ⟨"lindex", some 2, .read, .list⟩
  | .setItem => ⟨"lset", some 3, .write, .list⟩
  | .removeItems => ⟨"lrem", some 3, .write, .list⟩
  | .popHead => ⟨"lpop", some 1, .write, .listOrNone⟩
  | .popTail => ⟨"rpop", some 1, .write, .listOrNone⟩
  | .addMember => ⟨"sadd", some 2, .write, .setOrNone⟩
  | .memberCount => ⟨"scard", some 1, .read, .setOrNone⟩
  | .isMember => ⟨"sismember", some 2, .read, .setOrNone⟩
  | .members => ⟨"smembers", some 1, .read, .setOrNone⟩
  | .removeMember => ⟨"srem", some 2, .write, .set⟩
  | .intersect => ⟨"sinter", none, .read, .unconstrained⟩
  | .intersectInto => ⟨"sinterstore", none, .write, .unconstrained⟩
  | .unite => ⟨"sunion", none, .read, .unconstrained⟩
  | .uniteInto => ⟨"sunionstore", none, .write, .unconstrained⟩
  | .subtract => ⟨"sdiff", none, .read, .unconstrained⟩
  | .subtractInto => ⟨"sdiffstore", none, .write, .unconstrained⟩
  | .popMember => ⟨"spop", some 1, .write, .setOrNone⟩
  | .moveMember => ⟨"smove", some 3, .write, .unconstrained⟩
  | .select => ⟨"select", some 1, .read, .unconstrained⟩
  | .ping => ⟨"ping", some 0, .read, .unconstrained⟩
  | .auth => ⟨"auth", some 1, .read, .unconstrained⟩
  | .info => ⟨"info", some 0, .read, .unconstrained⟩
  | .save => ⟨"save", some 0, .read, .unconstrained⟩
  | .saveLater => ⟨"bgsave", some 0, .read, .unconstrained⟩
  | .lastSave => ⟨"lastsave", some 0, .read, .unconstrained⟩
  | .databaseSize => ⟨"dbsize", some 0, .read, .unconstrained⟩
  | .flush => ⟨"flushdb", some 0, .write, .unconstrained⟩
  | .flushAll => ⟨"flushall", some 0, .write, .unconstrained⟩
  | .shutdown => ⟨"shutdown", some 0, .read, .unconstrained⟩
  | .quit => ⟨"quit", some 0, .read, .unconstrained⟩
  | .version => ⟨"version", some 0, .read, .unconstrained⟩
  | .attach => ⟨"slave", some 1, .internal, .unconstrained⟩
  | .attachSubordinate => ⟨"subordinate", some 1, .internal, .unconstrained⟩
  | .replay => ⟨"do", none, .internal, .unconstrained⟩
  | .replaceAll => ⟨"replacedb", some 2, .internal, .unconstrained⟩

/-- The name of the command. -/
def name (v : Verb) : String := v.descriptor.name

/-- All commands. -/
def all : List Verb :=
  [.get, .set, .setNew, .getSet, .getMany, .increment, .incrementBy, .decrement, .decrementBy,
    .remove, .removeList, .has, .keys, .matching, .rename, .renameNew, .move, .type, .expire,
    .timeToLive, .randomKey, .sort, .pushHead, .pushTail, .listLength, .listRange, .trim, .itemAt,
    .setItem, .removeItems, .popHead, .popTail, .addMember, .memberCount, .isMember, .members,
    .removeMember, .intersect, .intersectInto, .unite, .uniteInto, .subtract, .subtractInto,
    .popMember, .moveMember, .select, .ping, .auth, .info, .save, .saveLater, .lastSave,
    .databaseSize, .flush, .flushAll, .shutdown, .quit, .version, .attach, .attachSubordinate,
    .replay, .replaceAll]

/-- The command with the name, which must be written in small letters. -/
def ofName? (name : String) : Option Verb :=
  all.find? fun v => v.name = name

/-- Does a replica run the command when it arrives as a recorded change? -/
def isReplayable (v : Verb) : Bool :=
  v.descriptor.access == .write || v == .save || v == .saveLater || v == .shutdown || v == .select

end Verb

end ReplicatedStore
