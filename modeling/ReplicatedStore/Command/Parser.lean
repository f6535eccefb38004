import ReplicatedStore.Address
import ReplicatedStore.Command.Basic
import ReplicatedStore.Command.Error
import ReplicatedStore.Command.Verb
import ReplicatedStore.Request
import ReplicatedStore.Text.LowerCase

/-!
# Reading commands

The arguments of a request are read one after the other, and the first that is missing or wrong is
the fault that is reported.  Arguments behind those that a command takes are left aside.
-/

namespace ReplicatedStore

namespace Command

/-- Reads from the arguments that are left. -/
abbrev Reading := StateT (List Bytes) (Except CommandError)

/-! ## Single arguments -/

/-- The next argument. -/
def nextData : Reading Bytes := do
  match ← get with
  | [] => throw .missingArgument
  | arg :: rest => set rest; return arg

/-- An argument as text. -/
def textOf (arg : Bytes) : Except CommandError String :=
  match arg.text? with
  | some text => .ok text
  | none => .error .notText

/-- The next argument, which is a text. -/
def nextText : Reading String := do
  textOf (← nextData)

/-- The integer that a text denotes. -/
def integerOf (text : String) : Except CommandError Int :=
  match Decimal.read? Decimal.signed64 (Bytes.ofText text) with
  | some value => .ok value
  | none => .error (.notInteger text)

/-- The next argument, which is an integer. -/
def nextInteger : Reading Int := do
  integerOf (← nextText)

/-- The next argument, which is a time to live. -/
def nextExpiration : Reading Int := do
  let text ← nextText
  match integerOf text with
  | .ok seconds => return seconds
  | .error _ => throw (.invalidExpiration text)

/-- The next argument, which is a version. -/
def nextVersion : Reading Nat := do
  let text ← nextText
  match Decimal.read? Decimal.unsigned64 (Bytes.ofText text) with
  | some number => return number.toNat
  | none => throw (.notInteger text)

/-- All arguments that are left, which are texts.  There must be one. -/
def remainingTexts : Reading (List String) := do
  let first ← nextText
  let others ← (← get).mapM fun arg => liftM (textOf arg)
  set ([] : List Bytes)
  return first :: others

/-! ## Options of SORT -/

/-- The next argument, which is a number of items. -/
def nextCount : Reading Nat := do
  let value ← nextInteger
  if value < 0 then throw (.notInteger (Decimal.ofInt value)) else return value.toNat

/-- The words that start an option of SORT. -/
inductive SortWord where
  /-- Nothing: a doubled blank. -/
  | blank
  /-- The pattern of weights. -/
  | weight
  /-- The pattern of answers. -/
  | answer
  /-- The part that is answered. -/
  | part
  /-- Ascending order. -/
  | ascending
  /-- Descending order. -/
  | descending
  /-- Weights compare as octets. -/
  | alpha
  deriving DecidableEq, Repr

/-- The word that a text is, written in any letters. -/
def SortWord.ofText? (text : String) : Option SortWord :=
  [("", SortWord.blank), ("by", .weight), ("get", .answer), ("limit", .part), ("asc", .ascending),
    ("desc", .descending), ("alpha", .alpha)].lookup (Text.lowercase text)

/-- Reads the option that a word starts and applies it. -/
def sortOption (options : SortOptions) : SortWord → Reading SortOptions
  | .blank => return options
  | .weight => do return { options with weightPattern := some (← nextText) }
  | .answer => do return { options with answerPattern := some (← nextText) }
  | .part => do
    let start ← nextCount
    let count ← nextCount
    return { options with part := some (start, count) }
  | .ascending => return { options with descending := false }
  | .descending => return { options with descending := true }
  | .alpha => return { options with alpha := true }

/-- Reads at most `budget` options of SORT. -/
def sortOptions : Nat → SortOptions → Reading SortOptions
  | 0, options => return options
  | budget + 1, options => do
    if (← get).isEmpty then return options
    else
      let text ← nextText
      match SortWord.ofText? text with
      | none => throw (.invalidArgument "sort" text)
      | some word => sortOptions budget (← sortOption options word)

/-- Reads the key and the options of SORT; every option takes an argument at least. -/
def readSort : Reading Command := do
  let key ← nextText
  let options ← sortOptions (← get).length {}
  return .ask (.sort key options)

/-- Reads the address of a replica. -/
def readAttach (name : String) : Reading Command := do
  let address ← nextText
  match Address.ofText? address with
  | some replica => return .attach replica
  | none => throw (.invalidArgument name address)

/-! ## Commands -/

/-- Reads a set operation. -/
def readCombine (op : Store.SetAlgebra) : Reading Command := do
  return .ask (.combine op (← remainingTexts))

/-- Reads a set operation that stores what it finds. -/
def readCombineInto (op : Store.SetAlgebra) : Reading Command := do
  let target ← nextText
  return .edit (.combineInto op target (← remainingTexts))

/-- Reads a key and an item for one end of a list. -/
def readPush (side : ListEnd) : Reading Command := do
  let key ← nextText
  return .edit (.push key (← nextData) side)

/-- Reads the arguments of a command. -/
def readArguments : Verb → Reading Command
  | .get => do return .ask (.get (← nextText))
  | .set => do
    let key ← nextText
    return .edit (.set key (← nextData))
  | .setNew => do
    let key ← nextText
    return .edit (.setNew key (← nextData))
  | .getSet => do
    let key ← nextText
    return .edit (.getSet key (← nextData))
  | .getMany => do return .ask (.getMany (← remainingTexts))
  | .increment => do return .edit (.add (← nextText) 1)
  | .incrementBy => do
    let key ← nextText
    return .edit (.add key (← nextInteger))
  | .decrement => do return .edit (.add (← nextText) (-1))
  | .decrementBy => do
    let key ← nextText
    return .decrement key (← nextInteger)
  | .remove => do return .edit (.remove (← remainingTexts))
  | .removeList => do return .edit (.remove (← remainingTexts))
  | .has => do return .ask (.has (← nextText))
  | .keys => do return .ask (.keysLike (← nextText))
  | .matching => do return .ask (.keysMatching (← nextText))
  | .rename => do
    let source ← nextText
    return .edit (.rename source (← nextText))
  | .renameNew => do
    let source ← nextText
    return .edit (.renameNew source (← nextText))
  | .move => do
    let key ← nextText
    return .edit (.move key (← nextText))
  | .type => do return .ask (.type (← nextText))
  | .expire => do
    let key ← nextText
    return .edit (.expire key (← nextExpiration))
  | .timeToLive => do return .ask (.timeToLive (← nextText))
  | .randomKey => return .ask .randomKey
  | .sort => readSort
  | .pushHead => readPush .head
  | .pushTail => readPush .tail
  | .listLength => do return .ask (.listLength (← nextText))
  | .listRange => do
    let key ← nextText
    let start ← nextInteger
    return .ask (.listRange key start (← nextInteger))
  | .trim => do
    let key ← nextText
    let start ← nextInteger
    return .edit (.trim key start (← nextInteger))
  | .itemAt => do
    let key ← nextText
    return .ask (.itemAt key (← nextInteger))
  | .setItem => do
    let key ← nextText
    let index ← nextInteger
    return .edit (.setItem key index (← nextData))
  | .removeItems => do
    let key ← nextText
    let count ← nextInteger
    return .edit (.removeItems key count (← nextData))
  | .popHead => do return .edit (.pop (← nextText) .head)
  | .popTail => do return .edit (.pop (← nextText) .tail)
  | .addMember => do
    let key ← nextText
    return .edit (.addMember key (← nextData))
  | .memberCount => do return .ask (.memberCount (← nextText))
  | .isMember => do
    let key ← nextText
    return .ask (.isMember key (← nextData))
  | .members => do return .ask (.members (← nextText))
  | .removeMember => do
    let key ← nextText
    return .edit (.removeMember key (← nextData))
  | .intersect => readCombine .intersection
  | .intersectInto => readCombineInto .intersection
  | .unite => readCombine .union
  | .uniteInto => readCombineInto .union
  | .subtract => readCombine .difference
  | .subtractInto => readCombineInto .difference
  | .popMember => do return .edit (.popMember (← nextText))
  | .moveMember => do
    let source ← nextText
    let target ← nextText
    return .edit (.moveMember source target (← nextData))
  | .select => do return .select (← nextText)
  | .ping => return .ping
  | .auth => do return .auth (← nextText)
  | .info => return .info
  | .save => return .save
  | .saveLater => return .saveLater
  | .lastSave => return .lastSave
  | .databaseSize => return .ask .size
  | .flush => return .edit .flush
  | .flushAll => return .edit .flushAll
  | .shutdown => return .shutdown
  | .quit => return .quit
  | .version => return .version
  | .attach => readAttach Verb.attach.name
  | .attachSubordinate => readAttach Verb.attachSubordinate.name
  | .replay => do return .replay (← nextData)
  | .replaceAll => do
    let version ← nextVersion
    return .replaceAll version (← nextData)

/-- The command that a verb with arguments is. -/
def ofArguments (v : Verb) (args : List Bytes) : Except CommandError Command :=
  (readArguments v).run' args

/-- The command that a request asks for. -/
def ofRequest (r : Request) : Except CommandError Command :=
  match Verb.ofName? r.name with
  | some v => ofArguments v r.args
  | none => .error (.unknownCommand r.name)

end Command

end ReplicatedStore
