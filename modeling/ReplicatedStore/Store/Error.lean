import ReplicatedStore.Encoding.FormatError

/-!
# Faults of store operations
-/

namespace ReplicatedStore

/-- Why SORT cannot put the items in order. -/
inductive SortFault where
  /-- The key that holds the weight of an item is missing or not a string. -/
  | missingWeight (key : String)
  /-- The weight of an item is not a number. -/
  | notNumber (weight : Bytes)
  deriving DecidableEq, Repr

/-- Why an operation on a store is refused. -/
inductive StoreError where
  /-- The key does not exist. -/
  | noSuchKey
  /-- The key holds a value of another type. -/
  | wrongType
  /-- The key to be renamed does not exist. -/
  | missing (key : String)
  /-- The key to be moved does not exist in its database. -/
  | notKnown (key db : String)
  /-- The key to be moved exists in the other database already. -/
  | alreadyExists (key db : String)
  /-- A key is to be renamed to its own name. -/
  | sameName
  /-- A sum is out of range. -/
  | notAnInteger
  /-- A list has no item at the index. -/
  | indexOutOfRange
  /-- A change does not follow the current version. -/
  | versionMismatch (expected actual : Nat)
  /-- A regular expression cannot be read. -/
  | invalidPattern (pattern : String)
  /-- The items cannot be sorted. -/
  | sort (fault : SortFault)
  /-- A snapshot cannot be read. -/
  | snapshot (fault : FormatError)
  deriving DecidableEq, Repr

/-- What is said about the fault. -/
def SortFault.message : SortFault → String
  | .missingWeight key => "sort aborted because of missing key '" ++ key ++ "'"
  | .notNumber weight => "sort value '" ++ weight.lossyText ++ "' is not a number"

/-- What is said about the fault. -/
def StoreError.message : StoreError → String
  | .noSuchKey => "no such key"
  | .wrongType => "Operation against a key holding the wrong kind of value"
  | .missing key => key ++ " doesn't exist"
  | .notKnown key db => key ++ " not known in " ++ db
  | .alreadyExists key db => key ++ " already known in " ++ db
  | .sameName => "same names"
  | .notAnInteger => "value is not an integer or out of range"
  | .indexOutOfRange => "index out of range"
  | .versionMismatch _ _ => "version mismatch"
  | .invalidPattern pattern => "invalid pattern [" ++ pattern ++ "]"
  | .sort fault => fault.message
  | .snapshot fault => "invalid snapshot [" ++ fault.message ++ "]"

end ReplicatedStore
