import ReplicatedStore.Text.Decimal
import ReplicatedStore.Text.Split

/-!
# Addresses of nodes

An address is a host and a port after the last colon.
-/

namespace ReplicatedStore

/-- Where a node listens. -/
structure Address where
  /-- The host. -/
  host : String
  /-- The port. -/
  port : Nat
  deriving DecidableEq, Repr

namespace Address

/-- The host where none is named. -/
def defaultHost : String := "localhost"

/-- The port where none is named. -/
def defaultPort : Nat := 6379

/-- The host that is named, or the default one. -/
def hostOf (host : List Char) : String :=
  if host.isEmpty then defaultHost else String.ofList host

/-- The address that a text names; the port must be there. -/
def ofText? (text : String) : Option Address :=
  match Text.splitLast? ':' text.toList with
  | none => none
  | some (host, port) =>
    (Decimal.read? Decimal.unsigned16 (Bytes.ofText (String.ofList port))).map fun number =>
      ⟨hostOf host, number.toNat⟩

/-- The address as text. -/
def toText (a : Address) : String :=
  a.host ++ ":" ++ Decimal.ofNat a.port

/-- A listen address with the host and port that it leaves out.  A port that is there is not looked
at. -/
def complete (text : String) : String :=
  let (host, port) := (Text.splitLast? ':' text.toList).getD (text.toList, [])
  hostOf host ++ ":" ++ (if port.isEmpty then Decimal.ofNat defaultPort else String.ofList port)

end Address

end ReplicatedStore
