import ReplicatedStore.Node.Basic

/-!
# How a node is

INFO answers lines of a field and its value.
-/

namespace ReplicatedStore.Node

variable [Clock]

/-- The release that nodes tell. -/
def release : String := "0.1.0"

/-- How many seconds the node has been running. -/
def uptime (n : Node) (around : Surroundings) : Nat :=
  Clock.wholeMillis (around.now - n.startedAt) / 1000

/-- The seconds of a day. -/
def secondsPerDay : Nat := 24 * 60 * 60

/-- The fields of INFO with their values. -/
def infoFields (n : Node) (around : Surroundings) : List (String × String) :=
  [("version", release),
    ("connected_clients", Decimal.ofNat n.openConnections),
    ("connected_slaves", Decimal.ofNat n.links.length),
    ("used_memory", Decimal.ofNat n.store.usedMemory),
    ("changes_since_last_save", Decimal.ofNat n.store.changesSinceSave),
    ("last_save_time", Decimal.ofNat n.store.lastSave),
    ("total_connections_received", Decimal.ofNat n.totalConnections),
    ("total_commands_processed", Decimal.ofNat n.store.operations),
    ("uptime_in_seconds", Decimal.ofNat (n.uptime around)),
    ("uptime_in_days", Decimal.ofNat (n.uptime around / secondsPerDay)),
    ("bgsave_in_progress", if n.isSaving then "1" else "0"),
    ("role", if n.config.authority then "master" else "slave")]

/-- The lines of INFO. -/
def info (n : Node) (around : Surroundings) : String :=
  "\r\n".intercalate ((n.infoFields around).map fun (field, value) => field ++ ":" ++ value)

end ReplicatedStore.Node
