import ReplicatedStore.Address
import ReplicatedStore.Directory
import ReplicatedStore.Toml

/-!
# Configuration of a node

A configuration file in TOML may give the secret that clients must show and the number of changes
after which the store is saved:

    [security]
    auth = "secret"

    [general]
    update_count = 10

All else of a node's configuration comes with the command that starts it.
-/

namespace ReplicatedStore

/-- What the configuration file says. -/
structure Settings where
  /-- The secret that clients must show; an empty one asks for none. -/
  secret : Option String
  /-- The number of changes after which the store is saved. -/
  updateCount : Nat
  deriving DecidableEq, Repr

/-- The number of changes after which a store is saved, unless something else is configured. -/
def defaultUpdateCount : Nat := 10

/-- Why a configuration file cannot be used. -/
inductive SettingsError where
  /-- The file cannot be read. -/
  | unreadable (fault : FileError)
  /-- The file is no TOML, or a setting is of the wrong kind. -/
  | malformed
  deriving DecidableEq, Repr

/-- What is said about the fault. -/
def SettingsError.message : SettingsError → String
  | .unreadable fault => "cannot read config file: " ++ fault.message
  | .malformed => "invalid config file"

namespace Settings

/-- What a file says that says nothing. -/
def default : Settings := ⟨none, defaultUpdateCount⟩

/-- The value of the only setting of a section, if the section gives one.  A section is a table,
where settings have names, or an array, where they have places; a moment serves as one without
settings. -/
def only (name : String) : Toml.Value → Except SettingsError (Option Toml.Value)
  | .table _ entries => .ok (Toml.Table.get? entries name)
  | .tables last others => .ok (some (.table .header (others.getLastD last)))
  | .array items => .ok items.head?
  | .moment _ => .ok none
  | _ => .error .malformed

/-- The value of the only setting of a section of the table, which need not be there. -/
def setting (t : Toml.Table) (part name : String) : Except SettingsError (Option Toml.Value) :=
  match t.get? part with
  | some value => only name value
  | none => .ok none

/-- The settings that a table gives. -/
def ofTable (t : Toml.Table) : Except SettingsError Settings := do
  let secret ← match ← setting t "security" "auth" with
    | none => .ok none
    | some (.text secret) => .ok (some secret)
    | some _ => .error .malformed
  let updateCount ← match ← setting t "general" "update_count" with
    | none => .ok defaultUpdateCount
    | some (.integer (.ofNat count)) => .ok count
    | some _ => .error .malformed
  return ⟨secret, updateCount⟩

/-- The settings of a configuration file, which need not be there. -/
def load (directory : Directory) (path : String) : Except SettingsError Settings :=
  match directory.readText path with
  | .ok text =>
    match Toml.parse? text with
    | some t => ofTable t
    | none => .error .malformed
  | .error .notFound => .ok default
  | .error .notDirectory => .ok default
  | .error fault => .error (.unreadable fault)

end Settings

/-- The configuration of a node. -/
structure Config where
  /-- The host and port to listen on. -/
  listen : String
  /-- The path of the seed file, which is read when there is no snapshot file. -/
  seedFile : String
  /-- The path of the snapshot file. -/
  snapshotFile : String
  /-- Does the node accept changes from clients? -/
  authority : Bool
  /-- The secret that clients must show. -/
  secret : Option String
  /-- The number of changes after which the store is saved. -/
  updateCount : Nat
  /-- The most octets that may wait for a request to be complete. -/
  maxRequestSize : Nat
  deriving DecidableEq, Repr

namespace Config

/-- The configuration of a node that nothing is said about. -/
def default : Config where
  listen := Address.complete ""
  seedFile := "MDB.TXT"
  snapshotFile := "dump.db"
  authority := false
  secret := none
  updateCount := defaultUpdateCount
  maxRequestSize := 512 * 1024 * 1024

/-- The configuration with what the configuration file says. -/
def withSettings (c : Config) (settings : Settings) : Config :=
  { c with
    secret := settings.secret.filter (!·.isEmpty)
    updateCount := max settings.updateCount 1 }

/-- Does the password let a client in?  Any password does where no secret is asked for. -/
def accepts (c : Config) (password : String) : Bool :=
  match c.secret with
  | none => true
  | some secret => secret == password

end Config

end ReplicatedStore
