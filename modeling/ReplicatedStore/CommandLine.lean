import ReplicatedStore.Config
import ReplicatedStore.Text.Split

/-!
# Command lines

What the words of a command line say about the node to start.  A switch is written in full after two
dashes, with its value behind an equals sign or in the next word, or by its letter after one dash,
with its value in the same word or the next.  Letters of switches that have no value may share a
word.  The last of several values counts, and what the command line leaves out, the environment may
say.
-/

namespace ReplicatedStore

/-- What a command line says. -/
structure CommandLine where
  /-- The host and port to listen on; either may be left out. -/
  listen : String
  /-- The path of the seed file. -/
  seedFile : String
  /-- The path of the snapshot file. -/
  snapshotFile : String
  /-- The path of the configuration file. -/
  settingsFile : String
  /-- Does the node accept changes from clients? -/
  authority : Bool
  /-- Is every reply shown? -/
  debug : Bool
  /-- Is only told what may be said? -/
  help : Bool
  /-- Is only told which release this is? -/
  version : Bool
  deriving DecidableEq, Repr

namespace CommandLine

/-- Why a command line is not understood. -/
inductive Fault where
  /-- The word is no switch. -/
  | unknown (word : String)
  /-- The switch needs a value. -/
  | noValue (name : String)
  /-- The switch has no value. -/
  | needlessValue (name : String)
  deriving DecidableEq, Repr

/-- What is said about the fault. -/
def Fault.message : Fault → String
  | .unknown word => "unexpected argument '" ++ word ++ "'"
  | .noValue name => "a value is required for '--" ++ name ++ "'"
  | .needlessValue name => "no value is taken for '--" ++ name ++ "'"

/-! ## Switches -/

/-- What may be said. -/
inductive Switch where
  | listen | seedFile | snapshotFile | settingsFile | authority | debug | help | version
  deriving DecidableEq, Repr

namespace Switch

/-- All switches. -/
def all : List Switch :=
  [.listen, .seedFile, .snapshotFile, .settingsFile, .authority, .debug, .help, .version]

/-- The name of the switch. -/
def name : Switch → String
  | .listen => "listen"
  | .seedFile => "init-file"
  | .snapshotFile => "dump-file"
  | .settingsFile => "config"
  | .authority => "master"
  | .debug => "debug"
  | .help => "help"
  | .version => "version"

/-- The letter of the switch. -/
def letter? : Switch → Option Char
  | .listen => some 'l'
  | .seedFile => some 'i'
  | .snapshotFile => some 'd'
  | .settingsFile => some 'c'
  | .authority => some 'm'
  | .debug => none
  | .help => some 'h'
  | .version => some 'V'

/-- The variable of the environment that gives the switch a value. -/
def fromEnvironment? : Switch → Option String
  | .listen => some "REPLICATED_STORE_LISTEN"
  | .seedFile => some "REPLICATED_STORE_INIT_FILE"
  | .snapshotFile => some "REPLICATED_STORE_DUMP_FILE"
  | .settingsFile => some "REPLICATED_STORE_CONFIG"
  | _ => none

/-- Does the switch have a value? -/
def hasValue (s : Switch) : Bool :=
  s.fromEnvironment?.isSome

/-- What the switch is for. -/
def purpose : Switch → String
  | .listen => "Address to listen on, as host:port. Either part may be left empty"
  | .seedFile => "Seed file, read when there is no snapshot file"
  | .snapshotFile => "Snapshot file"
  | .settingsFile => "Configuration file with the secret and the number of changes to save after"
  | .authority => "Accept writes from clients"
  | .debug => "Show every reply"
  | .help => "Show this help"
  | .version => "Show the release"

end Switch

/-- The command line with what the switch says. -/
def apply (c : CommandLine) (value : String) : Switch → CommandLine
  | .listen => { c with listen := value }
  | .seedFile => { c with seedFile := value }
  | .snapshotFile => { c with snapshotFile := value }
  | .settingsFile => { c with settingsFile := value }
  | .authority => { c with authority := true }
  | .debug => { c with debug := true }
  | .help => { c with help := true }
  | .version => { c with version := true }

/-- The command line that says nothing. -/
def empty : CommandLine where
  listen := "127.0.0.1:6379"
  seedFile := Config.default.seedFile
  snapshotFile := Config.default.snapshotFile
  settingsFile := ".replicated-store.toml"
  authority := false
  debug := false
  help := false
  version := false

/-- What the environment says. -/
def ofEnvironment (environment : String → Option String) : CommandLine :=
  Switch.all.foldl (fun c s =>
    match s.fromEnvironment?.bind environment with
    | some value => c.apply value s
    | none => c) empty

/-! ## Words -/

/-- What one word says: switches without a value, and then perhaps one with a value, which may stand
in the word already. -/
structure Word where
  /-- The switches without a value. -/
  plain : List Switch
  /-- The switch with a value, and that value. -/
  valued : Option (Switch × Option String)

/-- What a word says that names a switch in full. -/
def Word.ofName (word : String) (cs : List Char) : Except Fault Word :=
  let (name, value) := match Text.splitFirst? (· == '=') cs with
    | some (name, value) => (name, some (String.ofList value))
    | none => (cs, none)
  match Switch.all.find? fun s => s.name.toList = name, value with
  | none, _ => .error (.unknown word)
  | some s, value =>
    if s.hasValue then .ok ⟨[], some (s, value)⟩
    else if value.isSome then .error (.needlessValue s.name)
    else .ok ⟨[s], none⟩

/-- The value behind the letter of a switch, if it stands in the same word. -/
def valueBehind : List Char → Option String
  | [] => none
  | '=' :: cs => some (String.ofList cs)
  | cs => some (String.ofList cs)

/-- What a word says that names switches by their letters. -/
def Word.ofLetters (word : String) : List Char → Except Fault Word
  | [] => .ok ⟨[], none⟩
  | c :: rest =>
    match Switch.all.find? fun s => s.letter? = some c with
    | none => .error (.unknown word)
    | some s =>
      if s.hasValue then .ok ⟨[], some (s, valueBehind rest)⟩
      else do
        let others ← Word.ofLetters word rest
        return { others with plain := s :: others.plain }

/-- What a word says. -/
def Word.of (word : String) : Except Fault Word :=
  match word.toList with
  | '-' :: '-' :: name => Word.ofName word name
  | '-' :: c :: letters => Word.ofLetters word (c :: letters)
  | _ => .error (.unknown word)

/-- Reads the words of a command line over what was known before. -/
def readWords : CommandLine → List String → Except Fault CommandLine
  | c, [] => .ok c
  | c, word :: rest => do
    let said ← Word.of word
    let c := said.plain.foldl (fun c s => c.apply "" s) c
    match said.valued, rest with
    | none, rest => readWords c rest
    | some (s, some value), rest => readWords (c.apply value s) rest
    | some (s, none), [] => .error (.noValue s.name)
    | some (s, none), value :: rest => readWords (c.apply value s) rest
termination_by _ words => words.length

/-- What a command line says in an environment. -/
def read (environment : String → Option String) (words : List String) : Except Fault CommandLine :=
  readWords (ofEnvironment environment) words

/-! ## What it means -/

/-- The configuration of the node to start. -/
def config (c : CommandLine) (settings : Settings) : Config :=
  { Config.default with
    listen := Address.complete c.listen
    seedFile := c.seedFile
    snapshotFile := c.snapshotFile
    authority := c.authority }.withSettings settings

/-- A line of the help for a switch. -/
def usageOf (s : Switch) : String :=
  let letter := match s.letter? with
    | some c => "  -" ++ String.singleton c ++ ", --"
    | none => "      --"
  letter ++ s.name ++ (if s.hasValue then " <VALUE>" else "") ++ "\n          " ++ s.purpose ++ "\n"

/-- What may be said on a command line. -/
def usage : String :=
  "Options:\n" ++ String.join (Switch.all.map usageOf)

end CommandLine

end ReplicatedStore
