import StreamQueue.Environment
import StreamQueue.File
import StreamQueue.Text.Blank
import StreamQueue.Text.Decimal
import StreamQueue.Text.Quoted
import StreamQueue.Url
import StreamQueue.Yaml.Decode

/-!
# Configuration

What a command needs to know: the server, the stream and the group, how many entries
are kept, and how much work a message is. It comes from a file; variables of the
environment override single settings.

## What is defined

* `Config.ofYaml` reads the text of a file, and `Config.load` a file.
* `Config.overlay` overrides settings from an environment.
* `Config.validate` says what a command cannot do without.
-/

namespace StreamQueue

/-- The configuration of a command. -/
structure Config where
  /-- The address of the server. -/
  dsn : String
  /-- How many entries of the stream are kept. -/
  maxLen : Nat
  stream : String
  group : String
  /-- The bytes of work for a message, if positive. -/
  workSize : Int
  deriving DecidableEq, Repr, Inhabited

namespace Config

/-- The configuration in which nothing is set. -/
def empty : Config := ⟨"", 0, "", "", 0⟩

/-- The bytes of work for a message when nothing else is said. -/
def defaultWorkSize : Int := 1024 * 1024 * 1024

/-- The bytes of work for a message. -/
def effectiveWorkSize (c : Config) : Int := if 0 < c.workSize then c.workSize else defaultWorkSize

/-- The name of the file when nothing else is said. -/
def fileName : String := "workstream.yaml"

/-! ### Files -/

/-- The settings under `redis` in a file. -/
def redisRecord (c : Config) : Yaml.Decoder Config :=
  Yaml.Decoder.record "struct RedisConfig"
    [Yaml.Decoder.field "dsn" Yaml.Decoder.text fun s c => { c with dsn := s },
     Yaml.Decoder.field "maxstreamlength" Yaml.Decoder.word64 fun n c => { c with maxLen := n },
     Yaml.Decoder.field "streamname" Yaml.Decoder.text fun s c => { c with stream := s },
     Yaml.Decoder.field "streamgroup" Yaml.Decoder.text fun s c => { c with group := s }] c

/-- The settings under `producer` in a file. -/
def producerRecord (c : Config) : Yaml.Decoder Config :=
  Yaml.Decoder.record "struct ProducerConfig"
    [Yaml.Decoder.field "data_size_bytes" Yaml.Decoder.int64 fun n c => { c with workSize := n }] c

/-- The settings of a file. -/
def record : Yaml.Decoder Config :=
  Yaml.Decoder.record "struct Config" [("redis", redisRecord), ("producer", producerRecord)] empty

/-- Read the text of a file. -/
def ofYaml (s : String) : Except Yaml.DecodeError Config := record.ofText s

/-- Why there is no configuration. -/
inductive LoadError
  | fileNotFound (path : String)
  | unreadable (path reason : String)
  | malformed (path : String) (error : Yaml.DecodeError)
  /-- A variable of the environment that is no number. -/
  | invalidVariable (name value : String)
  deriving DecidableEq, Repr

/-- The wording of an error. -/
def LoadError.message : LoadError → String
  | fileNotFound path => path ++ " not found"
  | unreadable path reason => "Failed to read " ++ path ++ ": " ++ reason
  | malformed path error => "Failed to parse " ++ path ++ ": " ++ error.message
  | invalidVariable name value => "Invalid value for " ++ name ++ ": " ++ Text.quoted value

/-- Read what was found at a path. -/
def load (path : String) : File → Except LoadError Config
  | .absent | .obstructed => .error (.fileNotFound path)
  | .unreadable reason => .error (.unreadable path reason)
  | .text content => (ofYaml content).mapError (.malformed path)

/-! ### Environments -/

/-- A setting that a variable overrides. -/
structure Override where
  name : String
  /-- The configuration with the setting at a value, if the value can be read. -/
  put? : String → Config → Option Config

/-- A setting that is text. -/
def textOverride (name : String) (put : String → Config → Config) : Override :=
  ⟨name, fun s c => some (put s c)⟩

/-- A setting that is a number, which may be surrounded by blanks. -/
def numberOverride {α : Type} (name : String) (read : String → Option α)
    (put : α → Config → Config) : Override :=
  ⟨name, fun s c => (read (Text.trim s)).map fun n => put n c⟩

/-- The settings that variables override, in the order in which that is done. -/
def overrides : List Override :=
  [textOverride "REDIS_DSN" fun s c => { c with dsn := s },
   numberOverride "REDIS_MAXSTREAMLENGTH" Text.Decimal.word64? fun n c => { c with maxLen := n },
   textOverride "REDIS_STREAMNAME" fun s c => { c with stream := s },
   textOverride "REDIS_STREAMGROUP" fun s c => { c with group := s },
   numberOverride "PRODUCER_DATA_SIZE_BYTES" Text.Decimal.int64? fun n c => { c with workSize := n }]

/-- Override settings in order up to the first whose variable cannot be read. -/
def applyOverrides (env : Environment) : List Override → Config → Config × Except LoadError Unit
  | [], c => (c, .ok ())
  | o :: os, c =>
    match env o.name with
    | none => applyOverrides env os c
    | some s =>
      match o.put? s c with
      | some c => applyOverrides env os c
      | none => (c, .error (.invalidVariable o.name s))

/-- Override settings from an environment. The settings in front of a variable that
cannot be read stay overridden. -/
def overlay (env : Environment) (c : Config) : Config × Except LoadError Unit :=
  applyOverrides env overrides c

/-! ### What cannot be missing -/

/-- What is wrong with a configuration. -/
inductive Flaw
  | missingDsn
  | invalidDsn (dsn : String)
  | missingMaxLen
  | missingStream
  | missingGroup
  deriving DecidableEq, Repr

/-- The wording of a flaw. -/
def Flaw.message : Flaw → String
  | missingDsn => "redis dsn is not set (REDIS_DSN)"
  | invalidDsn dsn => "redis dsn " ++ Text.quoted dsn ++ " is not a valid url"
  | missingMaxLen => "max stream length must be greater than 0 (REDIS_MAXSTREAMLENGTH)"
  | missingStream => "stream name is not set (REDIS_STREAMNAME)"
  | missingGroup => "stream group is not set (REDIS_STREAMGROUP)"

/-- What is wrong with the address of the server. -/
def checkDsn (c : Config) : Except Flaw Unit :=
  if c.dsn.isEmpty then .error .missingDsn
  else if Url.isValid c.dsn then .ok ()
  else .error (.invalidDsn c.dsn)

/-- The first flaw of a configuration. A queue in memory needs no server. -/
def validate (c : Config) (inMemory : Bool) : Except Flaw Unit := do
  if !inMemory then checkDsn c
  if c.maxLen == 0 then .error .missingMaxLen
  if c.stream.isEmpty then .error .missingStream
  if c.group.isEmpty then .error .missingGroup

end Config

end StreamQueue
