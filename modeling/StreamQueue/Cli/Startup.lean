import StreamQueue.Config
import StreamQueue.EnvFile

/-!
# Startup

What happens between the reading of the command line and the command: variables are
set from a file beside the configuration, the configuration is read, and variables
override its settings. A person is told which files were used.

A configuration that is not there is no error, since variables may say everything.
-/

namespace StreamQueue.Cli

/-- The path of the file of variables beside a configuration. -/
def envFilePath (configPath : String) : String :=
  Path.join ((Path.parent? configPath).getD ".") EnvFile.fileName

/-- What a person is told, and the configuration to run with. -/
structure Startup where
  notices : List String
  config : Except Config.LoadError Config

namespace Startup

/-- What a person is told of the file of variables. -/
def envNotices (path : String) : EnvFile.Loaded → List String
  | .absent => []
  | .whole => ["✓ Loaded environment from " ++ path]
  | .broken reason => ["Warning: Failed to load .env file at " ++ path ++ ": " ++ reason]

/-- Override settings from an environment, all or none. -/
def override (env : Environment) (c : Config) : Except Config.LoadError Config :=
  match c.overlay env with
  | (c, .ok ()) => .ok c
  | (_, .error e) => .error e

/-- Read the configuration that was found at a path. -/
def readConfig (env : Environment) (path : String) (f : File) : Startup :=
  match Config.load path f with
  | .ok c => ⟨["✓ Loaded configuration from " ++ path], override env c⟩
  | .error (.fileNotFound _) => ⟨[], override env .empty⟩
  | .error e => ⟨[], .error e⟩

/-- Start up with what was found at the path of the configuration and beside it. -/
def begin (env : Environment) (configPath : String) (envFile configFile : File) : Startup :=
  let (env, loaded) := EnvFile.load env envFile
  let s := readConfig env configPath configFile
  { s with notices := envNotices (envFilePath configPath) loaded ++ s.notices }

end Startup

end StreamQueue.Cli
