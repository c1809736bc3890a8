import StreamQueue.CommandLine.Words
import StreamQueue.Config

/-!
# Invocations

What the program can be asked to do on its command line: to serve requests, to
consume, to publish, and to count what is pending. The path of the configuration may
be given before the command or behind it; behind it wins.

`Invocation.read` reads the words behind the program's name.
-/

namespace StreamQueue.Cli

open CommandLine

/-- What the program is asked to do. -/
inductive Command
  /-- Serve requests over HTTP. -/
  | serve (port : Nat) (inMemory withConsumer : Bool)
  /-- Run a consumer, with an identity or with one drawn for the run. -/
  | consume (identity : Option String)
  /-- Publish copies of a message. -/
  | publish (message : String) (count : Nat)
  /-- Print how much work the group has before it. -/
  | pending
  deriving DecidableEq, Repr

/-- A command and the configuration it is to run with. -/
structure Invocation where
  configPath : String
  command : Command
  deriving DecidableEq, Repr

/-! ### Grammars -/

def program : String := "workstream"

def versionText : String := "workstream-cli 0.1.0"

def configOpt : Opt :=
  ⟨"config", some 'c', .value "CONFIG_PATH" .path, "Path to the configuration file", none,
    some Config.fileName⟩

def helpOpt : Opt := ⟨"help", some 'h', .help, "Print help", none, none⟩

def versionOpt : Opt := ⟨"version", some 'V', .version versionText, "Print version", none, none⟩

def portOpt : Opt :=
  ⟨"port", none, .value "PORT" .port, "Port to run the server on", some "PORT", some "3000"⟩

def inMemoryOpt : Opt :=
  ⟨"in-memory", none, .switch, "Keep the stream in process instead of connecting to Redis", none,
    none⟩

def withConsumerOpt : Opt :=
  ⟨"with-consumer", none, .switch, "Run a consumer alongside the server", none, none⟩

def identityOpt : Opt :=
  ⟨"consumer-id", none, .value "CONSUMER_ID" .text,
    "Fixed consumer identity (a random one is generated when unset)", none, none⟩

def countOpt : Opt :=
  ⟨"count", none, .value "COUNT" .count, "Number of copies to publish", none, some "1"⟩

/-- A command with options and operands of its own. -/
def subgrammar (name about : String) (opts : List Opt) (operands : List Operand) :
    String × Grammar :=
  (name, ⟨program ++ " " ++ name, about, configOpt :: opts ++ [helpOpt], operands, []⟩)

/-- The commands. -/
def subgrammars : List (String × Grammar) :=
  [subgrammar "serve" "Start the HTTP surface, optionally with a consumer"
     [portOpt, inMemoryOpt, withConsumerOpt] [],
   subgrammar "consume" "Run a consumer until interrupted" [identityOpt] [],
   subgrammar "publish" "Publish a message" [countOpt] [⟨"MESSAGE", "Message payload", false⟩],
   subgrammar "pending" "Print the outstanding work of the consumer group" [] []]

/-- The command that shows help. It has none to offer itself. -/
def helpGrammar : Grammar :=
  ⟨program ++ " help", "Print this message or the help of the given subcommand(s)", [],
    [⟨"COMMAND", "Print help for the subcommand(s)", true⟩], []⟩

/-- The command line in front of a command. -/
def grammar : Grammar :=
  ⟨program, "Workstream - consumer-group work queue", [configOpt, helpOpt, versionOpt], [],
    (subgrammars ++ [("help", helpGrammar)]).map fun (name, g) => (name, g.about)⟩

/-! ### Reading -/

/-- How the words behind `help` end: with the help of a command, if they name one. -/
def showHelp (env : Environment) : List String → Ending
  | [] => .help (grammar.helpText env)
  | name :: rest =>
    let known := (subgrammars ++ [("help", helpGrammar)]).lookup name
    match known, rest with
    | none, _ => .refused ⟨.unknownCommand name, [], some grammar.usage, true⟩
    | some g, [] => .help (g.helpText env)
    | some g, word :: _ => .refused ⟨.unknownCommand word, [], some g.usage, name != "help"⟩

/-- The value of an option: what was given, or what stands for it. -/
def valueOf (m : Matched) (o : Opt) : String := ((m.value? o.long) <|> o.default).getD ""

/-- A number that was found good already. -/
def numberOf (r : Except String Nat) : Nat := r.toOption.getD 0

/-- What a command is asked to do. -/
def commandOf (name : String) (m : Matched) : Command :=
  match name with
  | "serve" =>
    .serve (numberOf (readPort (valueOf m portOpt))) (m.hasSwitch inMemoryOpt.long)
      (m.hasSwitch withConsumerOpt.long)
  | "consume" => .consume (m.value? identityOpt.long)
  | "publish" => .publish (m.operands.headD "") (numberOf (readCount (valueOf m countOpt)))
  | _ => .pending

/-- The path of the configuration, given behind the command or before it. -/
def configPathOf (before behind : Matched) : String :=
  ((behind.value? configOpt.long) <|> (before.value? configOpt.long)).getD Config.fileName

/-- Read the words behind a command. -/
def readCommand (env : Environment) (before : Matched) (name : String) (rest : List String) :
    Except Ending Invocation :=
  match subgrammars.lookup name with
  | none => .error (showHelp env rest)
  | some g => do
    let (m, _) ← readWords g env [] .start rest
    let m ← finish g env m
    let before ← settle grammar before
    return ⟨configPathOf before m, commandOf name m⟩

/-- Read the words behind the program's name. -/
def Invocation.read (env : Environment) (words : List String) : Except Ending Invocation := do
  let (m, command) ← readWords grammar env subgrammars .start words
  match command with
  | some (name, rest) => readCommand env m name rest
  | none => do
    let _ ← finish grammar env m
    .error (.idle (grammar.helpText env))

end StreamQueue.Cli
