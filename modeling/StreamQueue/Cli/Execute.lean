import StreamQueue.Cli.Error
import StreamQueue.Cli.Invocation
import StreamQueue.Cli.Startup
import StreamQueue.Consumer.Run
import StreamQueue.Http.App
import StreamQueue.Publisher
import StreamQueue.Redis.Address

/-!
# Commands

What each command does. A command is written against a `Host`, which shows text, finds
files, reaches the log, and runs consumers and servers; the host decides nothing else.

`execute` carries out a command, and `run` all there is to a run of the program, from
the words of its command line to the code with which it ends.
-/

namespace StreamQueue.Cli

/-- What the place provides that the program runs in. -/
structure Host (m : Type → Type) where
  /-- Show text as output. -/
  print : String → m Unit
  /-- Show text as a notice or an error. -/
  warn : String → m Unit
  /-- Look at what is found at a path. -/
  look : String → m File
  /-- Keep a log in memory. -/
  openMemory : m Unit
  /-- Reach the log on a server. -/
  connect : Redis.Address → m (Except LogError Unit)
  /-- Do a job on the log. -/
  perform : {α : Type} → Job α → m α
  /-- Run a consumer to its end; it is cancelled when the person interrupts. -/
  consume : ConsumerConfig → m QueueError
  /-- Serve requests at a port until the person interrupts, with a consumer beside it or
  without one. If the port cannot be had, that is why. -/
  serve : Nat → App → Option ConsumerConfig → m (Except String Unit)

/-- A command that runs in a place and may fail. -/
abbrev Act (m : Type → Type) (α : Type) := ExceptT CommandError m α

section Commands

variable {m : Type → Type} [Monad m] (h : Host m)

/-- Show lines as output. -/
def printLines (lines : List String) : Act m Unit :=
  ExceptT.lift (lines.forM fun l => h.print (l ++ "\n"))

/-- Show lines as notices. -/
def warnLines (lines : List String) : m Unit := lines.forM fun l => h.warn (l ++ "\n")

/-- Fail with the error of a result, if it is one. -/
def orFail {ε α : Type} (f : ε → CommandError) (r : Except ε α) : Act m α :=
  ExceptT.mk (pure (r.mapError f))

/-- Do something, and fail with the error it comes to, if it does. -/
def attempt {ε α : Type} (f : ε → CommandError) (x : m (Except ε α)) : Act m α :=
  ExceptT.mk ((·.mapError f) <$> x)

/-- The usual publisher for a configuration. -/
def publisherOf (c : Config) : PublisherConfig :=
  { Publisher.config c.stream with maxLen := c.maxLen }

/-- The usual consumer for a configuration. -/
def consumerOf (c : Config) : ConsumerConfig :=
  { Consumer.config c.stream c.group with size := c.effectiveWorkSize }

/-- Reach the log on the server of a configuration, and see that the server answers. -/
def openServer (c : Config) : Act m Unit := do
  let address ← orFail (fun e => .log (.connection e.message)) (Redis.Address.ofText c.dsn)
  attempt .log (h.connect address)
  attempt .log (h.perform (Job.ask .ping))

/-- Open the log that a command works on. -/
def openLog (c : Config) (inMemory : Bool) : Act m Unit := do
  orFail .flaw (c.validate inMemory)
  if inMemory then ExceptT.lift h.openMemory else openServer h c

/-- Create the group. -/
def createGroup (cfg : ConsumerConfig) : Act m Unit :=
  attempt .group (h.perform (Consumer.initGroup cfg))

/-- What a person is shown before a consumer runs. -/
def consumerBanner (cfg : ConsumerConfig) : List String :=
  ["", "Workstream consumer", "Stream " ++ cfg.stream, "Group " ++ cfg.group,
   "Work " ++ toString cfg.size ++ " bytes", "Press Ctrl+C to stop", ""]

/-- What a person is shown before requests are served. -/
def serverBanner (c : Config) (port : Nat) (inMemory : Bool) : List String :=
  let site := "http://localhost:" ++ toString port
  ["", "Workstream", "Transport " ++ (if inMemory then "memory" else "redis"),
   "Stream " ++ c.stream, "Group " ++ c.group, "Port " ++ toString port, "", "Endpoints",
   "  GET  " ++ site ++ "/", "  GET  " ++ site ++ "/liveness", "  GET  " ++ site ++ "/readiness",
   "  POST " ++ site ++ "/publish-time?count=1", ""]

/-- Serve requests. -/
def serve (c : Config) (port : Nat) (inMemory withConsumer : Bool) : Act m Unit := do
  openLog h c inMemory
  let consumer := consumerOf c
  createGroup h consumer
  printLines h (serverBanner c port inMemory)
  let app : App := ⟨publisherOf c, c.group, Health.initial⟩
  attempt .server (h.serve port app (if withConsumer then some consumer else none))

/-- Run a consumer until it fails or is interrupted. -/
def consume (c : Config) (identity : Option String) : Act m Unit := do
  openLog h c false
  let cfg := { consumerOf c with identity }
  printLines h (consumerBanner cfg)
  createGroup h cfg
  match ← ExceptT.lift (h.consume cfg) with
  | .cancelled => return ()
  | e => throw (.queue e)

/-- Publish copies of a message, at least one. Nothing is shown unless all of them were
published. -/
def publish (c : Config) (message : String) (count : Nat) : Act m Unit := do
  openLog h c false
  let job := Publisher.publishCopies (publisherOf c) message 0 (max count 1)
  let ids ← attempt .queue (h.perform job)
  printLines h (ids.map fun id => "✓ " ++ id.text)

/-- Show how much work the group has before it. -/
def pending (c : Config) : Act m Unit := do
  openLog h c false
  let n ← attempt .queue (h.perform (Publisher.backlog (publisherOf c) c.group))
  printLines h [toString n]

/-- Carry out a command. -/
def execute (c : Config) : Command → Act m Unit
  | .serve port inMemory withConsumer => serve h c port inMemory withConsumer
  | .consume identity => consume h c identity
  | .publish message count => publish h c message count
  | .pending => pending h c

/-! ### The whole program -/

/-- Start up, and tell the person which files were used. -/
def startUp (env : Environment) (configPath : String) :
    m (Except Config.LoadError Config) := do
  let envFile ← h.look (envFilePath configPath)
  let configFile ← h.look configPath
  let s := Startup.begin env configPath envFile configFile
  warnLines h s.notices
  return s.config

/-- Tell the person of an error that ends the program; the code with which it ends. -/
def giveUp (message : String) : m Nat := do
  warnLines h ["Error: " ++ message]
  return 1

/-- Run the program on the words behind its name; the code with which it ends. -/
def run (env : Environment) (words : List String) : m Nat := do
  match Invocation.read env words with
  | .error ending =>
    if ending.isError then h.warn ending.text else h.print ending.text
    return ending.exitCode
  | .ok invocation =>
    match ← startUp h env invocation.configPath with
    | .error e => giveUp h e.message
    | .ok c =>
      match ← (execute h c invocation.command).run with
      | .error e => giveUp h e.message
      | .ok () => return 0

end Commands

end StreamQueue.Cli
