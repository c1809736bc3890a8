import StreamQueue.Config
import StreamQueue.Queue.Error

/-!
# Errors of commands

Why a command has failed. A person is shown the wording together with the wordings of
all causes.
-/

namespace StreamQueue.Cli

/-- Why a command has failed. -/
inductive CommandError
  /-- The configuration is not enough. -/
  | flaw (f : Config.Flaw)
  /-- The log cannot be opened. -/
  | log (e : LogError)
  /-- The group cannot be created. -/
  | group (e : QueueError)
  | queue (e : QueueError)
  /-- No requests can be served, and why. -/
  | server (reason : String)
  deriving DecidableEq, Repr

/-- The wording of an error and its causes. -/
def CommandError.message : CommandError → String
  | flaw f => f.message
  | log e => e.chain
  | group e => "Failed to initialize the consumer group: " ++ e.chain
  | queue e => e.chain
  | server reason => "Server failed: " ++ reason

end StreamQueue.Cli
