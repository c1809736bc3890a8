import StreamQueue.Redis.Error

/-!
# Errors of a stream log

Why an operation of a stream log was refused. The wording of each is one
function, and `causes` lists the wordings of the errors below it.
-/

namespace StreamQueue

/-- Why a stream log refused an operation. -/
inductive LogError
  /-- There is no such stream. -/
  | streamNotFound (stream : String)
  /-- There is no such consumer group on the stream. -/
  | groupNotFound (stream group : String)
  /-- The consumer group is there already. -/
  | groupExists (stream group : String)
  /-- A text is no identifier of an entry. -/
  | invalidId (text : String)
  /-- The log cannot be reached. -/
  | connection (text : String)
  /-- A server or its client refused. -/
  | redis (error : Redis.Error)
  deriving DecidableEq, Repr

namespace LogError

/-- The wording of an error. -/
def message : LogError → String
  | streamNotFound stream => "Stream not found: " ++ stream
  | groupNotFound stream group => "Consumer group " ++ group ++ " not found on stream " ++ stream
  | groupExists stream group => "Consumer group " ++ group ++ " already exists on stream " ++ stream
  | invalidId text => "Invalid stream id: " ++ text
  | connection text => "Connection error: " ++ text
  | redis error => "Redis error: " ++ error.message

/-- The wordings of the errors that this one was caused by, nearest first. -/
def causes : LogError → List String
  | redis error => [error.message]
  | _ => []

/-- The wording of an error and of all its causes, as a person is shown it. -/
def chain (e : LogError) : String := ": ".intercalate (e.message :: e.causes)

/-- Whether the error says that the group is there already. -/
def isGroupExists : LogError → Bool
  | groupExists _ _ => true
  | redis error => error.extensionCode? == some "BUSYGROUP"
  | _ => false

end LogError

end StreamQueue
