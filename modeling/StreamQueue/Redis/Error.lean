/-!
# Errors of a Redis server and its client

A server refuses a command with a line whose first word is a code. Thirteen codes
are known and have a kind of their own; any other code is an extension, shown
with its code. The client has errors of its own, for a reply that does not have
the form it asked for and for a connection that is lost.
-/

namespace StreamQueue.Redis

/-- The kinds of error that have a name. -/
inductive Error.Kind
  /-- The general refusal, code `ERR`. -/
  | response
  | execAbort
  | busyLoading
  | noScript
  | moved
  | ask
  | tryAgain
  | clusterDown
  | crossSlot
  | masterDown
  | readOnly
  | notBusy
  | noSub
  /-- A reply of another form than was asked for. -/
  | type
  /-- Settings that the client cannot use. -/
  | invalidClientConfig
  deriving DecidableEq, Repr

/-- The name of a kind in messages. -/
def Error.Kind.name : Kind → String
  | response => "ResponseError"
  | execAbort => "ExecAbortError"
  | busyLoading => "BusyLoadingError"
  | noScript => "NoScriptError"
  | moved => "Moved"
  | ask => "Ask"
  | tryAgain => "TryAgain"
  | clusterDown => "ClusterDown"
  | crossSlot => "CrossSlot"
  | masterDown => "MasterDown"
  | readOnly => "ReadOnly"
  | notBusy => "NotBusy"
  | noSub => "NoSub"
  | type => "TypeError"
  | invalidClientConfig => "InvalidClientConfig"

/-- The kind of a known code. -/
def Error.Kind.ofCode? : String → Option Kind
  | "ERR" => some response
  | "EXECABORT" => some execAbort
  | "LOADING" => some busyLoading
  | "NOSCRIPT" => some noScript
  | "MOVED" => some moved
  | "ASK" => some ask
  | "TRYAGAIN" => some tryAgain
  | "CLUSTERDOWN" => some clusterDown
  | "CROSSSLOT" => some crossSlot
  | "MASTERDOWN" => some masterDown
  | "READONLY" => some readOnly
  | "NOTBUSY" => some notBusy
  | "NOSUB" => some noSub
  | _ => none

/-- An error of a server or of the client. -/
inductive Error
  /-- An error of a named kind, with a description and perhaps a detail. -/
  | described (kind : Error.Kind) (description : String) (detail : Option String)
  /-- A refusal with a code that has no kind. -/
  | extension (code : String) (detail : Option String)
  /-- The connection was lost or the reply cannot be what a server sends. -/
  | transport (text : String)
  deriving DecidableEq, Repr

namespace Error

/-- The characters up to the first blank, and those after it if there is one. -/
def splitBlank : List Char → List Char × Option (List Char)
  | [] => ([], none)
  | ' ' :: cs => ([], some cs)
  | c :: cs => let (before, after) := splitBlank cs; (c :: before, after)

/-- The error of a line with which a server refuses a command. -/
def ofLine (line : String) : Error :=
  let (code, rest) := splitBlank line.toList
  let detail := rest.map String.ofList
  match Kind.ofCode? (String.ofList code) with
  | some kind => described kind "An error was signalled by the server" detail
  | none => extension (String.ofList code) detail

/-- A reply of another form than was asked for. -/
def wrongType (description : String) : Error := described .type description none

/-- The code that tells the refusals of an extension apart. -/
def extensionCode? : Error → Option String
  | extension code _ => some code
  | _ => none

/-- The wording of an error. -/
def message : Error → String
  | described kind description none => description ++ "- " ++ kind.name
  | described kind description (some detail) => description ++ " - " ++ kind.name ++ ": " ++ detail
  | extension code detail => code ++ ": " ++ detail.getD "Unknown extension error encountered"
  | transport text => text

end Error

end StreamQueue.Redis
