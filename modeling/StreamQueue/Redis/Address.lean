import StreamQueue.Redis.Error
import StreamQueue.Text.Decimal
import StreamQueue.Url

/-!
# Addresses of Redis servers

Where a server is reached: over the network at a host, or through a socket in the
file system. The number of the database stands in the path of the one and in the
query of the other. Connections with transport security are not offered.
-/

namespace StreamQueue.Redis

/-- Where a server is reached. -/
inductive Place
  | network (host : Url.Host) (port : Nat)
  | socket (path : String)
  deriving DecidableEq, Repr

/-- The address of a server. -/
structure Address where
  place : Place
  database : Int
  deriving DecidableEq, Repr

namespace Address

/-- Settings that cannot be used. -/
def refusal (description : String) (detail : Option String) : Error :=
  .described .invalidClientConfig description detail

def refuse {α : Type} (description : String) : Except Error α :=
  .error (refusal description none)

/-- The port of a server when none is given. -/
def defaultPort : Nat := 6379

/-- The last value of a name in a query. -/
def queryValue? (u : Url) (name : String) : Option String :=
  ((Text.Percent.formFields (u.query.getD "")).reverse.find? fun f => f.1 == name).map (·.2)

/-- The version of the protocol has to be one of two, if it is given. -/
def checkProtocol (u : Url) : Except Error Unit :=
  match queryValue? u "protocol" with
  | none => .ok ()
  | some p =>
    if ["2", "resp2", "3", "resp3"].contains p then .ok ()
    else .error (refusal "Invalid protocol version" (some p))

/-- Whether what an encoded text stands for is a text. -/
def decodes (s : String) : Bool :=
  (Text.Utf8.decode? (Text.Percent.decode (Text.Utf8.encode s))).isSome

/-- Text without the slashes at either end. -/
def trimSlashes (s : String) : String :=
  String.ofList (((s.toList.dropWhile (· == '/')).reverse.dropWhile (· == '/')).reverse)

def databaseNumber (s : String) : Except Error Int :=
  match Text.Decimal.int64? s with
  | some n => .ok n
  | none => refuse "Invalid database number"

/-- The address of a server on the network. -/
def ofNetwork (u : Url) : Except Error Address := do
  let some host := u.host | refuse "Missing hostname"
  if u.scheme == "rediss" || u.scheme == "valkeys" then
    refuse "can't connect with TLS, the feature is not enabled"
  let path := trimSlashes u.path
  let database ← if path.isEmpty then pure 0 else databaseNumber path
  if !decodes u.username then refuse "Username is not valid UTF-8 string"
  if !(u.password.all decodes) then refuse "Password is not valid UTF-8 string"
  checkProtocol u
  return ⟨.network host (u.port.getD defaultPort), database⟩

/-- The address of a server behind a socket. -/
def ofSocket (u : Url) : Except Error Address := do
  if !(u.path.startsWith "/" && u.host.all (· == .name "localhost")) then refuse "Missing path"
  let database ← match queryValue? u "db" with
    | some s => databaseNumber s
    | none => pure 0
  checkProtocol u
  return ⟨.socket u.path, database⟩

/-- Read the address of a server. -/
def ofText (s : String) : Except Error Address :=
  match Url.ofText? s with
  | none => refuse "Redis URL did not parse"
  | some u =>
    match u.scheme with
    | "redis" | "rediss" | "valkey" | "valkeys" => ofNetwork u
    | "unix" | "redis+unix" | "valkey+unix" => ofSocket u
    | _ => refuse "Redis URL did not parse"

end Address

end StreamQueue.Redis
