import StreamQueue.Http.Message
import StreamQueue.Json
import StreamQueue.Publisher
import StreamQueue.Text.Blank
import StreamQueue.Text.Percent
import StreamQueue.Time.Rfc3339

/-!
# The pages of the queue

Six pages: a status page, two health checks, two pages that flip what the checks
report, and one that publishes the current time. Every answer may be read from
pages of any origin; a request for the options of a page is answered for all pages
alike, with the methods of the page if there is such a page.

The flags are flipped before anything else is done, so the status shows them as
they are then.
-/

namespace StreamQueue

/-- What the health checks report. -/
structure Health where
  live : Bool
  ready : Bool
  deriving DecidableEq, Repr

namespace Health

/-- Both checks succeed at first. -/
def initial : Health := ⟨true, true⟩

def toggleLiveness (h : Health) : Health := { h with live := !h.live }
def toggleReadiness (h : Health) : Health := { h with ready := !h.ready }

end Health

/-- What the pages work with. -/
structure App where
  publisher : PublisherConfig
  /-- The group whose backlog is shown. -/
  group : String
  health : Health
  deriving Repr

namespace Http

/-- A page. -/
inductive Page
  | index
  | liveness
  | readiness
  | updateLiveness
  | updateReadiness
  | publishTime
  deriving DecidableEq, Repr

namespace Page

/-- The page at a path. -/
def ofPath? : String → Option Page
  | "/" => some index
  | "/liveness" => some liveness
  | "/readiness" => some readiness
  | "/update-liveness" => some updateLiveness
  | "/update-readiness" => some updateReadiness
  | "/publish-time" => some publishTime
  | _ => none

/-- The methods that a page answers. -/
def methods : Page → List String
  | publishTime => ["POST"]
  | _ => ["GET", "HEAD"]

/-- The methods as one header value. -/
def allow (p : Page) : String := ",".intercalate p.methods

end Page

/-- The status of the queue. -/
structure Status where
  health : Health
  connected : Bool
  pending : Nat
  error : Option String
  deriving DecidableEq, Repr

/-- The status as JSON text. -/
def Status.toJson (s : Status) : String :=
  Json.objectText <|
    [("liveness", toString s.health.live), ("readiness", toString s.health.ready),
     ("stream_connected", toString s.connected), ("pending_messages", toString s.pending)] ++
    (s.error.toList.map fun e => ("error", Json.quote e))

/-- How many messages a text asks for: the number it is, or one if it is none. -/
def requestedCount (text : Option String) : Nat :=
  match text.bind fun t => Text.Decimal.word64? (Text.trim t) with
  | some n => max n 1
  | none => 1

/-- The texts that a query gives for the number of messages. -/
def countTexts (query : Option String) : List String :=
  ((Text.Percent.formFields (query.getD "")).filter fun f => f.1 == "count").map (·.2)

end Http

namespace App

open Http

/-- Gather the status. -/
def status (a : App) (error : Option String) : Job Response := do
  let pending ← do
    match ← Publisher.backlog a.publisher a.group with
    | .ok n => pure n
    | .error e =>
      Job.tell (.backlogUnknown a.group e)
      pure 0
  let reached ← Job.ask .ping
  return .json (Status.toJson ⟨a.health, reached.isOk, pending, error⟩)

/-- Publish the current time again and again, up to the first failure, which is given back. -/
def publishTimes (a : App) : Nat → Job (Option QueueError)
  | 0 => return none
  | n + 1 => do
    let now ← Job.wallClock
    match ← Publisher.publish a.publisher now.rfc3339 with
    | .ok _ => a.publishTimes n
    | .error e =>
      Job.tell (.publishTimeFailed e)
      return some e

/-- How many messages are published at once: no more than the stream would keep. -/
def publishCount (a : App) (text : Option String) : Nat :=
  min (requestedCount text) (max a.publisher.maxLen 1)

/-- Do what a page is for. -/
def visit (a : App) (query : Option String) : Page → App × Job Response
  | .index => (a, a.status none)
  | .liveness => (a, pure (if a.health.live then .plain 200 "ok" else .plain 503 "not live"))
  | .readiness => (a, pure (if a.health.ready then .plain 200 "ok" else .plain 503 "not ready yet"))
  | .updateLiveness =>
    let a := { a with health := a.health.toggleLiveness }
    (a, do Job.tell (.livenessToggled a.health.live); a.status none)
  | .updateReadiness =>
    let a := { a with health := a.health.toggleReadiness }
    (a, do Job.tell (.readinessToggled a.health.ready); a.status none)
  | .publishTime =>
    match countTexts query with
    | _ :: _ :: _ => (a, pure (.plain 400
        "Failed to deserialize query string: duplicate field \x60count\x60"))
    | texts => (a, do
        let failure ← a.publishTimes (a.publishCount texts.head?)
        a.status (failure.map QueueError.message))

/-- Answer a request whose page is there, or is not. -/
def route (a : App) (r : Request) : App × Job Response :=
  match Page.ofPath? r.target.path with
  | none => (a, pure (.bare 404))
  | some page =>
    if page.methods.contains r.method then
      let (a, job) := a.visit r.target.query page
      (a, do
        let answer ← job
        return if r.method == "HEAD" then answer.withoutBody else answer)
    else (a, pure ((Response.bare 405).withHeader "allow" page.allow))

/-- What a request for the options of a page is answered. -/
def options (r : Request) : Response :=
  let answer := (((Response.bare 200).withHeader "access-control-allow-origin" "*").withHeader
    "access-control-allow-methods" "*").withHeader "access-control-allow-headers" "*"
  match Page.ofPath? r.target.path with
  | some page => answer.withHeader "allow" page.allow
  | none => answer

/-- Answer a request. -/
def handle (a : App) (r : Request) : App × Job Response :=
  if r.method == "OPTIONS" then (a, pure (options r))
  else
    let (a, job) := a.route r
    (a, do return (← job).withHeader "access-control-allow-origin" "*")

end App

end StreamQueue
