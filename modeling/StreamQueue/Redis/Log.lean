import StreamQueue.Event
import StreamQueue.Redis.Command
import StreamQueue.Redis.Value

/-!
# A log on a Redis server

What the replies of a server mean for the calls on a stream log: the entries and
numbers in them, and the reasons of the log behind the server's refusals.

One identifier in a reply that is none makes the whole call fail. A field whose value
is no text is left out, and the entry keeps its other fields.
-/

namespace StreamQueue.Redis

/-- What comes back for a command. -/
inductive Reply
  | value (v : Value)
  /-- The connection is lost. -/
  | closed
  deriving Repr

/-- The reason behind an error, for a call on a group of a stream. -/
def logError (stream group : String) (e : Error) : LogError :=
  match e with
  | .extension "NOGROUP" _ => .groupNotFound stream group
  | .extension "BUSYGROUP" _ => .groupExists stream group
  | .transport _ => .connection e.message
  | e => .redis e

/-! ### Reading entries -/

/-- An entry as a server shows it: the text of its identifier, and its fields. -/
abbrev RawEntry := String × List (String × Value)

/-- The identifier that a text is. -/
def readId (s : String) : Except LogError StreamId :=
  match StreamId.ofText? s with
  | some id => .ok id
  | none => .error (.invalidId s)

/-- The fields whose values are texts. -/
def textFields (fields : List (String × Value)) : List (String × String) :=
  fields.filterMap fun p => p.2.text.toOption.map fun s => (p.1, s)

def readEntry (raw : RawEntry) : Except LogError Entry := do
  return ⟨← readId raw.1, Table.ofList (textFields raw.2)⟩

/-- Entries, each as a map of one identifier to the fields. -/
def rawEntries (v : Value) : Decoded (List RawEntry) :=
  List.flatten <$> v.list (Value.map (Value.map Value.raw))

/-- Entries by stream. -/
def rawStreams (v : Value) : Decoded (List RawEntry) := do
  let rows ← v.list (Value.map rawEntries)
  return rows.flatten.flatMap (·.2)

/-! ### Reading listings -/

/-- A delivery that waits, as a server lists it. -/
structure RawPending where
  id : String
  consumer : String
  idleMillis : Nat
  deliveries : Nat
  deriving Repr

/-- The text of a listing. -/
def listedText (bytes : List UInt8) : Decoded String :=
  match Text.Utf8.decode? bytes with
  | some s => .ok s
  | none => .error (.wrongType "Cannot convert from UTF-8")

/-- One line of a listing. -/
def rawPending : Value → Decoded RawPending
  | .array [.bulk id, .bulk consumer, .int idle, .int deliveries] => do
    return ⟨← listedText id, ← listedText consumer, (idle % UInt64.size).toNat,
      (deliveries % UInt64.size).toNat⟩
  | .array _ => .error (.wrongType "Cannot parse redis data (3)")
  | _ => .error (.wrongType "Cannot parse redis data (2)")

/-- A listing. -/
def rawPendings : Value → Decoded (List RawPending)
  | .array lines => lines.mapM rawPending
  | _ => .error (.wrongType "Cannot parse redis data (1)")

def readPending (raw : RawPending) : Except LogError PendingEntry := do
  return ⟨← readId raw.id, raw.consumer, raw.deliveries, Span.ofMillis raw.idleMillis⟩

/-- The count in a summary: the count, the first and the last identifier, and the
consumers with their counts. -/
def pendingCount (v : Value) : Decoded Nat := do
  match ← v.tuple 4 with
  | [count, first, last, consumers] =>
    let count ← count.word
    let first ← first.optional Value.text
    let last ← last.optional Value.text
    let _ ← consumers.list (Value.optional fun v => do
      match ← v.tuple 2 with
      | [name, n] => return (← name.text, ← n.text)
      | _ => v.unexpected "Array response of wrong dimension")
    if count = 0 then return 0
    else if first.isNone then
      .error (.transport "IllegalState: Non-zero pending expects start id")
    else if last.isNone then
      .error (.transport "IllegalState: Non-zero pending expects end id")
    else return count
  | _ => v.unexpected "Array response of wrong dimension"

/-- A group, as a server lists it. -/
structure RawGroup where
  name : String
  consumers : Nat
  pending : Nat
  last : String
  deriving Repr

/-- The value at a key of a map, or another where there is none. -/
def fieldOr {α : Type} (fields : List (String × Value)) (name : String) (read : Value → Decoded α)
    (otherwise : α) : Decoded α :=
  match fields.find? fun p => p.1 == name with
  | some p => read p.2
  | none => .ok otherwise

def rawGroup (fields : List (String × Value)) : Decoded RawGroup := do
  let name ← fieldOr fields "name" Value.text ""
  let consumers ← fieldOr fields "consumers" Value.word 0
  let pending ← fieldOr fields "pending" Value.word 0
  let last ← fieldOr fields "last-delivered-id" Value.text ""
  let _ ← fieldOr fields "entries-read" (Value.optional Value.word) none
  let _ ← fieldOr fields "lag" (Value.optional Value.word) none
  return ⟨name, consumers, pending, last⟩

def rawGroups (v : Value) : Decoded (List RawGroup) := do
  (← v.list (Value.map Value.raw)).mapM rawGroup

def readGroup (raw : RawGroup) : Except LogError GroupInfo := do
  return ⟨raw.name, raw.consumers, raw.pending, ← readId raw.last⟩

/-! ### Answers -/

/-- Read a reply in a form. -/
def decode {α : Type} (read : Value → Decoded α) : Reply → Decoded α
  | .closed => .error (.transport "connection closed")
  | .value v =>
    match v.firstError? with
    | some line => .error (Error.ofLine line)
    | none => read v

/-- Whether a text has another in it. -/
def hasPart (part : List Char) : List Char → Bool
  | [] => part.isEmpty
  | c :: cs => part.isPrefixOf (c :: cs) || hasPart part cs

/-- What a reply means for a call. -/
def result : (c : LogCall) → Reply → c.Result
  | .ping, r => (decode Value.text r).map (fun _ => ()) |>.mapError fun e => .connection e.message
  | .append stream .., r => do readId (← (decode Value.text r).mapError (logError stream ""))
  | .createGroup stream group _, r =>
    ((decode Value.raw r).map fun _ => ()).mapError (logError stream group)
  | .readNew stream group .., r | .readPending stream group .., r => do
    let raws ← (decode (Value.optional rawStreams) r).mapError (logError stream group)
    (raws.getD []).mapM readEntry
  | .pendingEntries stream group .., r => do
    (← (decode rawPendings r).mapError (logError stream group)).mapM readPending
  | .pendingCount stream group, r => (decode pendingCount r).mapError (logError stream group)
  | .claim stream group .., r => do
    (← (decode rawEntries r).mapError (logError stream group)).mapM readEntry
  | .ack stream group _, r => (decode Value.word r).mapError (logError stream group)
  | .len stream, r => (decode Value.word r).mapError (logError stream "")
  | .rangeAfter stream _, r => do
    (← (decode rawEntries r).mapError (logError stream "")).mapM readEntry
  | .groups stream, r =>
    match decode rawGroups r with
    | .ok raws => raws.mapM readGroup
    | .error e =>
      if hasPart "no such key".toList e.message.toList then .error (.streamNotFound stream)
      else .error (logError stream "" e)

/-- How a call is answered: at once, or by the reply to a command. -/
inductive Plan (c : LogCall)
  | immediate (result : c.Result)
  | exchange (command : Command) (read : Reply → c.Result)

/-- How a call is answered. A call on no entries at all needs no command. -/
def plan : (c : LogCall) → Plan c
  | .claim _ _ _ _ [] => .immediate (.ok [])
  | .ack _ _ [] => .immediate (.ok 0)
  | c => .exchange (Command.ofCall c) (result c)

end StreamQueue.Redis
