import StreamQueue.Cli.Execute
import StreamQueue.Redis.Log
import StreamQueue.Rehearsal.Folder
import StreamQueue.Store
import StreamQueue.Text.Uuid

/-!
# Sessions

A session plays the program in a folder of a rehearsal, against a server that gives
scripted replies. Time stands still, work takes none, and the person interrupts the
program, if at all, when it waits for something that never comes.

What would wait for ever ends the session without an answer.
-/

namespace StreamQueue.Rehearsal

/-- What the program meets. -/
structure Setting where
  folder : Folder
  /-- Where the server is. -/
  server : Redis.Address
  /-- The replies in order; `none` is one that never comes. -/
  replies : List (Option Redis.Reply)
  /-- The reply to any command after those. -/
  otherwise : Redis.Reply
  /-- A port at which somebody else serves. -/
  takenPort : Option Nat
  /-- Whether the person interrupts the program. -/
  interrupts : Bool

/-- A session: what is left of the replies, and what has come of it so far. -/
structure Session where
  setting : Setting
  replies : List (Option Redis.Reply)
  /-- The log in memory, if there is one. -/
  memory : Option Store
  output : String
  notices : String
  /-- The commands that the server has seen, last first. -/
  seen : List Redis.Command

/-- A session that begins. -/
def Session.initial (s : Setting) : Session := ⟨s, s.replies, none, "", "", []⟩

/-- The commands that the server has seen, in order. -/
def Session.commands (s : Session) : List Redis.Command := s.seen.reverse

/-- What happens in a session, unless it waits for ever. -/
abbrev Sitting := OptionT (StateM Session)

namespace Sitting

/-- The clock of a session. -/
def clock : Clock := ⟨Instant.zero, ⟨0⟩⟩

/-- Wait for ever. -/
def hang {α : Type} : Sitting α := OptionT.fail

/-- Send a command to the server; `none` if no reply comes. -/
def exchange (c : Redis.Command) : Sitting (Option Redis.Reply) := do
  let s ← get
  match s.replies with
  | [] =>
    set { s with seen := c :: s.seen }
    return some s.setting.otherwise
  | reply :: rest =>
    set { s with replies := rest, seen := c :: s.seen }
    return reply

/-- Whether a result in memory is worth waiting for: nobody else appends. -/
def neverComes : (c : LogCall) → c.Result → Bool
  | .readNew _ _ _ _ block, .ok [] => block != some Span.zero
  | _, _ => false

/-- Make a call on the log; `none` if it never comes back. -/
def call (c : LogCall) : Sitting (Option c.Result) := do
  let s ← get
  match s.memory with
  | some store =>
    let (result, store) := store.perform clock c
    set { s with memory := some store }
    return if neverComes c result then none else some result
  | none =>
    match Redis.plan c with
    | .immediate result => return some result
    | .exchange command read => return (← exchange command).map read

/-- Do a job, with what it does when a call never comes back under a deadline. -/
def doJob {α : Type} : Option (Sitting α) → Job α → Sitting α
  | _, .done a => return a
  | late, .call c next => do
    match ← call c with
    | some result => doJob late (next result)
    | none => late.getD hang
  | late, .report _ rest => doJob late rest
  | late, .readWall next => doJob late (next clock.wall)
  | _, .arm _ late rest => doJob (some (doJob none late)) rest
  | _, .disarm rest => doJob none rest

/-- A bound on the moves of a consumer. -/
def longestRun : Nat := Nat.pow 10 9

/-- Let a consumer go on until its run ends. All its work succeeds. -/
def drive (cfg : ConsumerConfig) (me : String) : Nat → Consumer.Move → Sitting QueueError
  | 0, _ => hang
  | fuel + 1, ⟨phase, _, starts⟩ => do
    match phase, starts with
    | .stopped reason, _ => return reason
    | .working .., _ =>
      drive cfg me fuel (Consumer.step cfg me false phase (.worked (.ok ⟨"", cfg.size.toNat⟩)))
    | _, none => hang
    | _, some c =>
      match (← call c).bind (Consumer.Signal.ofResult? c) with
      | some signal => drive cfg me fuel (Consumer.step cfg me false phase signal)
      | none =>
        if (← get).setting.interrupts && phase.heedsCancel then
          drive cfg me fuel (Consumer.step cfg me true phase .cancelled)
        else hang

/-- Run a consumer to its end. -/
def consume (cfg : ConsumerConfig) : Sitting QueueError :=
  let me := cfg.identity.getD (Text.Uuid.ofNat 1)
  drive cfg me longestRun (Consumer.begin cfg me false)

/-- Serve at a port until the person interrupts; there are no requests. -/
def serve (port : Nat) (consumer : Option ConsumerConfig) : Sitting (Except String Unit) := do
  let setting := (← get).setting
  if setting.takenPort == some port then return .error "Address already in use (os error 98)"
  else
    consumer.forM fun cfg => discard (consume cfg)
    if setting.interrupts then return .ok () else hang

/-- The place that a session is for the program. -/
def host : Cli.Host Sitting where
  print text := modify fun s => { s with output := s.output ++ text }
  warn text := modify fun s => { s with notices := s.notices ++ text }
  look path := return (← get).setting.folder.look path
  openMemory := modify fun s => { s with memory := some Store.empty }
  connect address := do
    if (← get).setting.server = address then return .ok ()
    else return .error (.connection "Connection refused (os error 111)")
  perform := doJob none
  consume := consume
  serve port _ consumer := serve port consumer

end Sitting

/-- Play something in a setting; what it comes to, and the session after it. -/
def Setting.play {α : Type} (s : Setting) (x : Sitting α) : Option α × Session :=
  x.run (Session.initial s)

end StreamQueue.Rehearsal
