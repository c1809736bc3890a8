import StreamQueue.Log.Reader
import Mathlib

/-!
# Histories of a log

A log in memory goes through a history: calls are carried out one after the other, each
at a reading of the clocks. Any finite list of calls is a history, whoever makes them and
whatever the clocks show, so a statement about all lists is one about every order in which
any number of clients may get through to the log.

An act is a call together with the store it found. What a history has delivered, counted,
forgotten and trimmed is read off its acts one by one.

A read for new entries that waits is the attempts it makes: `ReadRequest.attempt_store` and
`ReadRequest.resume_store` say that it leaves the store as attempts carried out by
themselves do.

## What is proved

* `Store.history_induction` — what holds at the start and is kept by every act holds of
  every history.
* `Store.steady_induction` — the same for what depends on the monotonic clock, which does
  not go back.

## Room for identifiers

An append takes an identifier past the last one given out. `Store.Roomy` says that no append
of a history finds the greatest identifier given out already. `Store.roomy_of_length`, with
the order of identifiers, says how many calls it takes at least to come to that.
-/

namespace StreamQueue

/-- A call and the readings of the clocks at which it is carried out. -/
structure TimedCall where
  clock : Clock
  call : LogCall
  deriving DecidableEq, Repr

/-- A call at a millisecond that both clocks show. -/
def TimedCall.atMilli (ms : Nat) (call : LogCall) : TimedCall :=
  ⟨⟨⟨ms * Span.nanosPerMilli⟩, ⟨ms * Span.nanosPerMilli⟩⟩, call⟩

/-- A call that is carried out. -/
structure Act where
  /-- The store it finds. -/
  found : Store
  clock : Clock
  call : LogCall
  deriving DecidableEq, Repr

namespace Act

/-- What the call answers. -/
def result (a : Act) : a.call.Result := (a.found.perform a.clock a.call).1

/-- The store it leaves behind. -/
def left (a : Act) : Store := (a.found.perform a.clock a.call).2

/-- An append finds an identifier left to give out. -/
def HasRoom (a : Act) : Prop :=
  match a.call with
  | .append stream _ _ => (a.found.streamOrNew stream).lastId ≠ StreamId.last
  | _ => True

instance (a : Act) : Decidable a.HasRoom :=
  match a with
  | ⟨found, _, .append stream _ _⟩ =>
    inferInstanceAs (Decidable ((found.streamOrNew stream).lastId ≠ StreamId.last))
  | ⟨_, _, .ping⟩ | ⟨_, _, .createGroup ..⟩ | ⟨_, _, .readNew ..⟩ | ⟨_, _, .readPending ..⟩
  | ⟨_, _, .pendingEntries ..⟩ | ⟨_, _, .pendingCount ..⟩ | ⟨_, _, .claim ..⟩ | ⟨_, _, .ack ..⟩
  | ⟨_, _, .len ..⟩ | ⟨_, _, .rangeAfter ..⟩ | ⟨_, _, .groups ..⟩ => isTrue trivial

end Act

/-- The acts of a history, in order. -/
abbrev History := List Act

namespace Store

/-- The store after calls. -/
def afterAll (s : Store) (cs : List TimedCall) : Store :=
  cs.foldl (fun s c => (s.perform c.clock c.call).2) s

/-- The acts that calls come to, in order. -/
def history (s : Store) : List TimedCall → History
  | [] => []
  | c :: cs => ⟨s, c.clock, c.call⟩ :: (s.perform c.clock c.call).2.history cs

/-- Every append among calls finds an identifier left to give out. -/
def Roomy (s : Store) (cs : List TimedCall) : Prop := ∀ a ∈ s.history cs, a.HasRoom

instance (s : Store) (cs : List TimedCall) : Decidable (s.Roomy cs) :=
  inferInstanceAs (Decidable (∀ a ∈ s.history cs, a.HasRoom))

theorem afterAll_append (s : Store) (cs ds : List TimedCall) :
    s.afterAll (cs ++ ds) = (s.afterAll cs).afterAll ds := List.foldl_append ..

theorem history_append (s : Store) (cs ds : List TimedCall) :
    s.history (cs ++ ds) = s.history cs ++ (s.afterAll cs).history ds := by
  induction cs generalizing s with
  | nil => rfl
  | cons c cs ih => simp only [List.cons_append, history, ih]; rfl

theorem roomy_append {s : Store} {cs ds : List TimedCall} :
    s.Roomy (cs ++ ds) ↔ s.Roomy cs ∧ (s.afterAll cs).Roomy ds := by
  simp only [Roomy, history_append, List.forall_mem_append]

/-- **Histories**: what holds of the empty history and is kept by every act that has room
holds of every history with room. -/
theorem history_induction {s : Store} {P : History → Store → Prop} (start : P [] s)
    (next : ∀ h a, P h a.found → a.HasRoom → P (h ++ [a]) a.left) (cs : List TimedCall)
    (room : s.Roomy cs) : P (s.history cs) (s.afterAll cs) := by
  induction cs using List.reverseRecOn with
  | nil => exact start
  | append_singleton cs c ih =>
    simp only [Roomy, history_append, List.mem_append] at room
    rw [history_append, afterAll_append]
    have before := ih fun a ha => room a (.inl ha)
    exact next _ ⟨s.afterAll cs, c.clock, c.call⟩ before (room _ (.inr (by simp [history])))

end Store

/-- The monotonic clock does not go back from one call to a later one. The wall clock may. -/
def Steady (cs : List TimedCall) : Prop := cs.Pairwise fun c d => c.clock.now ≤ d.clock.now

instance (cs : List TimedCall) : Decidable (Steady cs) :=
  inferInstanceAs (Decidable (cs.Pairwise fun c d => c.clock.now ≤ d.clock.now))

namespace Store

/-- **Histories on a monotonic clock**: what holds of the empty history at any instant, and is
kept by every act that has room up to any later instant, holds of every history with room at
every instant that is past its calls. -/
theorem steady_induction {s : Store} {P : History → Store → Instant → Prop} (start : ∀ now, P [] s now)
    (next : ∀ h a now, P h a.found a.clock.now → a.HasRoom → a.clock.now ≤ now → P (h ++ [a]) a.left now)
    (cs : List TimedCall) (room : s.Roomy cs) (steady : Steady cs) (now : Instant)
    (past : ∀ c ∈ cs, c.clock.now ≤ now) : P (s.history cs) (s.afterAll cs) now := by
  induction cs using List.reverseRecOn generalizing now with
  | nil => exact start now
  | append_singleton cs c ih =>
    obtain ⟨steady, -, before⟩ := List.pairwise_append.1 steady
    simp only [Roomy, history_append, List.mem_append] at room
    rw [history_append, afterAll_append]
    have earlier := ih (fun a ha => room a (.inl ha)) steady c.clock.now
      fun d hd => before d hd c List.mem_cons_self
    exact next _ ⟨s.afterAll cs, c.clock, c.call⟩ now earlier (room _ (.inr (by simp [history])))
      (past c (by simp))

end Store

/-! ### What a call answers, as far as it concerns a stream or a group -/

namespace LogCall

/-- The entries that a read for new entries of a group has answered with. -/
def delivered (stream group : String) : (c : LogCall) → c.Result → List Entry
  | .readNew s g _ _ _, .ok es => if s = stream ∧ g = group then es else []
  | _, _ => []

/-- The entries that a call on a group has answered with, in whatever way it came by them. -/
def answered (stream group : String) : (c : LogCall) → c.Result → List Entry
  | .readNew s g _ _ _, .ok es | .readPending s g _ _ _, .ok es | .claim s g _ _ _, .ok es =>
    if s = stream ∧ g = group then es else []
  | _, _ => []

/-- The number that an acknowledgement for a group has answered. -/
def acknowledged (stream group : String) : (c : LogCall) → c.Result → Nat
  | .ack s g _, .ok n => if s = stream ∧ g = group then n else 0
  | _, _ => 0

/-- The identifier that an append to a stream has answered. -/
def appended (stream : String) : (c : LogCall) → c.Result → List StreamId
  | .append s _ _, .ok id => if s = stream then [id] else []
  | _, _ => []

/-- The cursor with which a group was created. -/
def started (stream group : String) : (c : LogCall) → c.Result → List StreamId
  | .createGroup s g start, .ok () => if s = stream ∧ g = group then [start] else []
  | _, _ => []

end LogCall

namespace Store

/-- The deliveries of a group that wait to be acknowledged. -/
def pendingOf (s : Store) (stream group : String) : Table StreamId Delivery :=
  match s.group? stream group with
  | some (_, g) => g.pending
  | none => Table.empty

/-- The owners under which an entry is listed as pending. -/
def owners (s : Store) (stream group : String) (id : StreamId) : List String :=
  ((s.pendingOf stream group).pairs.filter fun p => p.1 = id).map (·.2.owner)

/-- The cursor of a group. -/
def cursor? (s : Store) (stream group : String) : Option StreamId :=
  (s.group? stream group).map (·.2.cursor)

/-- The identifiers of the retained entries of a stream. -/
def retained (s : Store) (stream : String) : List StreamId := (s.entries stream).map (·.id)

end Store

namespace Act

/-- The entries that the act has delivered to a group for the first time. -/
def delivered (stream group : String) (a : Act) : List Entry :=
  a.call.delivered stream group a.result

/-- The entries of a group that the act has answered with. -/
def answered (stream group : String) (a : Act) : List Entry := a.call.answered stream group a.result

/-- What the act has answered to an acknowledgement for a group. -/
def acknowledged (stream group : String) (a : Act) : Nat :=
  a.call.acknowledged stream group a.result

/-- The identifier that the act has appended to a stream. -/
def appended (stream : String) (a : Act) : List StreamId := a.call.appended stream a.result

/-- The cursor with which the act has created a group. -/
def started (stream group : String) (a : Act) : List StreamId :=
  a.call.started stream group a.result

/-- The entries that an acknowledgement for a group finds pending, each once. -/
def counted (stream group : String) (a : Act) : List StreamId :=
  match a.call with
  | .ack s g ids =>
    if s = stream ∧ g = group then (a.found.pendingOf stream group).keys.filter (· ∈ ids) else []
  | _ => []

/-- The entries that a claim for a group finds pending and idle for long enough, but does not
find in the stream, each once. -/
def dropped (stream group : String) (a : Act) : List StreamId :=
  match a.call with
  | .claim s g _ minIdle ids =>
    if s = stream ∧ g = group then
      ((a.found.pendingOf stream group).pairs.filter fun p =>
        p.1 ∈ ids ∧ minIdle ≤ a.clock.now.since p.2.since ∧
          (a.found.streamOrNew stream).find? p.1 = none).map (·.1)
    else []
  | _ => []

/-- The entries of a stream that the act has trimmed: those there were, or that it has
appended, and that are gone behind it. -/
def trimmed (stream : String) (a : Act) : List StreamId :=
  (a.found.retained stream ++ a.appended stream).filter (· ∉ a.left.retained stream)

/-- The entries that the act has trimmed before a group has come to them: while the group
is not there, or while they are past its cursor. -/
def missed (stream group : String) (a : Act) : List StreamId :=
  (a.trimmed stream).filter fun id => ∀ c ∈ a.found.cursor? stream group, c < id

end Act

namespace History

/-- The entries that a history has delivered to a group for the first time, in the order of
the deliveries. -/
def delivered (h : History) (stream group : String) : List StreamId :=
  h.flatMap fun a => (a.delivered stream group).map (·.id)

/-- What the acknowledgements for a group have answered, taken together. -/
def acknowledged (h : History) (stream group : String) : Nat :=
  (h.map (·.acknowledged stream group)).sum

/-- The entries that were pending when they were acknowledged, in the order of that. -/
def counted (h : History) (stream group : String) : List StreamId :=
  h.flatMap (·.counted stream group)

/-- The entries that claims have found trimmed, in the order of that. -/
def dropped (h : History) (stream group : String) : List StreamId :=
  h.flatMap (·.dropped stream group)

/-- The entries that were appended to a stream, in order. -/
def appended (h : History) (stream : String) : List StreamId := h.flatMap (·.appended stream)

/-- The cursors with which a group was created. -/
def started (h : History) (stream group : String) : List StreamId :=
  h.flatMap (·.started stream group)

/-- The entries that were trimmed before a group has come to them. -/
def missed (h : History) (stream group : String) : List StreamId :=
  h.flatMap (·.missed stream group)

end History

/-! ### Reads that wait -/

namespace ReadRequest

/-- The call that an attempt of a read carries out. -/
def call (r : ReadRequest) (block : Option Span) : LogCall :=
  .readNew r.stream r.group r.consumer r.count block

theorem attempt_store (r : ReadRequest) (now : Instant) (wall : Timestamp) (feed : Feed)
    (s : Store) (block : Option Span) :
    (r.attempt now feed s).2 = (s.perform ⟨now, wall⟩ (r.call block)).2 := by
  simp only [attempt, call, Store.perform]
  cases s.deliver now r.stream r.group r.consumer r.count with
  | error e => rfl
  | ok found =>
    obtain ⟨_ | _, s'⟩ := found
    · rfl
    · rfl

/-- To look again at a read that waits is to make an attempt or to leave the store alone. -/
theorem resume_store (r : ReadRequest) (now : Instant) (wall : Timestamp) (feed : Feed)
    (receiver : Receiver) (s : Store) (block : Option Span) :
    (r.resume now feed receiver s).2 = (s.perform ⟨now, wall⟩ (r.call block)).2 ∨
      (r.resume now feed receiver s).2 = s := by
  unfold resume
  split
  · exact .inl (attempt_store r now wall feed s block)
  · exact .inr rfl

end ReadRequest

end StreamQueue
