import StreamQueue.Proofs.Log.View

/-!
# Operations in place

An operation of `Store` gives back a new store or none at all. A log that is kept in place has
no such choice: an operation takes hold of a stream and of a group, writes as it goes along, and
what it has written by the time it is refused stays written. To create a group, for instance, is
to create the stream first if there is none, and only then to see whether the group is there.

Here is each operation as such a sequence of looks and writes. A stream or a group is written
back at once, one consumer, one delivery, one claim or one acknowledgement at a time.

## What is proved

* `InPlace.on_alter`, `InPlace.on_alter_again` — a write to a group, and one on top of another.
* `InPlace.on_forGroup` — work for a group is refused before anything is written, or is done.
* `LogCall.on_inPlace` — in place or not, a call has the same answer and leaves the same store,
  whether it is refused or not.
-/

namespace StreamQueue

/-- Work on a store in place. What is written stays so, even if the work is refused later. -/
abbrev InPlace (α : Type) : Type := ExceptT LogError (StateM Store) α

namespace InPlace

variable {α β : Type}

/-- What the work comes to on a store, and the store it leaves. -/
def on (work : InPlace α) (s : Store) : Except LogError α × Store := (work.run.run s).run

/-! ### Looks and writes -/

/-- The stream, or a refusal to work for a group of it. -/
def stream (stream group : String) : InPlace Stream := do
  match (← get).streams.get? stream with
  | some st => return st
  | none => throw (.groupNotFound stream group)

/-- The stream, which is written down as an empty one if there is none. -/
def streamOrNew (stream : String) : InPlace Stream := do
  match (← get).streams.get? stream with
  | some st => return st
  | none =>
    modify fun s => s.putStream stream Stream.empty
    return Stream.empty

/-- A group of a stream, or a refusal. -/
def group (stream group : String) : InPlace Group := do
  match (← InPlace.stream stream group).groups.get? group with
  | some g => return g
  | none => throw (.groupNotFound stream group)

/-- Change a group where it stands, or be refused. -/
def alter (stream group : String) (f : Group → α × Group) : InPlace α := do
  let s ← get
  match s.group? stream group with
  | some (st, g) =>
    set (s.putGroup stream st group (f g).2)
    return (f g).1
  | none => throw (.groupNotFound stream group)

/-! ### The operations -/

def append (wall : Timestamp) (stream : String) (fields : List (String × String)) (maxLen : Nat) :
    InPlace StreamId := do
  let st ← streamOrNew stream
  modify fun s => s.putStream stream (st.push wall (Table.ofList fields) maxLen)
  return st.nextId wall

def createGroup (stream group : String) (start : StreamId) : InPlace Unit := do
  let st ← streamOrNew stream
  if st.groups.contains group then throw (.groupExists stream group)
  modify fun s => s.putGroup stream st group (.startingAt start)

/-- The consumer is noted before anything is delivered to it. -/
def deliver (now : Instant) (stream group consumer : String) (count : Nat) : InPlace (List Entry) := do
  let st ← InPlace.stream stream group
  let g ← InPlace.group stream group
  let delivered := (st.after g.cursor).take count
  alter stream group fun g => ((), g.see consumer)
  forM delivered fun e => alter stream group fun g => ((), g.deliver now consumer e)
  return delivered

def replay (stream group consumer : String) (after : StreamId) (count : Nat) : InPlace (List Entry) := do
  let st ← InPlace.stream stream group
  alter stream group fun g => ((), g.see consumer)
  let g ← InPlace.group stream group
  return (((g.ownedBy consumer).filter fun id => after < id).take count).map st.shown

/-- The turns of a claim, one after the other. -/
def claimTurns (st : Stream) (now : Instant) (stream group consumer : String) (minIdle : Span) :
    List StreamId → InPlace (List Entry)
  | [] => return []
  | id :: ids => do
    let claimed ← alter stream group fun g => st.claimOne now consumer minIdle g id
    let rest ← claimTurns st now stream group consumer minIdle ids
    return claimed.toList ++ rest

/-- The consumer is noted before anything is claimed for it. -/
def claim (now : Instant) (stream group consumer : String) (minIdle : Span) (ids : List StreamId) :
    InPlace (List Entry) := do
  let st ← InPlace.stream stream group
  alter stream group fun g => ((), g.see consumer)
  claimTurns st now stream group consumer minIdle ids

/-- One acknowledgement after the other. -/
def ackTurns (stream group : String) : List StreamId → InPlace Nat
  | [] => return 0
  | id :: ids => do
    let found ← alter stream group fun g => g.acknowledge id
    let n ← ackTurns stream group ids
    return n + found.toNat

def ack (stream group : String) (ids : List StreamId) : InPlace Nat := do
  match (← get).group? stream group with
  | some _ => ackTurns stream group ids
  | none => return 0

def pendingEntries (now : Instant) (stream group : String) (minIdle : Span) (after : StreamId)
    (count : Nat) : InPlace (List PendingEntry) := do
  let g ← InPlace.group stream group
  return ((g.idle now minIdle).filter fun p => after < p.id).take count

def pendingCount (stream group : String) : InPlace Nat := do
  let g ← InPlace.group stream group
  return g.pending.size

def groups (stream : String) : InPlace (List GroupInfo) := do
  match (← get).groups stream with
  | .ok infos => return infos
  | .error e => throw e

end InPlace

/-- A call as work in place. -/
def LogCall.inPlace (clock : Clock) : (c : LogCall) → InPlace c.Answer
  | .ping => return ()
  | .append stream fields maxLen => InPlace.append clock.wall stream fields maxLen
  | .createGroup stream group start => InPlace.createGroup stream group start
  | .readNew stream group consumer count _ => InPlace.deliver clock.now stream group consumer count
  | .readPending stream group consumer after count => InPlace.replay stream group consumer after count
  | .pendingEntries stream group minIdle after count =>
    InPlace.pendingEntries clock.now stream group minIdle after count
  | .pendingCount stream group => InPlace.pendingCount stream group
  | .claim stream group consumer minIdle ids => InPlace.claim clock.now stream group consumer minIdle ids
  | .ack stream group ids => InPlace.ack stream group ids
  | .len stream => return (← get).len stream
  | .rangeAfter stream after => return (← get).rangeAfter stream after
  | .groups stream => InPlace.groups stream

namespace InPlace

variable {α β : Type} {s s' : Store}

/-! ### What work comes to -/

@[simp] theorem on_pure (a : α) (s : Store) : (pure a : InPlace α).on s = (.ok a, s) := rfl
@[simp] theorem on_throw (e : LogError) (s : Store) : (throw e : InPlace α).on s = (.error e, s) := rfl
@[simp] theorem on_get (s : Store) : (get : InPlace Store).on s = (.ok s, s) := rfl
@[simp] theorem on_set (s s' : Store) : (set s' : InPlace Unit).on s = (.ok (), s') := rfl
@[simp] theorem on_modify (f : Store → Store) (s : Store) :
    (modify f : InPlace Unit).on s = (.ok (), f s) := rfl

theorem on_bind_ok {work : InPlace α} {a : α} (first : work.on s = (.ok a, s')) (next : α → InPlace β) :
    (work >>= next).on s = (next a).on s' := by
  simp only [on, ExceptT.run, StateT.run, Id.run] at first ⊢
  simp only [Bind.bind, ExceptT.bind, ExceptT.mk, StateT.bind, first, ExceptT.bindCont]

theorem on_bind_error {work : InPlace α} {e : LogError} (first : work.on s = (.error e, s'))
    (next : α → InPlace β) : (work >>= next).on s = (.error e, s') := by
  simp only [on, ExceptT.run, StateT.run, Id.run] at first ⊢
  simp only [Bind.bind, ExceptT.bind, ExceptT.mk, StateT.bind, first, ExceptT.bindCont]
  rfl

/-! ### What a look or a write comes to -/

variable {a b : String} {st : Stream} {g : Group}

theorem on_stream_ok (there : s.streams.get? a = some st) : (stream a b).on s = (.ok st, s) := by
  rw [stream, on_bind_ok (on_get s)]
  simp only [there, on_pure]

theorem on_stream_error (missing : s.streams.get? a = none) :
    (stream a b).on s = (.error (.groupNotFound a b), s) := by
  rw [stream, on_bind_ok (on_get s)]
  simp only [missing, on_throw]

theorem on_streamOrNew (s : Store) (a : String) :
    (streamOrNew a).on s =
      (.ok (s.streamOrNew a), if s.has a then s else s.putStream a Stream.empty) := by
  rw [streamOrNew, on_bind_ok (on_get s), Store.streamOrNew, Store.has, Table.contains]
  cases s.streams.get? a with
  | some st => rfl
  | none => rfl

theorem on_group_ok (there : s.group? a b = some (st, g)) : (group a b).on s = (.ok g, s) := by
  obtain ⟨here, found⟩ := Store.group?_eq_some.1 there
  rw [group, on_bind_ok (on_stream_ok here)]
  simp only [found, on_pure]

theorem on_group_error (missing : s.group? a b = none) :
    (group a b).on s = (.error (.groupNotFound a b), s) := by
  cases here : s.streams.get? a with
  | none => rw [group, on_bind_error (on_stream_error here)]
  | some st =>
    rw [group, on_bind_ok (on_stream_ok here)]
    have lacks : st.groups.get? b = none := by
      cases found : st.groups.get? b with
      | none => rfl
      | some g =>
        rw [Store.group?_eq_some.2 ⟨here, found⟩] at missing
        cases missing
    simp only [lacks, on_throw]

/-- **A write** to a group that is there changes it where it stands. -/
theorem on_alter (there : s.group? a b = some (st, g)) (f : Group → α × Group) :
    (alter a b f).on s = (.ok (f g).1, s.putGroup a st b (f g).2) := by
  rw [alter, on_bind_ok (on_get s)]
  simp only [there]
  rw [on_bind_ok (on_set s _), on_pure]

theorem on_alter_error (missing : s.group? a b = none) (f : Group → α × Group) :
    (alter a b f).on s = (.error (.groupNotFound a b), s) := by
  rw [alter, on_bind_ok (on_get s)]
  simp only [missing, on_throw]

/-- A write on top of another is as if there were the second one alone. -/
theorem on_alter_again (s : Store) (a b : String) (st : Stream) (g : Group) (f : Group → α × Group) :
    (alter a b f).on (s.putGroup a st b g) = (.ok (f g).1, s.putGroup a st b (f g).2) := by
  rw [on_alter (Store.group?_putGroup s a b st g), Store.putGroup_putGroup]

/-! ### One turn after the other -/

theorem on_deliveries (s : Store) (a b : String) (st : Stream) (g : Group) (now : Instant) (consumer : String)
    (es : List Entry) :
    (forM es fun e => alter a b fun g => ((), g.deliver now consumer e)).on (s.putGroup a st b g) =
      (.ok (), s.putGroup a st b (es.foldl (fun g e => g.deliver now consumer e) g)) := by
  induction es generalizing g with
  | nil => rfl
  | cons e es ih =>
    rw [List.forM_cons, on_bind_ok (on_alter_again s a b st g _), ih, List.foldl_cons]

theorem on_claimTurns (s : Store) (a b : String) (st of : Stream) (g : Group) (now : Instant)
    (consumer : String) (minIdle : Span) (ids : List StreamId) :
    (claimTurns of now a b consumer minIdle ids).on (s.putGroup a st b g) =
      (.ok (of.claimAll now consumer minIdle g ids).1,
        s.putGroup a st b (of.claimAll now consumer minIdle g ids).2) := by
  induction ids generalizing g with
  | nil => rfl
  | cons id ids ih =>
    rw [claimTurns, on_bind_ok (on_alter_again s a b st g _), on_bind_ok (ih _), on_pure]
    rfl

theorem on_ackTurns (s : Store) (a b : String) (st : Stream) (g : Group) (ids : List StreamId) :
    (ackTurns a b ids).on (s.putGroup a st b g) =
      (.ok (g.acknowledgeAll ids).1, s.putGroup a st b (g.acknowledgeAll ids).2) := by
  induction ids generalizing g with
  | nil => rfl
  | cons id ids ih =>
    rw [ackTurns, on_bind_ok (on_alter_again s a b st g _), on_bind_ok (ih _), on_pure]
    rfl

/-! ### One operation at a time -/

variable (s : Store) (a b : String) (now : Instant) (consumer : String)

theorem on_append (wall : Timestamp) (fields : List (String × String)) (maxLen : Nat) :
    (append wall a fields maxLen).on s =
      (.ok (s.append wall a fields maxLen).1, (s.append wall a fields maxLen).2) := by
  rw [append, on_bind_ok (on_streamOrNew s a), on_bind_ok (on_modify _ _), on_pure]
  split
  · rfl
  · simp only [Store.append, Store.putStream, Table.insert_insert]

/-- A group that is there stands in a stream that was there, so the refusal comes before
anything is written. -/
theorem on_createGroup (start : StreamId) :
    (createGroup a b start).on s = s.settle ((s.createGroup a b start).map fun s => ((), s)) := by
  rw [createGroup, on_bind_ok (on_streamOrNew s a), Store.createGroup]
  cases taken : (s.streamOrNew a).groups.contains b with
  | true =>
    have there : s.has a = true := by
      cases here : s.streams.get? a with
      | some st => rw [Store.has, Table.contains, here, Option.isSome_some]
      | none => simp [Store.streamOrNew, here, Stream.empty, Table.contains] at taken
    rw [if_pos there, if_pos rfl, on_bind_error (on_throw _ _), if_pos rfl]
    rfl
  | false =>
    have placed : (s.putStream a Stream.empty).putGroup a (s.streamOrNew a) b (.startingAt start) =
        s.putGroup a (s.streamOrNew a) b (.startingAt start) := by
      simp only [Store.putGroup, Store.putStream, Table.insert_insert]
    rw [if_neg Bool.false_ne_true, if_neg Bool.false_ne_true]
    split
    · rfl
    · exact (on_modify _ _).trans (congrArg (Prod.mk (Except.ok ())) placed)

/-- Work for a group finds the stream first. Nothing is written if the group turns out to be
missing, and if it is there the work is done. -/
theorem on_forGroup {next : Stream → InPlace α} {work : Stream × Group → Except LogError (α × Store)}
    (lacking : s.group? a b = none → ∀ st, (next st).on s = (.error (.groupNotFound a b), s))
    (done : ∀ st g, s.group? a b = some (st, g) → (next st).on s = s.settle (work (st, g))) :
    (stream a b >>= next).on s = s.settle (s.groupOr a b >>= work) := by
  rw [Store.groupOr]
  cases there : s.group? a b with
  | some found =>
    obtain ⟨st, g⟩ := found
    obtain ⟨here, -⟩ := Store.group?_eq_some.1 there
    rw [on_bind_ok (on_stream_ok here)]
    exact done st g there
  | none =>
    cases here : s.streams.get? a with
    | none => exact on_bind_error (on_stream_error here) next
    | some st =>
      rw [on_bind_ok (on_stream_ok here)]
      exact lacking there st

theorem on_deliver (count : Nat) :
    (deliver now a b consumer count).on s = s.settle (s.deliver now a b consumer count) := by
  apply on_forGroup
  · intro missing st
    exact on_bind_error (on_group_error missing) _
  · intro st g there
    rw [on_bind_ok (on_group_ok there), on_bind_ok (on_alter there _), on_bind_ok (on_deliveries ..),
      on_pure]
    rfl

theorem on_replay (after : StreamId) (count : Nat) :
    (replay a b consumer after count).on s = s.settle (s.replay a b consumer after count) := by
  apply on_forGroup
  · intro missing st
    exact on_bind_error (on_alter_error missing _) _
  · intro st g there
    rw [on_bind_ok (on_alter there _), on_bind_ok (on_group_ok (Store.group?_putGroup ..)), on_pure]
    rfl

theorem on_claim (minIdle : Span) (ids : List StreamId) :
    (claim now a b consumer minIdle ids).on s = s.settle (s.claim now a b consumer minIdle ids) := by
  apply on_forGroup
  · intro missing st
    exact on_bind_error (on_alter_error missing _) _
  · intro st g there
    rw [on_bind_ok (on_alter there _), on_claimTurns]
    rfl

theorem on_ack (ids : List StreamId) :
    (ack a b ids).on s = (.ok (s.ack a b ids).1, (s.ack a b ids).2) := by
  rw [Store.ack, ack, on_bind_ok (on_get s)]
  cases there : s.group? a b with
  | none => rfl
  | some found =>
    obtain ⟨st, g⟩ := found
    have turns := on_ackTurns s a b st g ids
    rw [Store.putGroup_self there] at turns
    exact turns

theorem on_pendingEntries (minIdle : Span) (after : StreamId) (count : Nat) :
    (pendingEntries now a b minIdle after count).on s = (s.pendingEntries now a b minIdle after count, s) := by
  rw [Store.pendingEntries, Store.groupOr, pendingEntries]
  cases there : s.group? a b with
  | none => rw [on_bind_error (on_group_error there)]; rfl
  | some found => rw [on_bind_ok (on_group_ok there)]; rfl

theorem on_pendingCount : (pendingCount a b).on s = (s.pendingCount a b, s) := by
  rw [Store.pendingCount, Store.groupOr, pendingCount]
  cases there : s.group? a b with
  | none => rw [on_bind_error (on_group_error there)]; rfl
  | some found => rw [on_bind_ok (on_group_ok there)]; rfl

theorem on_groups : (groups a).on s = (s.groups a, s) := by
  rw [groups, on_bind_ok (on_get s)]
  cases s.groups a with
  | ok infos => rfl
  | error e => rfl

end InPlace

/-- **In place or not**: a call has the same answer and leaves the same store, whether it is
refused or not. -/
theorem LogCall.on_inPlace (c : LogCall) (clock : Clock) (s : Store) :
    (c.inPlace clock).on s = s.perform clock c := by
  cases c with
  | ping => rfl
  | append stream fields maxLen => exact InPlace.on_append s stream clock.wall fields maxLen
  | createGroup stream group start => exact InPlace.on_createGroup s stream group start
  | readNew stream group consumer count block =>
    exact InPlace.on_deliver s stream group clock.now consumer count
  | readPending stream group consumer after count =>
    exact InPlace.on_replay s stream group consumer after count
  | pendingEntries stream group minIdle after count =>
    exact InPlace.on_pendingEntries s stream group clock.now minIdle after count
  | pendingCount stream group => exact InPlace.on_pendingCount s stream group
  | claim stream group consumer minIdle ids =>
    exact InPlace.on_claim s stream group clock.now consumer minIdle ids
  | ack stream group ids => exact InPlace.on_ack s stream group ids
  | len stream => rfl
  | rangeAfter stream after => rfl
  | groups stream => exact InPlace.on_groups s stream

end StreamQueue
