import StreamQueue.Consumer.Run
import StreamQueue.Proofs.Log.InPlace
import StreamQueue.Proofs.Log.Refusal
import StreamQueue.Proofs.Publisher.Backlog

/-!
# Starting where a group is there

A consumer that starts creates its group, and takes the refusal for as good as the creation. So it
may start at any time, and any number of times, if a refusal leaves nothing behind. That is so for
the store as a value, which a refused call does not give back, and it is so for a store that is
written in place (`StreamQueue.Proofs.Log.InPlace`): every look that can fail comes before the first
write.

When the group is there, nothing tells whether a consumer has started once more: the histories with
any number of such starts and without them have the same acts, starts apart.

## What is proved

* `Demand.meet_init` — to create the group of a consumer where it is there is to do nothing.
* `Store.record_interspersed`, `Store.behind_interspersed` — further starts change no answer and
  leave the same store.
* `Store.refusals_leave_no_trace` — this, and that a refused call changes nothing, whether it is
  made once, made again and again by a read that waits, or carried out in place.
-/

namespace StreamQueue

/-! ### What clients ask of a log -/

/-- The second list is the first with elements of a kind put in. -/
inductive Interspersed {α : Type} (Extra : α → Prop) : List α → List α → Prop
  | nil : Interspersed Extra [] []
  | keep (a : α) {l l' : List α} (rest : Interspersed Extra l l') : Interspersed Extra (a :: l) (a :: l')
  | extra {a : α} {l l' : List α} (more : Extra a) (rest : Interspersed Extra l l') :
    Interspersed Extra l (a :: l')

namespace Job

variable {α : Type}

/-- What a job leaves of the store at which it began. -/
def Outing.left (o : Outing α) (s : Store) : Store := o.acts.foldl (fun _ act => act.2.left) s

/-- To report takes no part of the log. -/
theorem among_tellAll (turns : Nat → Turn) (late : Option (Nat → Store → Outing α)) (i : Nat) (s : Store)
    (events : List Event) (rest : Job α) :
    ((events.forM tell).bind fun _ => rest).among turns late i s = rest.among turns late i s := by
  induction events with
  | nil => rfl
  | cons e events ih => exact ih

end Job

/-- What clients ask of a log. -/
inductive Demand
  /-- A call. -/
  | call (c : TimedCall)
  /-- To create the group of a consumer. -/
  | init (cfg : ConsumerConfig) (clock : Clock)
  deriving DecidableEq, Repr

/-- What comes of a demand. -/
inductive Demand.Outcome
  /-- A call was carried out, at the store and with the answer that the act says. -/
  | acted (a : Act)
  /-- The creation of a group has ended. -/
  | ready (result : Except QueueError Unit)

namespace Demand

/-- The demand creates the group of a consumer. -/
def Inits (cfg : ConsumerConfig) (d : Demand) : Prop := ∃ clock, d = .init cfg clock

/-- What comes of a demand, and the store behind it. -/
def meet (s : Store) : Demand → Outcome × Store
  | .call c => (.acted ⟨s, c.clock, c.call⟩, (s.perform c.clock c.call).2)
  | .init cfg clock =>
    let o := (Consumer.initGroup cfg).among (fun _ => ⟨[], clock, false⟩) none 0 s
    (.ready o.value, o.left s)

end Demand

namespace Store

/-- The demands on a store, each with what comes of it. -/
def record (s : Store) : List Demand → List (Demand × Demand.Outcome)
  | [] => []
  | d :: ds => (d, (d.meet s).1) :: (d.meet s).2.record ds

/-- The store behind demands. -/
def behind (s : Store) (ds : List Demand) : Store := ds.foldl (fun s d => (d.meet s).2) s

end Store

namespace Demand

variable {s : Store}

/-- To create the group of a consumer takes one call, and a refusal because it is there is as
good as the creation. -/
theorem meet_init_eq (s : Store) (cfg : ConsumerConfig) (clock : Clock) :
    (Demand.init cfg clock).meet s =
      let answer := s.perform clock (Consumer.groupCall cfg)
      (.ready ((Consumer.groupOutcome cfg answer.1).map fun _ => ()), answer.2) := by
  simp only [meet, Consumer.initGroup, Job.ask, bind, Job.bind, Job.among, Store.afterAll, List.foldl_nil,
    Act.result]
  cases Consumer.groupOutcome cfg (s.perform clock (Consumer.groupCall cfg)).1 with
  | error e => rfl
  | ok events =>
    simp only [Job.among_tellAll]
    rfl

/-- **To create a group that is there** is to do nothing, and it goes well. -/
theorem meet_init {cfg : ConsumerConfig} (there : s.HasGroup cfg.stream cfg.group) (clock : Clock) :
    (Demand.init cfg clock).meet s = (.ready (.ok ()), s) := by
  have refused : (s.perform clock (Consumer.groupCall cfg)).1 = .error (.groupExists cfg.stream cfg.group) :=
    Store.perform_eq_error_iff.2 (.groupThere _ there)
  rw [meet_init_eq]
  simp only [refused, Store.perform_refused refused, Consumer.groupOutcome, LogError.isGroupExists, if_true]
  rfl

/-- A group stays, whatever is demanded. -/
theorem hasGroup_meet {stream group : String} (there : s.HasGroup stream group) (d : Demand) :
    (d.meet s).2.HasGroup stream group := by
  cases d with
  | call c => exact there.perform c.clock c.call
  | init cfg clock =>
    rw [meet_init_eq]
    exact there.perform clock (Consumer.groupCall cfg)

end Demand

namespace Store

variable {s : Store} {cfg : ConsumerConfig} {ds ds' : List Demand}

theorem behind_interspersed (there : s.HasGroup cfg.stream cfg.group)
    (more : Interspersed (Demand.Inits cfg) ds ds') : s.behind ds' = s.behind ds := by
  induction more generalizing s with
  | nil => rfl
  | keep d rest ih => exact ih (d.hasGroup_meet there)
  | extra inits rest ih =>
    obtain ⟨clock, rfl⟩ := inits
    rw [behind, List.foldl_cons, Demand.meet_init there]
    exact ih there

theorem record_interspersed (there : s.HasGroup cfg.stream cfg.group)
    (more : Interspersed (Demand.Inits cfg) ds ds') :
    Interspersed (fun r => r.1.Inits cfg ∧ r.2 = .ready (.ok ())) (s.record ds) (s.record ds') := by
  induction more generalizing s with
  | nil => exact .nil
  | keep d rest ih => exact .keep _ (ih (d.hasGroup_meet there))
  | extra inits rest ih =>
    obtain ⟨clock, rfl⟩ := inits
    rw [record, Demand.meet_init there]
    exact .extra ⟨⟨clock, rfl⟩, rfl⟩ (ih there)

/-- **Refusals leave no trace**, at any store that a history may come to, and at any other.

A call is refused exactly when a group or a stream that it needs is missing, or a group that it
creates is there, and the refusal says which. Then the store is as it was, and so is a store that is
written in place. A read that waits is refused at its first look or never.

Where the group of a consumer is there, to create it goes well and does nothing: the demands of any
clients, with any number of such creations put in and without them, come to the same answers and
leave the same store. -/
theorem refusals_leave_no_trace (s : Store) :
    (∀ (clock : Clock) (c : LogCall) (e : LogError),
      ((s.perform clock c).1 = .error e ↔ s.Refuses c e) ∧
      (s.Refuses c e → (s.perform clock c).2 = s ∧ (c.inPlace clock).on s = (.error e, s))) ∧
    (∀ (r : ReadRequest) (now : Instant) (feed : Feed),
      (∀ e, (r.attempt now feed s).1 = .ended (.error e) → (r.attempt now feed s).2 = s) ∧
      ∀ receiver, (r.attempt now feed s).1 = .waiting receiver →
        ∀ (cs : List TimedCall) (later : Instant) (fed : Feed) (receives : Receiver) (e : LogError),
          (r.resume later fed receives ((r.attempt now feed s).2.afterAll cs)).1 ≠ .ended (.error e)) ∧
    ∀ cfg : ConsumerConfig, s.HasGroup cfg.stream cfg.group →
      (∀ clock, (Demand.init cfg clock).meet s = (.ready (.ok ()), s)) ∧
      ∀ ds ds', Interspersed (Demand.Inits cfg) ds ds' →
        Interspersed (fun r => r.1.Inits cfg ∧ r.2 = .ready (.ok ())) (s.record ds) (s.record ds') ∧
        s.behind ds' = s.behind ds := by
  refine ⟨?calls, ?reads, ?starts⟩
  case calls =>
    intro clock c e
    refine ⟨perform_eq_error_iff, ?_⟩
    intro refuses
    have refused : (s.perform clock c).1 = .error e := perform_eq_error_iff.2 refuses
    refine ⟨perform_refused refused, ?_⟩
    rw [LogCall.on_inPlace]
    exact Prod.ext refused (perform_refused refused)
  case reads =>
    intro r now feed
    constructor
    · intro e refused
      exact ReadRequest.attempt_refused refused
    · intro receiver begun cs later fed receives e
      exact ReadRequest.resume_ne_error_of_waiting begun cs later fed e
  case starts =>
    intro cfg there
    refine ⟨Demand.meet_init there, ?_⟩
    intro ds ds' more
    exact ⟨record_interspersed there more, behind_interspersed there more⟩

/-- A worker has read one of two jobs. -/
def atWork : Store := empty.afterAll [
  .atMilli 1 (.createGroup "jobs" "workers" .zero), .atMilli 2 (.append "jobs" [] 9),
  .atMilli 3 (.append "jobs" [] 9), .atMilli 4 (.readNew "jobs" "workers" "ann" 1 none)]

/-- A claim for a group that is missing, a read for one, and a read that waits; and a worker who
reads the second job and acknowledges it while another one starts twice. -/
theorem refusals_leave_no_trace_startedAgain :
    let cfg := Consumer.config "jobs" "workers"
    let start (ms : Nat) : Demand := .init cfg (TimedCall.atMilli ms .ping).clock
    let read : Demand := .call (.atMilli 6 (.readNew "jobs" "workers" "ann" 1 none))
    let ack : Demand := .call (.atMilli 8 (.ack "jobs" "workers" [⟨2, 0⟩]))
    let stray : ReadRequest := ⟨"jobs", "auditors", "eve", 1, none⟩
    let idle : ReadRequest := ⟨"jobs", "workers", "bob", 0, none⟩
    (atWork.Refuses (.claim "jobs" "auditors" "eve" .zero []) (.groupNotFound "jobs" "auditors") ∧
      (atWork.perform ⟨⟨5⟩, ⟨5⟩⟩ (.claim "jobs" "auditors" "eve" .zero [])).2 = atWork) ∧
    ((stray.attempt ⟨5⟩ .empty atWork).1 = .ended (.error (.groupNotFound "jobs" "auditors")) ∧
      (stray.attempt ⟨5⟩ .empty atWork).2 = atWork) ∧
    ((idle.attempt ⟨5⟩ .empty atWork).1 = .waiting Feed.empty.subscribe ∧
      ∀ e, (idle.resume ⟨6⟩ .empty Feed.empty.subscribe (idle.attempt ⟨5⟩ .empty atWork).2).1 ≠
        .ended (.error e)) ∧
    atWork.HasGroup "jobs" "workers" ∧ (start 5).meet atWork = (.ready (.ok ()), atWork) ∧
    Interspersed (Demand.Inits cfg) [read, ack] [start 5, read, start 7, ack] ∧
    atWork.behind [start 5, read, start 7, ack] = atWork.behind [read, ack] := by
  intro cfg start read ack stray idle
  obtain ⟨calls, reads, starts⟩ := refusals_leave_no_trace atWork
  have refuses : atWork.Refuses (.claim "jobs" "auditors" "eve" .zero []) (.groupNotFound "jobs" "auditors") :=
    .groupMissing rfl (by decide)
  have refused : (stray.attempt ⟨5⟩ .empty atWork).1 = .ended (.error (.groupNotFound "jobs" "auditors")) :=
    ReadRequest.attempt_eq_error_iff.2 ⟨by decide, rfl⟩
  have begun : (idle.attempt ⟨5⟩ .empty atWork).1 = .waiting Feed.empty.subscribe := by cbv
  have there : atWork.HasGroup "jobs" "workers" := by decide
  have more : Interspersed (Demand.Inits cfg) [read, ack] [start 5, read, start 7, ack] :=
    .extra ⟨_, rfl⟩ (.keep read (.extra ⟨_, rfl⟩ (.keep ack .nil)))
  obtain ⟨again, put⟩ := starts cfg there
  refine ⟨⟨refuses, ?_⟩, ⟨refused, ?_⟩, ⟨begun, ?_⟩, there, again _, more, (put _ _ more).2⟩
  · exact ((calls _ _ _).2 refuses).1
  · exact (reads stray ⟨5⟩ .empty).1 _ refused
  · exact (reads idle ⟨5⟩ .empty).2 _ begun [] ⟨6⟩ .empty _

end Store

end StreamQueue
