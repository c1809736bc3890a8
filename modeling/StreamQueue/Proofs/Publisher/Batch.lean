import StreamQueue.Proofs.Publisher.Deadline
import StreamQueue.Proofs.Log.Retention

/-!
# Batches

A publisher appends the messages of a batch one after the other, each under a deadline of its own,
and stops at the first one that fails. Here the log is the one in memory, and the calls on it are
hindered: a call may be held back for some time or for ever, and be refused then. A call that is held
back for longer than the deadline allows is given up before it gets to the log, so it is not carried
out later either.

So what a batch has appended is a prefix of its messages: those before the first call that fails. What
the stream retains then is the end of what it retained before and of the prefix. How long the end is
follows from the bound of the publisher, since each append trims; if the first message fails, nothing
is trimmed.

## What is proved

* `Publisher.passing_publish_fine`, `Publisher.passing_publish_fails` — one message of a batch.
* `Publisher.published_batch` — a batch, by induction on its messages.
* `Publisher.publishes_prefix` — what it returns, and what the stream retains.
-/

namespace StreamQueue

attribute [local instance] StreamId.linearOrder

/-- What hinders a call on its way to the log. -/
structure Hitch where
  /-- How long it is held back, unless for ever. -/
  delay : Option Span
  /-- What it is refused with instead of being carried out. -/
  refusal : Option LogError

/-- What a publisher with a deadline makes of an append that is hindered, if it fails. -/
def Hitch.failure (h : Hitch) (limit : Span) : Option QueueError :=
  match h.delay with
  | none => some (.timeout limit)
  | some d => if d ≤ limit then h.refusal.map .publish else some (.timeout limit)

/-- What comes of a call that gets through or is refused. -/
def Hitch.outcome (h : Hitch) (clock : Clock) (c : LogCall) (s : Store) : c.Result × Store :=
  match h.refusal with
  | some e => (.error e, s)
  | none => s.perform clock c

/-- What comes back from a call that is hindered. -/
def Hitch.comeback (h : Hitch) (wall : Instant → Timestamp) (c : LogCall) (t : Instant) (s : Store) :
    Option (Comeback Store c) :=
  h.delay.map fun d =>
    let outcome := h.outcome ⟨t.after d, wall (t.after d)⟩ c s
    ⟨d, outcome.1, outcome.2⟩

/-- The log in memory, with calls that are hindered. One that is given up has not got there. -/
def Service.hindered (hitches : Nat → Hitch) (wall : Instant → Timestamp) : Service Store where
  comeback i c t s := (hitches i).comeback wall c t s
  lost _ s := s
  wall := wall

namespace Job

variable {α β σ : Type}

/-- A passage with something made of the value. -/
def Passage.map (f : α → β) (o : Passage α σ) : Passage β σ :=
  ⟨o.ended.map fun (t, a) => (t, f a), o.calls, o.reports, o.left⟩

/-- To make something of the value of a job takes no time and no call. -/
theorem passing_bind_done (log : Service σ) (f : α → β) (job : Job α)
    (deadline : Option (Instant × (Nat → σ → Passage α σ))) (i : Nat) (t : Instant) (s : σ) :
    (job.bind fun a => done (f a)).passing log
        (deadline.map fun (due, late) => (due, fun i s => (late i s).map f)) i t s =
      (job.passing log deadline i t s).map f := by
  induction job generalizing deadline i t s with
  | done a => rfl
  | call c next ih =>
    have due : (deadline.map fun (due, late) => (due, fun i s => (late i s).map f)).map (·.1) =
        deadline.map (·.1) := by
      cases deadline <;> rfl
    cases back : log.inTime (deadline.map (·.1)) i c t s with
    | some b =>
      rw [bind, passing_call_of_some back, passing_call_of_some (by rw [due]; exact back), ih]
      rfl
    | none =>
      cases deadline with
      | some deadline =>
        rw [Option.map_some, bind, passing_call_of_none back, passing_call_of_none back]
        rfl
      | none =>
        simp only [bind, passing, Option.map_none] at back ⊢
        simp only [back]
        rfl
  | report e rest ih =>
    simp only [bind, passing, ih]
    rfl
  | readWall next ih => exact ih (log.wall t) deadline i t s
  | arm limit late rest ihLate ihRest =>
    have whenLate (i : Nat) (s : σ) := ihLate none i (t.after limit) s
    simp only [Option.map_none] at whenLate
    simp only [bind, passing, whenLate]
    exact ihRest (some (t.after limit, fun i s => late.passing log none i (t.after limit) s)) i t s
  | disarm rest ih => exact ih none i t s

end Job

namespace Publisher

open Job

variable {β : Type} {p : PublisherConfig} {hitches : Nat → Hitch} {i : Nat} {s : Store} {t : Instant}

/-- The call with which a message is appended. -/
def appending (p : PublisherConfig) (message : String) : LogCall :=
  .append p.stream [("msg", message)] p.maxLen

/-! ### One message -/

theorem publish_bind (p : PublisherConfig) (message : String) (f : Except QueueError StreamId → Job β) :
    (publish p message).bind f = arm p.timeout (f (.error (.timeout p.timeout)))
      (call (appending p message) fun r => disarm (f (r.mapError .publish))) := by
  rw [publish, timed_eq]
  rfl

/-- A message that does not fail is appended, at some instant. -/
theorem passing_publish_fine (fine : (hitches i).failure p.timeout = none) (wall : Instant → Timestamp)
    (message : String) (f : Except QueueError StreamId → Job β) (t : Instant) (s : Store) :
    ∃ clock : Clock, clock.wall = wall clock.now ∧
      ((publish p message).bind f).passing (.hindered hitches wall) none i t s =
        ((f (.ok ((s.streamOrNew p.stream).nextId clock.wall))).passing (.hindered hitches wall) none (i + 1)
          clock.now (s.perform clock (appending p message)).2).behind t (appending p message) := by
  cases held : (hitches i).delay with
  | none => simp [Hitch.failure, held] at fine
  | some d =>
    by_cases early : d ≤ p.timeout
    · have allowed : (hitches i).refusal = none := by simpa [Hitch.failure, held, early] using fine
      have back : (Service.hindered hitches wall).inTime (some (t.after p.timeout)) i (appending p message) t s =
          some ⟨d, (s.perform ⟨t.after d, wall (t.after d)⟩ (appending p message)).1,
            (s.perform ⟨t.after d, wall (t.after d)⟩ (appending p message)).2⟩ := by
        refine Service.inTime_eq_some ?_ (Nat.add_le_add_left early _)
        simp only [Service.hindered, Hitch.comeback, Hitch.outcome, held, allowed, Option.map_some]
      refine ⟨⟨t.after d, wall (t.after d)⟩, rfl, ?_⟩
      rw [publish_bind, passing, passing_call_of_some back]
      rfl
    · simp [Hitch.failure, held, early] at fine

/-- A message that fails is not appended, now or later. -/
theorem passing_publish_fails {e : QueueError} (fails : (hitches i).failure p.timeout = some e)
    (wall : Instant → Timestamp) (message : String) (f : Except QueueError StreamId → Job β) (t : Instant)
    (s : Store) :
    ∃ t', ((publish p message).bind f).passing (.hindered hitches wall) none i t s =
      ((f (.error e)).passing (.hindered hitches wall) none (i + 1) t' s).behind t (appending p message) := by
  have missed (late : e = .timeout p.timeout)
      (past : ∀ d, (hitches i).delay = some d → p.timeout < d) :
      ((publish p message).bind f).passing (.hindered hitches wall) none i t s =
        ((f (.error e)).passing (.hindered hitches wall) none (i + 1) (t.after p.timeout) s).behind t
          (appending p message) := by
    have never : (Service.hindered hitches wall).inTime (some (t.after p.timeout)) i (appending p message) t s =
        none := by
      refine Service.inTime_eq_none ?_
      intro b back
      obtain ⟨d, held, rfl⟩ := Option.map_eq_some_iff.1 back
      exact Nat.add_lt_add_left (past d held) _
    rw [publish_bind, passing, passing_call_of_none never, late]
    rfl
  cases held : (hitches i).delay with
  | none =>
    rw [Hitch.failure, held] at fails
    exact ⟨_, missed (Option.some.inj fails).symm (by simp [held])⟩
  | some d =>
    rw [Hitch.failure, held] at fails
    by_cases early : d ≤ p.timeout
    · simp only [if_pos early] at fails
      obtain ⟨refused, refusal, rfl⟩ := Option.map_eq_some_iff.1 fails
      have back : (Service.hindered hitches wall).inTime (some (t.after p.timeout)) i (appending p message) t s =
          some ⟨d, .error refused, s⟩ := by
        refine Service.inTime_eq_some ?_ (Nat.add_le_add_left early _)
        simp only [Service.hindered, Hitch.comeback, Hitch.outcome, held, refusal, Option.map_some]
      refine ⟨t.after d, ?_⟩
      rw [publish_bind, passing, passing_call_of_some back]
      rfl
    · simp only [if_neg early] at fails
      refine ⟨_, missed (Option.some.inj fails).symm ?_⟩
      intro d' same
      rw [← Option.some.inj (held.symm.trans same)]
      exact Nat.not_le.1 early

/-! ### The messages one after the other -/

/-- The identifiers with which appends to a stream are answered. -/
def answeredIds (s : Store) (stream : String) (posts : List TimedCall) : List StreamId :=
  ((s.history posts).postings stream).map (·.id)

theorem postings_cons (p : PublisherConfig) (s : Store) (clock : Clock) (message : String)
    (posts : List TimedCall) :
    (s.history (⟨clock, appending p message⟩ :: posts)).postings p.stream =
      ⟨clock.wall, [("msg", message)], p.maxLen, (s.streamOrNew p.stream).nextId clock.wall⟩ ::
        ((s.perform clock (appending p message)).2.history posts).postings p.stream := by
  have first : (⟨s, clock, appending p message⟩ : Act).postings p.stream = [_] := Act.postings_of_append rfl
  rw [Store.history, History.postings, List.flatMap_cons, first]
  rfl

/-- Each message is appended as the one field of an entry, with the bound of the publisher. -/
theorem postings_of_posted {messages : List String} {posts : List TimedCall} {s : Store}
    (posted : posts.map (·.call) = messages.map (appending p)) :
    ((s.history posts).postings p.stream).map (·.maxLen) = List.replicate messages.length p.maxLen ∧
      ((s.history posts).postings p.stream).map (·.entry) =
        List.zipWith (fun id message => ⟨id, Table.ofList [("msg", message)]⟩) (answeredIds s p.stream posts)
          messages := by
  induction messages generalizing posts s with
  | nil =>
    rw [List.map_nil, List.map_eq_nil_iff] at posted
    subst posted
    exact ⟨rfl, rfl⟩
  | cons message messages ih =>
    obtain ⟨⟨clock, c⟩, rest, rfl, rfl, others⟩ := List.map_eq_cons_iff.1 posted
    obtain ⟨bounds, entries⟩ := ih (s := (s.perform clock (appending p message)).2) others
    rw [answeredIds, postings_cons]
    constructor
    · rw [List.map_cons, bounds, List.length_cons, List.replicate_succ]
    · rw [List.map_cons, entries, List.map_cons, List.zipWith_cons_cons]
      rfl

/-- What has become of a batch of which `n` messages were appended, the calls being counted from the
`i`-th on. -/
structure Published (p : PublisherConfig) (hitches : Nat → Hitch) (wall : Instant → Timestamp) (s : Store)
    (i : Nat) (messages : List String) (n : Nat) (posts : List TimedCall)
    (o : Passage (Except QueueError (List StreamId)) Store) : Prop where
  few : n ≤ messages.length
  /-- The messages before the `n`-th do not fail. -/
  fine : ∀ k < n, (hitches (i + k)).failure p.timeout = none
  /-- They were appended, in order, and nothing else was done. -/
  posted : posts.map (·.call) = (messages.take n).map (appending p)
  left : o.left = s.afterAll posts
  /-- Each of them found the wall clock as it is at its instant. -/
  clocked : ∀ c ∈ posts, c.clock.wall = wall c.clock.now
  /-- The message that failed was the last for which a call was made. -/
  calls : o.calls.map (·.2) = (messages.take (n + 1)).map (appending p)
  all : n = messages.length →
    o.ended.map (·.2) = some (.ok (answeredIds s p.stream posts)) ∧ o.reports = []
  stopped : n < messages.length → ∃ e, (hitches (i + n)).failure p.timeout = some e ∧
    o.ended.map (·.2) = some (.error e) ∧ o.reports = [.publishingStopped (i + n) e]

/-- What a publisher does once a message of a batch was appended or has failed. -/
def onward (p : PublisherConfig) (i : Nat) (messages : List String) :
    Except QueueError StreamId → Job (Except QueueError (List StreamId))
  | .ok id => (publishFrom p (i + 1) messages).bind fun r => done (r.map (id :: ·))
  | .error e => report (.publishingStopped i e) (done (.error e))

theorem publishFrom_cons (p : PublisherConfig) (i : Nat) (message : String) (messages : List String) :
    publishFrom p i (message :: messages) = (publish p message).bind (onward p i messages) := by
  refine congrArg (publish p message).bind (funext fun r => ?_)
  cases r <;> rfl

/-- No message of an empty batch fails. -/
theorem published_nil (p : PublisherConfig) (hitches : Nat → Hitch) (wall : Instant → Timestamp) (s : Store)
    (i : Nat) (t : Instant) : Published p hitches wall s i [] 0 [] ⟨some (t, .ok []), [], [], s⟩ where
  few := Nat.le_refl 0
  fine := fun k before => absurd before (Nat.not_lt_zero k)
  posted := rfl
  left := rfl
  clocked := fun _ mem => absurd mem List.not_mem_nil
  calls := rfl
  all := fun _ => ⟨rfl, rfl⟩
  stopped := fun more => absurd more (Nat.lt_irrefl 0)

/-- Behind a message that fails no other is tried. -/
theorem published_fails {e : QueueError} (fails : (hitches i).failure p.timeout = some e) (message : String)
    (messages : List String) (t' : Instant) (wall : Instant → Timestamp) :
    Published p hitches wall s i (message :: messages) 0 []
      ⟨some (t', .error e), [(t, appending p message)], [.publishingStopped i e], s⟩ where
  few := Nat.zero_le _
  fine := fun k before => absurd before (Nat.not_lt_zero k)
  posted := rfl
  left := rfl
  clocked := fun _ mem => absurd mem List.not_mem_nil
  calls := rfl
  all := fun whole => absurd whole (Nat.succ_ne_zero _).symm
  stopped := fun _ => ⟨e, fails, rfl, rfl⟩

/-- One message more, which does not fail. -/
theorem Published.cons {wall : Instant → Timestamp} (fine : (hitches i).failure p.timeout = none)
    {message : String} {clock : Clock} (shows : clock.wall = wall clock.now) {messages : List String} {n : Nat}
    {posts : List TimedCall} {o : Passage (Except QueueError (List StreamId)) Store}
    (rest : Published p hitches wall (s.perform clock (appending p message)).2 (i + 1) messages n posts o) :
    Published p hitches wall s i (message :: messages) (n + 1) (⟨clock, appending p message⟩ :: posts)
      ((o.map fun r => r.map (((s.streamOrNew p.stream).nextId clock.wall) :: ·)).behind t
        (appending p message)) := by
  have later (k : Nat) : i + (k + 1) = i + 1 + k := by omega
  constructor
  case few => exact Nat.succ_le_succ rest.few
  case fine =>
    intro k before
    cases k with
    | zero => exact fine
    | succ k =>
      rw [later]
      exact rest.fine k (by omega)
  case posted =>
    rw [List.map_cons, List.take_succ_cons, List.map_cons, rest.posted]
  case left => exact rest.left
  case clocked => exact List.forall_mem_cons.2 ⟨shows, rest.clocked⟩
  case calls =>
    rw [List.take_succ_cons, List.map_cons, ← rest.calls]
    rfl
  case all =>
    intro whole
    obtain ⟨ended, quiet⟩ := rest.all (Nat.succ.inj whole)
    obtain ⟨⟨t', r⟩, is, rfl⟩ := Option.map_eq_some_iff.1 ended
    refine ⟨?_, quiet⟩
    simp only [Passage.behind, Passage.map, is, Option.map_some, answeredIds, postings_cons]
    rfl
  case stopped =>
    intro short
    obtain ⟨e, fails, ended, told⟩ := rest.stopped (Nat.lt_of_succ_lt_succ short)
    obtain ⟨⟨t', r⟩, is, rfl⟩ := Option.map_eq_some_iff.1 ended
    rw [later]
    refine ⟨e, fails, ?_, told⟩
    simp only [Passage.behind, Passage.map, is, Option.map_some]
    rfl

/-- **A batch** appends the messages before the first that fails. -/
theorem published_batch (p : PublisherConfig) (hitches : Nat → Hitch) (wall : Instant → Timestamp)
    (messages : List String) (i : Nat) (t : Instant) (s : Store) :
    ∃ n posts, Published p hitches wall s i messages n posts
      ((publishFrom p i messages).passing (.hindered hitches wall) none i t s) := by
  induction messages generalizing i t s with
  | nil => exact ⟨0, [], published_nil p hitches wall s i t⟩
  | cons message messages ih =>
    rw [publishFrom_cons]
    cases failure : (hitches i).failure p.timeout with
    | some e =>
      obtain ⟨t', is⟩ := passing_publish_fails failure wall message (onward p i messages) t s
      rw [is]
      exact ⟨0, [], published_fails failure message messages t' wall⟩
    | none =>
      obtain ⟨clock, shows, is⟩ := passing_publish_fine failure wall message (onward p i messages) t s
      obtain ⟨n, posts, rest⟩ := ih (i + 1) clock.now (s.perform clock (appending p message)).2
      rw [is]
      refine ⟨n + 1, ⟨clock, appending p message⟩ :: posts, ?_⟩
      have whole := passing_bind_done (.hindered hitches wall) (fun r : Except QueueError (List StreamId) =>
        r.map ((s.streamOrNew p.stream).nextId clock.wall :: ·)) (publishFrom p (i + 1) messages) none (i + 1)
        clock.now (s.perform clock (appending p message)).2
      rw [Option.map_none] at whole
      rw [onward, whole]
      exact rest.cons failure shows

/-- **A batch writes a prefix**: take any messages, any log in memory, and anything that may hinder the
calls. A batch appends, in order and each as the one field of an entry, the messages before the first
whose append is refused, never comes back or takes longer than the publisher's deadline; no call is
made for a later one. If there is no such message it returns the identifiers, one for each message;
otherwise it reports how many messages it has appended and returns why it has stopped. The identifiers
are in increasing order and past the last one of the stream, as long as there is room for them. If
nothing was appended the log is as it was; otherwise the stream retains the end of what it retained
before and of the prefix, by the bound of the publisher. -/
theorem publishes_prefix (p : PublisherConfig) (messages : List String) (hitches : Nat → Hitch)
    (wall : Instant → Timestamp) (start : Instant) (s : Store) :
    let o := (publishBatch p messages).passing (.hindered hitches wall) none 0 start s
    ∃ n posts, Published p hitches wall s 0 messages n posts o ∧
      let ids := answeredIds s p.stream posts
      ids.length = n ∧
      (s.Roomy posts → ids.Pairwise (· < ·) ∧ ∀ id ∈ ids, (s.streamOrNew p.stream).lastId < id) ∧
      (n = 0 → o.left = s) ∧
      (0 < n → o.left.entries p.stream =
        Stream.lastOf (min ((s.entries p.stream).length + n) p.maxLen)
          (s.entries p.stream ++
            List.zipWith (fun id message => ⟨id, Table.ofList [("msg", message)]⟩) ids (messages.take n))) := by
  intro o
  obtain ⟨n, posts, published⟩ : ∃ n posts, Published p hitches wall s 0 messages n posts o :=
    published_batch p hitches wall messages 0 start s
  obtain ⟨bounds, entries⟩ := postings_of_posted (s := s) published.posted
  have count : (messages.take n).length = n := by
    rw [List.length_take]
    exact min_eq_left published.few
  rw [count] at bounds
  refine ⟨n, posts, published, ?length, ?order, ?nothing, ?appended⟩
  case length =>
    have counted := congrArg List.length bounds
    rw [List.length_map, List.length_replicate] at counted
    rw [answeredIds, List.length_map, counted]
  case order =>
    intro room
    have fits : ∀ a ∈ s.history posts, a.postings p.stream ≠ [] → a.HasRoom := fun a ha _ => room a ha
    obtain ⟨increasing, later⟩ := Store.increasing_afterAll fits
    refine ⟨increasing, ?_⟩
    intro id hid
    obtain ⟨q, hq, rfl⟩ := List.mem_map.1 hid
    exact (later q hq).1
  case nothing =>
    rintro rfl
    have empty : posts = [] := by simpa using published.posted
    rw [published.left, empty]
    rfl
  case appended =>
    intro positive
    obtain ⟨k, rfl⟩ := Nat.exists_eq_succ_of_ne_zero (Nat.ne_of_gt positive)
    rw [published.left, Store.entries_afterAll, bounds, entries, Stream.kept_replicate_succ]

/-- Of four calls the second is back when the deadline comes, and the third is held back for longer. -/
def thirdHeldBack : Nat → Hitch
  | 1 => ⟨some defaultTimeout, none⟩
  | 2 => ⟨some (.ofSeconds 6), none⟩
  | _ => ⟨some .zero, none⟩

/-- Two messages are appended, of which the bound leaves one. -/
theorem publishes_prefix_thirdHeldBack :
    let p : PublisherConfig := ⟨"jobs", 1, defaultTimeout⟩
    let o := (publishBatch p ["a", "b", "c", "d"]).passing (.hindered thirdHeldBack fun _ => ⟨0⟩) none 0 .zero
      Store.empty
    ∃ posts, posts.map (·.call) = [.append "jobs" [("msg", "a")] 1, .append "jobs" [("msg", "b")] 1] ∧
      Store.empty.Roomy posts ∧ (answeredIds Store.empty "jobs" posts).Pairwise (· < ·) ∧
      o.ended.map (·.2) = some (.error (.timeout defaultTimeout)) ∧ (o.left.entries "jobs").length = 1 := by
  intro p o
  obtain ⟨n, posts, published, length, order, -, retained⟩ := publishes_prefix p ["a", "b", "c", "d"] thirdHeldBack
    (fun _ => ⟨0⟩) .zero Store.empty
  have two : n = 2 := by
    have few : n ≤ 4 := published.few
    have third : (thirdHeldBack 2).failure defaultTimeout = some (.timeout defaultTimeout) := by decide
    -- The third message fails, and the two before it do not.
    rcases Nat.lt_trichotomy n 2 with less | same | more
    · have short : n < 4 := by omega
      obtain ⟨e, fails, -⟩ := published.stopped short
      have fine : (thirdHeldBack (0 + n)).failure defaultTimeout = none := by
        interval_cases n <;> decide
      rw [fine] at fails
      cases fails
    · exact same
    · rw [published.fine 2 more] at third
      cases third
  subst two
  have room : Store.empty.Roomy posts := by
    refine Store.roomy_of_bound (n := 0)
      (fun _ => (Nat.le_of_eq StreamId.position_zero).trans (Nat.zero_le _)) ?_ ?_
    · intro c hc
      rw [published.clocked c hc]
      decide
    · have count := congrArg List.length published.posted
      rw [List.length_map] at count
      rw [count]
      decide
  obtain ⟨e, fails, ended, -⟩ := published.stopped (by decide)
  obtain rfl : QueueError.timeout defaultTimeout = e := Option.some.inj fails
  refine ⟨posts, published.posted, room, (order room).1, ended, ?_⟩
  rw [retained (by decide), Stream.length_lastOf, List.length_append, List.length_zipWith, length]
  rfl

end Publisher

end StreamQueue
