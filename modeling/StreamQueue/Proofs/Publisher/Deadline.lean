import StreamQueue.Proofs.Publisher.Backlog

/-!
# Deadlines of a publisher

A publisher puts each of its operations under one deadline, however many calls the operation makes.
Whether it meets the deadline depends on how long the calls take, so here is time: a call that is
made at an instant comes back in some time or never, and nothing else takes any time. Somebody who
waits under a deadline goes on when the answer is there or when the deadline has come, and an answer
that is there at that very instant is in time.

Since the deadline is for the whole operation, it is the time of all calls together that counts, and
no call is made any more once the deadline has come. A refusal of the log ends the operation at once,
and the calls behind it are not made and take no time.

## What is proved

* `Job.covered_of_course` — a job under a deadline, by the calls that it makes and the answers that
  it is given.
* `Publisher.deadlines_cover` — this of an append and of a look at the backlog, with what each makes
  of a refusal.
-/

namespace StreamQueue

/-- What comes back from a call: when, with which answer, and what the log is then. -/
structure Comeback (σ : Type) (c : LogCall) where
  after : Span
  result : c.Result
  left : σ

/-- A log in virtual time. The calls of a job are counted; each that is made at an instant comes back
some time later or never. -/
structure Service (σ : Type) where
  comeback : Nat → (c : LogCall) → Instant → σ → Option (Comeback σ c)
  /-- What the log is when the call was given up instead. -/
  lost : LogCall → σ → σ
  wall : Instant → Timestamp

namespace Service

variable {σ : Type}

/-- What comes back from a call, unless it comes too late. -/
def inTime (log : Service σ) (due : Option Instant) (i : Nat) (c : LogCall) (t : Instant) (s : σ) :
    Option (Comeback σ c) :=
  (log.comeback i c t s).filter fun b => due.all fun due => decide (t.after b.after ≤ due)

section InTime

variable {log : Service σ} {due : Instant} {i : Nat} {c : LogCall} {t : Instant} {s : σ}

theorem inTime_eq_some {b : Comeback σ c} (back : log.comeback i c t s = some b)
    (early : t.after b.after ≤ due) : log.inTime (some due) i c t s = some b := by
  rw [inTime, back, Option.filter_some, Option.all_some, if_pos (decide_eq_true early)]

/-- Without a deadline no call is too late. -/
theorem inTime_none (log : Service σ) (i : Nat) (c : LogCall) (t : Instant) (s : σ) :
    log.inTime none i c t s = log.comeback i c t s := by
  rw [inTime]
  cases log.comeback i c t s <;> rfl

theorem inTime_eq_none (past : ∀ b, log.comeback i c t s = some b → due < t.after b.after) :
    log.inTime (some due) i c t s = none := by
  rw [inTime, Option.filter_eq_none_iff]
  intro b back
  rw [Option.all_some, decide_eq_true_eq]
  exact Nat.not_le.2 (past b back)

end InTime

/-- A log whose calls take given times and bring given answers. -/
def scripted (delays : Nat → Option Span) (answers : Nat → (c : LogCall) → c.Result)
    (wall : Instant → Timestamp) : Service Unit :=
  ⟨fun i c _ s => (delays i).map fun d => ⟨d, answers i c, s⟩, fun _ s => s, wall⟩

end Service

namespace Job

/-- What has become of a job in virtual time. -/
structure Passage (α σ : Type) where
  /-- When it has ended, and with which value, unless it waits for ever. -/
  ended : Option (Instant × α)
  /-- The calls that it has made, in order, each with its instant. -/
  calls : List (Instant × LogCall)
  reports : List Event
  /-- What the log is in the end. -/
  left : σ

variable {α β σ : Type}

/-- A passage with a call before it. -/
def Passage.behind (t : Instant) (c : LogCall) (o : Passage α σ) : Passage α σ :=
  { o with calls := (t, c) :: o.calls }

/-- A job in virtual time from its `i`-th call on, with the deadline that it stands under and what
it does from there if the deadline comes. -/
def passing (log : Service σ) :
    Job α → Option (Instant × (Nat → σ → Passage α σ)) → Nat → Instant → σ → Passage α σ
  | done a, _, _, t, s => ⟨some (t, a), [], [], s⟩
  | call c next, deadline, i, t, s =>
    Passage.behind t c <|
      match log.inTime (deadline.map (·.1)) i c t s with
      | some b => (next b.result).passing log deadline (i + 1) (t.after b.after) b.left
      | none => match deadline with
        | some (_, late) => late (i + 1) (log.lost c s)
        | none => ⟨none, [], [], log.lost c s⟩
  | report e rest, deadline, i, t, s =>
    let o := rest.passing log deadline i t s
    { o with reports := e :: o.reports }
  | readWall next, deadline, i, t, s => (next (log.wall t)).passing log deadline i t s
  | arm limit late rest, _, i, t, s =>
    rest.passing log (some (t.after limit, fun i s => late.passing log none i (t.after limit) s)) i t s
  | disarm rest, _, i, t, s => rest.passing log none i t s

section Call

variable {log : Service σ} {c : LogCall} {next : c.Result → Job α} {i : Nat} {t due : Instant} {s : σ}
  {late : Nat → σ → Passage α σ}

/-- After a call that is in time the job goes on. -/
theorem passing_call_of_some {deadline : Option (Instant × (Nat → σ → Passage α σ))} {b : Comeback σ c}
    (back : log.inTime (deadline.map (·.1)) i c t s = some b) :
    (call c next).passing log deadline i t s =
      ((next b.result).passing log deadline (i + 1) (t.after b.after) b.left).behind t c := by
  rcases deadline with _ | ⟨due, late⟩
  · simp only [passing, Option.map_none] at back ⊢
    simp only [back]
  · simp only [passing, Option.map_some] at back ⊢
    simp only [back]

/-- A call that is too late is given up. -/
theorem passing_call_of_none (missed : log.inTime (some due) i c t s = none) :
    (call c next).passing log (some (due, late)) i t s = (late (i + 1) (log.lost c s)).behind t c := by
  simp only [passing, Option.map_some, missed]

/-- Without a deadline, a call that never comes back is waited for for ever. -/
theorem passing_call_of_hung (never : log.inTime none i c t s = none) :
    (call c next).passing log none i t s = ⟨none, [(t, c)], [], log.lost c s⟩ := by
  simp only [passing, Option.map_none, never]
  rfl

end Call

theorem bind_assoc {γ : Type} (job : Job α) (f : α → Job β) (g : β → Job γ) :
    (job.bind f).bind g = job.bind fun a => (f a).bind g := by
  induction job with
  | done a => rfl
  | call c next ih =>
    simp only [bind]
    exact congrArg (call c) (funext fun r => ih r)
  | report e rest ih => simp only [bind, ih]
  | readWall next ih =>
    simp only [bind]
    exact congrArg readWall (funext fun t => ih t)
  | arm limit late rest ihLate ihRest => simp only [bind, ihLate, ihRest]
  | disarm rest ih => simp only [bind, ih]

/-! ### Times of calls -/

/-- How long so many calls take, one after the other, unless one of them never comes back. -/
def elapsed (delays : Nat → Option Span) : Nat → Option Span
  | 0 => some .zero
  | n + 1 => do
    let before ← elapsed delays n
    let last ← delays n
    return ⟨before.nanos + last.nanos⟩

section Elapsed

variable {delays : Nat → Option Span} {i j : Nat} {d e : Span}

theorem elapsed_succ (before : elapsed delays i = some e) (last : delays i = some d) :
    elapsed delays (i + 1) = some ⟨e.nanos + d.nanos⟩ := by
  simp only [elapsed, before, last]
  rfl

/-- More calls take no less time. -/
theorem elapsed_of_le (le : i ≤ j) (all : elapsed delays j = some d) :
    ∃ e, elapsed delays i = some e ∧ e ≤ d := by
  induction j generalizing d with
  | zero =>
    obtain rfl : i = 0 := by omega
    exact ⟨d, all, Nat.le_refl _⟩
  | succ j ih =>
    rcases Nat.lt_or_eq_of_le le with less | rfl
    · obtain ⟨before, here, rest⟩ := Option.bind_eq_some_iff.1 all
      obtain ⟨last, -, is⟩ := Option.bind_eq_some_iff.1 rest
      obtain rfl := Option.some.inj is
      obtain ⟨e, there, le⟩ := ih (by omega) here
      refine ⟨e, there, ?_⟩
      rw [Span.le_def] at le ⊢
      exact Nat.le_trans le (Nat.le_add_right _ _)
    · exact ⟨d, all, Nat.le_refl _⟩

end Elapsed

/-! ### A job under a deadline -/

/-- The calls that a job makes from its `i`-th on, with given answers, and the value it comes to. It
sets no deadline meanwhile. -/
inductive Course (answers : Nat → (c : LogCall) → c.Result) : Job α → Nat → List LogCall → α → Prop
  | done (a : α) (i : Nat) : Course answers (.done a) i [] a
  | call {c : LogCall} {next : c.Result → Job α} {i : Nat} {calls : List LogCall} {a : α}
    (rest : Course answers (next (answers i c)) (i + 1) calls a) : Course answers (.call c next) i (c :: calls) a

/-- What becomes of an operation under a deadline, given the calls that it has to make from the
`i`-th on and the result that it has then. It has this result as soon as all calls have come back if
this is not past the deadline, and is late at the deadline if it is. A call is made as soon as those
before it have come back, unless the deadline has come before. -/
structure Covered (limit : Span) (delays : Nat → Option Span) (start : Instant) (i : Nat)
    (calls : List LogCall) (result : Except QueueError α) (o : Passage (Except QueueError α) Unit) : Prop where
  inTime : ∀ d, elapsed delays (i + calls.length) = some d → d ≤ limit →
    o.ended = some (start.after d, result)
  late : (∀ d, elapsed delays (i + calls.length) = some d → limit < d) →
    o.ended = some (start.after limit, .error (.timeout limit))
  made : ∀ k t c, o.calls[k]? = some (t, c) ↔
    calls[k]? = some c ∧ ∃ d, elapsed delays (i + k) = some d ∧ d ≤ limit ∧ t = start.after d
  noLater : ∃ t r, o.ended = some (t, r) ∧ t ≤ start.after limit
  quiet : o.reports = []

variable {answers : Nat → (c : LogCall) → c.Result} {delays : Nat → Option Span} {wall : Instant → Timestamp}
  {limit : Span} {start : Instant}

/-- One call more, made in time and back in time. -/
theorem Covered.behind {i : Nat} {c : LogCall} {calls : List LogCall} {result : Except QueueError α}
    {o : Passage (Except QueueError α) Unit} (rest : Covered limit delays start (i + 1) calls result o)
    {spent : Span} (here : elapsed delays i = some spent) (inLimit : spent ≤ limit) :
    Covered limit delays start i (c :: calls) result (o.behind (start.after spent) c) := by
  have later (k : Nat) : i + (k + 1) = i + 1 + k := by omega
  constructor
  case inTime =>
    intro d all
    rw [List.length_cons, later] at all
    exact rest.inTime d all
  case late =>
    intro past
    rw [List.length_cons, later] at past
    exact rest.late past
  case made =>
    intro k t c'
    cases k with
    | zero =>
      simp only [Passage.behind, List.getElem?_cons_zero, Option.some.injEq, Prod.mk.injEq, Nat.add_zero, here,
        exists_eq_left']
      constructor
      · rintro ⟨rfl, rfl⟩
        exact ⟨rfl, inLimit, rfl⟩
      · rintro ⟨rfl, -, rfl⟩
        exact ⟨rfl, rfl⟩
    | succ k =>
      rw [later]
      exact rest.made k t c'
  case noLater => exact rest.noLater
  case quiet => exact rest.quiet

/-- One call more, which is not back by the deadline. -/
theorem covered_late {i : Nat} {c : LogCall} {calls : List LogCall} {result : Except QueueError α} {spent : Span}
    (here : elapsed delays i = some spent) (inLimit : spent ≤ limit)
    (past : ∀ d, elapsed delays (i + 1) = some d → limit < d) :
    Covered limit delays start i (c :: calls) result
      ⟨some (start.after limit, .error (.timeout limit)), [(start.after spent, c)], [], ()⟩ := by
  have beyond {k : Nat} {d : Span} (le : i + 1 ≤ k) (all : elapsed delays k = some d) : limit < d := by
    obtain ⟨e, first, le⟩ := elapsed_of_le le all
    exact Nat.lt_of_lt_of_le (past e first) le
  constructor
  case inTime =>
    intro d all within
    exact absurd within (Nat.not_le.2 (beyond (by rw [List.length_cons]; omega) all))
  case late => exact fun _ => rfl
  case made =>
    intro k t c'
    cases k with
    | zero =>
      simp only [List.getElem?_cons_zero, Option.some.injEq, Prod.mk.injEq, Nat.add_zero, here, exists_eq_left']
      constructor
      · rintro ⟨rfl, rfl⟩
        exact ⟨rfl, inLimit, rfl⟩
      · rintro ⟨rfl, -, rfl⟩
        exact ⟨rfl, rfl⟩
    | succ k =>
      simp only [List.getElem?_cons_succ, List.getElem?_nil, reduceCtorEq, false_iff, not_and, not_exists]
      intro _ d all within
      exact absurd within (Nat.not_le.2 (beyond (by omega) all))
  case noLater => exact ⟨_, _, rfl, Nat.le_refl _⟩
  case quiet => rfl

/-- The calls are made in a row, and the deadline is looked at with each of them. -/
theorem covered_of_course {job : Job (Except QueueError α)} {i : Nat} {calls : List LogCall}
    {result : Except QueueError α} (course : Course answers job i calls result) {spent : Span}
    (here : elapsed delays i = some spent) (inLimit : spent ≤ limit) :
    Covered limit delays start i calls result
      ((job.bind fun r => disarm (done r)).passing (.scripted delays answers wall)
        (some (start.after limit, fun _ s => ⟨some (start.after limit, .error (.timeout limit)), [], [], s⟩))
        i (start.after spent) ()) := by
  induction course generalizing spent with
  | done result i =>
    constructor
    case inTime =>
      intro d all _
      rw [List.length_nil, Nat.add_zero, here] at all
      rw [← Option.some.inj all]
      rfl
    case late =>
      intro past
      exact absurd inLimit (Nat.not_le.2 (past spent here))
    case made => simp [bind, passing]
    case noLater => exact ⟨start.after spent, result, rfl, Nat.add_le_add_left inLimit _⟩
    case quiet => rfl
  | @call c next i calls result rest ih =>
    by_cases early : ∃ d, delays i = some d ∧ spent.nanos + d.nanos ≤ limit.nanos
    · obtain ⟨d, back, early⟩ := early
      have punctual : (Service.scripted delays answers wall).inTime (some (start.after limit)) i c
          (start.after spent) () = some ⟨d, answers i c, ()⟩ := by
        refine Service.inTime_eq_some (by simp only [Service.scripted, back, Option.map_some]) ?_
        rw [Instant.le_def]
        simp only [Instant.after]
        omega
      have both : (start.after spent).after d = start.after ⟨spent.nanos + d.nanos⟩ := by
        simp only [Instant.after, Nat.add_assoc]
      rw [bind, passing_call_of_some punctual, both]
      exact (ih (elapsed_succ here back) early).behind here inLimit
    · have past (d : Span) (all : elapsed delays (i + 1) = some d) : limit < d := by
        obtain ⟨before, same, rest⟩ := Option.bind_eq_some_iff.1 all
        obtain ⟨last, back, is⟩ := Option.bind_eq_some_iff.1 rest
        obtain rfl := Option.some.inj (same.symm.trans here)
        obtain rfl := Option.some.inj is
        rw [Span.lt_def, ← Nat.not_le]
        exact fun within => early ⟨last, back, within⟩
      have missed : (Service.scripted delays answers wall).inTime (some (start.after limit)) i c
          (start.after spent) () = none := by
        refine Service.inTime_eq_none ?_
        intro b back
        obtain ⟨d, delay, rfl⟩ := Option.map_eq_some_iff.1 back
        have beyond : limit.nanos < spent.nanos + d.nanos := Nat.not_le.1 fun within => early ⟨d, delay, within⟩
        rw [Instant.lt_def]
        simp only [Instant.after]
        omega
      rw [bind, passing_call_of_none missed]
      exact covered_late here inLimit past

end Job

/-! ### What a publisher asks and makes of it -/

namespace Publisher

open Job

variable {α : Type} {answers : Nat → (c : LogCall) → c.Result} {delays : Nat → Option Span}
  {wall : Instant → Timestamp} {start : Instant} {p : PublisherConfig} {group : String}

/-- An operation of a publisher: a job under a deadline, or late. -/
theorem timed_eq (p : PublisherConfig) (job : Job (Except QueueError α)) :
    timed p job = arm p.timeout (done (.error (.timeout p.timeout))) (job.bind fun r => disarm (done r)) := by
  unfold timed within
  simp only [Bind.bind, Job.bind, Job.bind_assoc]
  rfl

/-- **A deadline covers the whole operation.** -/
theorem covered_timed {job : Job (Except QueueError α)} {calls : List LogCall} {result : Except QueueError α}
    (course : Course answers job 0 calls result) :
    Covered p.timeout delays start 0 calls result
      ((timed p job).passing (.scripted delays answers wall) none 0 start ()) := by
  rw [timed_eq]
  have begun : elapsed delays 0 = some .zero := rfl
  exact covered_of_course course begun (Nat.zero_le _)

/-- What a publisher says when the log refuses to show it a group. -/
def Denied (group : String) (e : LogError) (q : QueueError) : Prop :=
  ((∃ stream, e = .streamNotFound stream) ∨ (∃ stream group, e = .groupNotFound stream group) →
    q = .groupNotFound group) ∧
  (¬ ((∃ stream, e = .streamNotFound stream) ∨ ∃ stream group, e = .groupNotFound stream group) → q = .log e)

theorem denied_groupError (group : String) (e : LogError) : Denied group e (groupError group e) := by
  cases e <;> simp [Denied, groupError]

/-- How a publisher counts what is past the cursor of a group, and what it is told. -/
inductive Counts (p : PublisherConfig) (answers : Nat → (c : LogCall) → c.Result) (g : GroupInfo) :
    LogCall → Except LogError Nat → Prop
  | all (never : g.lastDelivered = .zero) : Counts p answers g (.len p.stream) (answers 1 (.len p.stream))
  | past (before : g.lastDelivered ≠ .zero) : Counts p answers g (.rangeAfter p.stream g.lastDelivered)
    ((answers 1 (.rangeAfter p.stream g.lastDelivered)).map List.length)

/-- The calls of a look at the backlog of a group, if nothing is late, and what they come to. -/
inductive Looks (p : PublisherConfig) (group : String) (answers : Nat → (c : LogCall) → c.Result) :
    List LogCall → Except QueueError Nat → Prop
  | hidden {e : LogError} {q : QueueError} (first : answers 0 (.groups p.stream) = .error e)
    (told : Denied group e q) : Looks p group answers [.groups p.stream] (.error q)
  | unlisted {groups : List GroupInfo} (first : answers 0 (.groups p.stream) = .ok groups)
    (missing : ∀ g ∈ groups, g.name ≠ group) :
    Looks p group answers [.groups p.stream] (.error (.groupNotFound group))
  | uncounted {groups : List GroupInfo} {g : GroupInfo} {c : LogCall} {e : LogError}
    (first : answers 0 (.groups p.stream) = .ok groups)
    (listed : groups.find? (fun g => g.name == group) = some g) (second : Counts p answers g c (.error e)) :
    Looks p group answers [.groups p.stream, c] (.error (.log e))
  | refused {groups : List GroupInfo} {g : GroupInfo} {c : LogCall} {fresh : Nat} {e : LogError} {q : QueueError}
    (first : answers 0 (.groups p.stream) = .ok groups)
    (listed : groups.find? (fun g => g.name == group) = some g) (second : Counts p answers g c (.ok fresh))
    (third : answers 2 (.pendingCount p.stream group) = .error e) (told : Denied group e q) :
    Looks p group answers [.groups p.stream, c, .pendingCount p.stream group] (.error q)
  | counted {groups : List GroupInfo} {g : GroupInfo} {c : LogCall} {fresh pending : Nat}
    (first : answers 0 (.groups p.stream) = .ok groups)
    (listed : groups.find? (fun g => g.name == group) = some g) (second : Counts p answers g c (.ok fresh))
    (third : answers 2 (.pendingCount p.stream group) = .ok pending) :
    Looks p group answers [.groups p.stream, c, .pendingCount p.stream group] (.ok (fresh + pending))

/-- What is past the cursor is counted with one call. -/
theorem course_undelivered (p : PublisherConfig) (group : String) (g : GroupInfo)
    (answers : Nat → (c : LogCall) → c.Result) :
    ∃ c counted, Counts p answers g c counted ∧
      ∀ {calls : List LogCall} {result : Except QueueError Nat},
        Course answers (countPending p group (counted.mapError .log)) 2 calls result →
          Course answers ((undelivered p g).bind (countPending p group)) 1 (c :: calls) result := by
  by_cases never : g.lastDelivered = .zero
  · have zero : g.neverRead = true := by
      rw [GroupInfo.neverRead, never]
      rfl
    refine ⟨_, _, .all never, fun {calls result} rest => ?_⟩
    rw [undelivered, zero]
    exact .call rest
  · have read : g.neverRead = false := by
      rw [GroupInfo.neverRead, StreamId.isZero]
      exact decide_eq_false never
    refine ⟨_, _, .past never, fun {calls result} rest => ?_⟩
    rw [undelivered, read]
    refine .call ?_
    cases told : answers 1 (.rangeAfter p.stream g.lastDelivered) with
    | error e =>
      rw [told] at rest
      exact rest
    | ok entries =>
      rw [told] at rest
      exact rest

/-- A look at the backlog makes its calls one after the other, up to the first refusal. -/
theorem course_backlog (p : PublisherConfig) (group : String) (answers : Nat → (c : LogCall) → c.Result) :
    ∃ calls result, Looks p group answers calls result ∧
      Course answers (call (.groups p.stream) (countFor p group)) 0 calls result := by
  cases first : answers 0 (.groups p.stream) with
  | error e =>
    refine ⟨_, _, .hidden first (denied_groupError group e), .call ?_⟩
    rw [first]
    exact .done _ _
  | ok groups =>
    cases listed : groups.find? fun g => g.name == group with
    | none =>
      refine ⟨_, _, .unlisted first fun g hg => ?_, .call ?_⟩
      · simpa using List.find?_eq_none.1 listed g hg
      · rw [first, countFor, listed]
        exact .done _ _
    | some g =>
      obtain ⟨c, counted, second, goes⟩ := course_undelivered p group g answers
      cases counted with
      | error e =>
        refine ⟨_, _, .uncounted first listed second, .call ?_⟩
        rw [first, countFor, listed]
        exact goes (.done _ _)
      | ok fresh =>
        cases third : answers 2 (.pendingCount p.stream group) with
        | error e =>
          refine ⟨_, _, .refused first listed second third (denied_groupError group e), .call ?_⟩
          rw [first, countFor, listed]
          refine goes (.call ?_)
          rw [third]
          exact .done _ _
        | ok pending =>
          refine ⟨_, _, .counted first listed second third, .call ?_⟩
          rw [first, countFor, listed]
          refine goes (.call ?_)
          rw [third]
          exact .done _ _

/-- **Deadlines cover whole operations**: take any times of the calls on the log, which may never come
back, and any answers of it. An append of a message is one call, and a look at the backlog makes up to
three, of which each refusal is the last. If they take no longer than the publisher's deadline allows,
all together, the operation has the result that it has without a deadline, as soon as the last call is
back; otherwise it is late, at the instant of the deadline. Each call is made as soon as the one before
it is back, unless the deadline has come before. -/
theorem deadlines_cover (p : PublisherConfig) (delays : Nat → Option Span)
    (answers : Nat → (c : LogCall) → c.Result) (wall : Instant → Timestamp) (start : Instant) :
    let log := Service.scripted delays answers wall
    (∀ message,
      let append := LogCall.append p.stream [("msg", message)] p.maxLen
      ∃ result : Except QueueError StreamId,
        (∀ id, answers 0 append = .ok id → result = .ok id) ∧
        (∀ e, answers 0 append = .error e → result = .error (.publish e)) ∧
        Covered p.timeout delays start 0 [append] result ((publish p message).passing log none 0 start ())) ∧
    ∀ group, ∃ calls result, Looks p group answers calls result ∧
      Covered p.timeout delays start 0 calls result ((backlog p group).passing log none 0 start ()) := by
  intro log
  constructor
  · intro message append
    have course : Course answers (call append fun r => done (r.mapError QueueError.publish)) 0 [append]
        ((answers 0 append).mapError QueueError.publish) := .call (.done _ _)
    refine ⟨_, ?_, ?_, covered_timed course⟩
    · intro id given
      rw [given]
      rfl
    · intro e refused
      rw [refused]
      rfl
  · intro group
    obtain ⟨calls, result, looks, course⟩ := course_backlog p group answers
    refine ⟨calls, result, looks, ?_⟩
    rw [backlog_eq]
    exact covered_timed course

/-- Two seconds for each of three calls are too long for a deadline of five, and the third call is
out then. -/
example :
    let log := Service.scripted (fun _ => some (.ofSeconds 2))
      (fun _ c => ((Store.empty.afterAll [.atMilli 0 (.createGroup "jobs" "workers" .zero)]).perform
        ⟨.zero, ⟨0⟩⟩ c).1) fun _ => ⟨0⟩
    let o := (backlog (config "jobs") "workers").passing log none 0 .zero ()
    o.ended = some (Instant.zero.after (.ofSeconds 5), .error (.timeout (.ofSeconds 5))) ∧ o.calls.length = 3 := by
  decide

end Publisher

end StreamQueue
