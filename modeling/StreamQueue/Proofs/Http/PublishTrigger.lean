import StreamQueue.Proofs.Http.Status
import StreamQueue.Proofs.Log.Cap
import StreamQueue.Proofs.Text.Decimal

/-!
# Publishing on request

A page publishes the current time as often as a text asks for. The text may be anything: blanks around a
number do not count, and what is no number of 64 bits, or zero, asks for one. No more is published at once
than the stream would keep, or once if it would keep nothing. Each append stands under a deadline of its
own, and behind the first that fails no other is made. The status is shown then, with the failure if there
was one.

Whoever reads the length of the stream or the backlog of a group afterwards cannot tell whether there was
a cap, however much was asked for, if all appends were carried out and the cursor of the group was not past
the last identifier of the stream.

## What is proved

* `Http.requestedCount_eq_iff` — how many messages a text asks for.
* `App.posted_times` — the appends, by induction on their number.
* `App.publishes_time` — what becomes of a request.
-/

namespace StreamQueue

/-! ### The number that is asked for -/

namespace Http

open Text.Decimal

/-- How many messages a text asks for. Blanks at either end of it do not count. -/
inductive Requested : Option String → Nat → Prop
  /-- It is the numeral of a word of 64 bits that is not zero. -/
  | number {text : String} {n : Nat} (numeral : Numeral (Text.trim text).toList n) (positive : 1 ≤ n)
    (word : n < UInt64.size) : Requested (some text) n
  /-- There is no text, or it is no such numeral. -/
  | one {text : Option String}
    (unusable : ∀ t ∈ text, ∀ n, Numeral (Text.trim t).toList n → n = 0 ∨ UInt64.size ≤ n) : Requested text 1

theorem requested_requestedCount (text : Option String) : Requested text (requestedCount text) := by
  cases text with
  | none => exact .one (by simp)
  | some t =>
    cases read : word64? (Text.trim t) with
    | none =>
      have count : requestedCount (some t) = 1 := by simp [requestedCount, read]
      rw [count]
      refine .one ?_
      rintro _ ⟨⟩ n numeral
      refine .inr (Nat.le_of_not_lt fun word => ?_)
      rw [word64?_eq_some_iff.2 ⟨numeral, word⟩] at read
      cases read
    | some n =>
      obtain ⟨numeral, word⟩ := word64?_eq_some_iff.1 read
      have count : requestedCount (some t) = max n 1 := by simp [requestedCount, read]
      rw [count]
      rcases Nat.eq_zero_or_pos n with rfl | positive
      · refine .one ?_
        rintro _ ⟨⟩ m other
        exact .inl (other.unique numeral)
      · rw [max_eq_left positive]
        exact .number numeral positive word

/-- **What a text asks for**, whatever it is. -/
theorem requestedCount_eq_iff {text : Option String} {n : Nat} : requestedCount text = n ↔ Requested text n := by
  constructor
  · rintro rfl
    exact requested_requestedCount text
  · intro requested
    cases requested with
    | number numeral positive word =>
      rw [requestedCount, Option.bind_some, word64?_eq_some_iff.2 ⟨numeral, word⟩]
      exact max_eq_left positive
    | one unusable =>
      generalize found : requestedCount text = m
      have requested := requested_requestedCount text
      rw [found] at requested
      cases requested with
      | number numeral positive word =>
        have excluded := unusable _ rfl _ numeral
        omega
      | one => rfl

/-- A request to publish that is accepted: its query gives no number of messages or one. -/
structure Request.Asks (r : Request) (text : Option String) : Prop where
  method : r.method = "POST"
  path : r.target.path = "/publish-time"
  number : countTexts r.target.query = text.toList

end Http

namespace App

open Job Publisher Http

variable {a : App} {hitches : Nat → Hitch} {wall : Instant → Timestamp}

/-! ### The appends -/

/-- What has become of `c` appends of the current time, of which `j` were carried out, the calls being
counted from the `i`-th on. They were made at some instants. -/
structure Posted (p : PublisherConfig) (hitches : Nat → Hitch) (wall : Instant → Timestamp) (s : Store)
    (i c j : Nat) (times : List Instant) (posts : List TimedCall) (failure : Option QueueError)
    (o : Passage (Option QueueError) Store) : Prop where
  few : j ≤ c
  /-- The appends before the `j`-th do not fail. -/
  fine : ∀ k < j, (hitches (i + k)).failure p.timeout = none
  /-- They were carried out, and nothing else. -/
  posted : posts.map (·.call) = (times.take j).map fun t => appending p (wall t).rfc3339
  left : o.left = s.afterAll posts
  clocked : ∀ q ∈ posts, q.clock.wall = wall q.clock.now
  /-- The one that failed was the last for which a call was made. -/
  count : times.length = min (j + 1) c
  calls : o.calls = times.map fun t => (t, appending p (wall t).rfc3339)
  ended : o.ended.map (·.2) = some failure
  reports : o.reports = (failure.map .publishTimeFailed).toList
  all : failure = none ↔ j = c
  cause : ∀ e, failure = some e → (hitches (i + j)).failure p.timeout = some e

/-- What the page does once a time was published or was not, with `n` more to publish. -/
def onward (a : App) (n : Nat) : Except QueueError StreamId → Job (Option QueueError)
  | .ok _ => a.publishTimes n
  | .error e => report (.publishTimeFailed e) (done (some e))

theorem publishTimes_succ (a : App) (n : Nat) : a.publishTimes (n + 1) =
    readWall fun now => (publish a.publisher now.rfc3339).bind (a.onward n) := by
  refine congrArg readWall (funext fun now => ?_)
  refine congrArg (publish a.publisher now.rfc3339).bind (funext fun r => ?_)
  cases r <;> rfl

/-- No deadline is left behind by the appends. -/
theorem tidy_publishTimes (a : App) (n : Nat) : Tidy false (a.publishTimes n) := by
  induction n with
  | zero => exact .done none
  | succ n ih =>
    have tidy (r : Except QueueError StreamId) : Tidy false (a.onward n r) := by
      cases r with
      | ok id => exact ih
      | error e => exact .report (.done _)
    rw [publishTimes_succ]
    refine .readWall fun now => ?_
    rw [publish_bind]
    exact .arm (tidy _) (.call fun r => .disarm (tidy _))

section Posted

variable {p : PublisherConfig} {s : Store} {i c j : Nat} {t : Instant} {times : List Instant}
  {posts : List TimedCall} {failure : Option QueueError} {o : Passage (Option QueueError) Store}

theorem posted_nil (p : PublisherConfig) (hitches : Nat → Hitch) (wall : Instant → Timestamp) (s : Store)
    (i : Nat) (t : Instant) : Posted p hitches wall s i 0 0 [] [] none ⟨some (t, none), [], [], s⟩ where
  few := Nat.le_refl 0
  fine := fun k before => absurd before (Nat.not_lt_zero k)
  posted := rfl
  left := rfl
  clocked := fun _ mem => absurd mem List.not_mem_nil
  count := rfl
  calls := rfl
  ended := rfl
  reports := rfl
  all := by simp
  cause := by simp

/-- Behind an append that fails no other is tried. -/
theorem posted_fails {e : QueueError} (fails : (hitches i).failure p.timeout = some e)
    (wall : Instant → Timestamp) (s : Store) (c : Nat) (t t' : Instant) :
    Posted p hitches wall s i (c + 1) 0 [t] [] (some e)
      ⟨some (t', some e), [(t, appending p (wall t).rfc3339)], [.publishTimeFailed e], s⟩ where
  few := Nat.zero_le _
  fine := fun k before => absurd before (Nat.not_lt_zero k)
  posted := rfl
  left := rfl
  clocked := fun _ mem => absurd mem List.not_mem_nil
  count := by simp
  calls := rfl
  ended := rfl
  reports := rfl
  all := by simp
  cause := by simpa using fails

/-- One append more, which does not fail. -/
theorem Posted.cons (fine : (hitches i).failure p.timeout = none) {clock : Clock}
    (shows : clock.wall = wall clock.now)
    (rest : Posted p hitches wall (s.perform clock (appending p (wall t).rfc3339)).2 (i + 1) c j times posts
      failure o) :
    Posted p hitches wall s i (c + 1) (j + 1) (t :: times) (⟨clock, appending p (wall t).rfc3339⟩ :: posts)
      failure (o.behind t (appending p (wall t).rfc3339)) := by
  have later (k : Nat) : i + (k + 1) = i + 1 + k := by omega
  constructor
  case few => exact Nat.succ_le_succ rest.few
  case fine =>
    intro k before
    cases k with
    | zero => exact fine
    | succ k =>
      rw [later]
      exact rest.fine k (by omega)
  case posted => rw [List.map_cons, List.take_succ_cons, List.map_cons, rest.posted]
  case left => exact rest.left
  case clocked => exact List.forall_mem_cons.2 ⟨shows, rest.clocked⟩
  case count =>
    rw [List.length_cons, rest.count]
    omega
  case calls => rw [Passage.behind, rest.calls, List.map_cons]
  case ended => exact rest.ended
  case reports => exact rest.reports
  case all => rw [rest.all, Nat.succ_inj]
  case cause =>
    rw [later]
    exact rest.cause

/-- **The appends** up to the first that fails. -/
theorem posted_times (a : App) (hitches : Nat → Hitch) (wall : Instant → Timestamp) (c i : Nat) (t : Instant)
    (s : Store) :
    ∃ j times posts failure, Posted a.publisher hitches wall s i c j times posts failure
      ((a.publishTimes c).passing (.hindered hitches wall) none i t s) := by
  induction c generalizing i t s with
  | zero => exact ⟨0, [], [], none, posted_nil a.publisher hitches wall s i t⟩
  | succ c ih =>
    -- The time that is published is the one at which the append is made.
    rw [publishTimes_succ, passing]
    show ∃ j times posts failure, Posted a.publisher hitches wall s i (c + 1) j times posts failure
      (((publish a.publisher (wall t).rfc3339).bind (a.onward c)).passing (.hindered hitches wall) none i t s)
    cases failure : (hitches i).failure a.publisher.timeout with
    | some e =>
      obtain ⟨t', is⟩ := passing_publish_fails failure wall (wall t).rfc3339 (a.onward c) t s
      rw [is]
      exact ⟨0, [t], [], some e, posted_fails failure wall s c t t'⟩
    | none =>
      obtain ⟨clock, shows, is⟩ := passing_publish_fine failure wall (wall t).rfc3339 (a.onward c) t s
      obtain ⟨j, times, posts, last, rest⟩ :=
        ih (i + 1) clock.now (s.perform clock (appending a.publisher (wall t).rfc3339)).2
      rw [is]
      exact ⟨j + 1, t :: times, ⟨clock, _⟩ :: posts, last, rest.cons failure shows⟩

variable (posted : Posted p hitches wall s i c j times posts failure o)
include posted

theorem Posted.length_times : (times.take j).length = j := by
  have count := posted.count
  have few := posted.few
  rw [List.length_take, count]
  omega

theorem Posted.length_posts : posts.length = j := by
  have length := congrArg List.length posted.posted
  rwa [List.length_map, List.length_map, posted.length_times] at length

/-- Each append has the bound of the publisher. -/
theorem Posted.bounds : ((s.history posts).postings p.stream).map (·.maxLen) = List.replicate j p.maxLen := by
  have messages : posts.map (·.call) = ((times.take j).map fun t => (wall t).rfc3339).map (appending p) := by
    rw [posted.posted, List.map_map]
    rfl
  rw [(postings_of_posted messages).1, List.length_map, posted.length_times]

theorem Posted.appends : ∀ q ∈ posts, ∃ stream fields maxLen, q.call = .append stream fields maxLen := by
  intro q hq
  have call : q.call ∈ posts.map (·.call) := List.mem_map.2 ⟨q, hq, rfl⟩
  rw [posted.posted] at call
  obtain ⟨t, -, is⟩ := List.mem_map.1 call
  exact ⟨_, _, _, is.symm⟩

/-- If no append fails, all are carried out. -/
theorem Posted.all_of_fine (fine : ∀ k < c, (hitches (i + k)).failure p.timeout = none) :
    j = c ∧ failure = none := by
  cases failure with
  | none => exact ⟨posted.all.1 rfl, rfl⟩
  | some e =>
    have short : j < c := by
      have few := posted.few
      have stopped : j ≠ c := fun all => absurd (posted.all.2 all) (Option.some_ne_none e)
      omega
    have fails := posted.cause e rfl
    rw [fine j short] at fails
    cases fails

end Posted

/-! ### The page -/

/-- The header that lets pages of any origin read an answer. -/
def opened (answer : Response) : Response := answer.withHeader "access-control-allow-origin" "*"

/-- A request that is accepted is to publish and then to show the status. -/
theorem handle_eq (a : App) {r : Request} {text : Option String} (asks : r.Asks text) :
    a.handle r = (a, (a.publishTimes (a.publishCount text)).bind fun failure =>
      (a.status (failure.map QueueError.message)).bind fun answer => done (opened answer)) := by
  obtain ⟨method, ⟨path, query⟩⟩ := r
  obtain ⟨rfl, rfl, number⟩ := asks
  have visit : a.visit query .publishTime = (a, (a.publishTimes (a.publishCount text)).bind fun failure =>
      a.status (failure.map QueueError.message)) := by
    cases text <;> simp only [visit, number, Option.toList] <;> rfl
  have known : Page.publishTime.methods.contains "POST" = true := by decide
  have route : a.route ⟨"POST", ⟨"/publish-time", query⟩⟩ = (a, ((a.publishTimes (a.publishCount text)).bind
      fun failure => a.status (failure.map QueueError.message)).bind done) := by
    simp only [route, Page.ofPath?, known, visit, if_true]
    rfl
  have answered (job : Job Response) : (job.bind done).bind (fun answer => done (opened answer)) =
      job.bind fun answer => done (opened answer) := Job.bind_assoc ..
  have handled : a.handle ⟨"POST", ⟨"/publish-time", query⟩⟩ =
      (a, ((a.route ⟨"POST", ⟨"/publish-time", query⟩⟩).2).bind fun answer => done (opened answer)) := by
    rw [handle, route]
    rfl
  rw [handled, route, answered, Job.bind_assoc]

/-- What becomes of a request once appends were made and have left a store: the calls for the status, and
the answer. -/
structure Answered (a : App) (hitches : Nat → Hitch) (s : Store) (failure : Option QueueError)
    (made looks : List (Instant × LogCall)) (shown : Status) (o : Passage Response Store) : Prop where
  left : o.left = s
  calls : ∃ last, o.calls = made ++ (looks ++ [(last, .ping)])
  few : looks.length ≤ 3
  /-- No append is made for the status. -/
  reading : ∀ look ∈ looks, ∀ stream fields maxLen, look.2 ≠ .append stream fields maxLen
  /-- There is an answer exactly if the last call comes back. -/
  ended : ∃ answer : Response, answer.Shows shown ∧
    o.ended.map (·.2) = (hitches (made.length + looks.length)).delay.map fun _ => answer
  health : shown.health = a.health
  connected : shown.connected = (hitches (made.length + looks.length)).refusal.isNone
  error : shown.error = failure.map QueueError.message
  uncounted : ¬ Heard hitches made.length a.publisher.timeout → shown.pending = 0
  counted : Heard hitches made.length a.publisher.timeout →
    ∀ cs, s = Store.empty.afterAll cs → Store.empty.Roomy cs →
      shown.pending = (s.outstanding a.publisher.stream a.group).card

/-- The status, behind appends. -/
theorem answered_status (a : App) (hitches : Nat → Hitch) (wall : Instant → Timestamp)
    (failure : Option QueueError) (made : List (Instant × LogCall)) (reports : List Event) (t : Instant) (s : Store) :
    let rest := ((a.status (failure.map QueueError.message)).bind fun answer => done (opened answer)).passing
      (.hindered hitches wall) none made.length t s
    ∃ looks shown, Answered a hitches s failure made looks shown
      ⟨rest.ended, made ++ rest.calls, reports ++ rest.reports, rest.left⟩ := by
  intro rest
  obtain ⟨counted, looks, last, told, few, reading, passage⟩ :=
    passing_status a (failure.map QueueError.message) hitches wall made.length t s
  have is : rest = _ := passing_bind_done (.hindered hitches wall) opened _ none made.length t s
  rw [passage] at is
  rw [is]
  let shown := a.shownStatus (failure.map QueueError.message) counted
    (hitches (made.length + looks.length)).refusal.isNone
  have shows : (opened (.json shown.toJson)).Shows shown :=
    ⟨rfl, rfl, (shows_json shown).value, (shows_json shown).only⟩
  refine ⟨looks, shown, rfl, ⟨last, rfl⟩, few, reading, ⟨_, shows, ?ended⟩, rfl, rfl, rfl, ?uncounted, ?counted⟩
  case ended =>
    simp only [Passage.map, Option.map_map, Function.comp_def]
    rfl
  case uncounted => exact told.number_eq_zero
  case counted =>
    rintro heard cs rfl room
    exact told.number_eq_card heard room

/-- The appends of a request that is accepted, and what becomes of it then. -/
theorem passing_handle (a : App) {r : Request} {text : Option String} (asks : r.Asks text)
    (hitches : Nat → Hitch) (wall : Instant → Timestamp) (start : Instant) (s : Store) :
    ∃ j times posts failure first looks shown,
      Posted a.publisher hitches wall s 0 (a.publishCount text) j times posts failure first ∧
      Answered a hitches (s.afterAll posts) failure first.calls looks shown
        ((a.handle r).2.passing (.hindered hitches wall) none 0 start s) := by
  obtain ⟨j, times, posts, failure, posted⟩ := posted_times a hitches wall (a.publishCount text) 0 start s
  obtain ⟨⟨t, _⟩, ended, rfl⟩ := Option.map_eq_some_iff.1 posted.ended
  rw [handle_eq a asks, passing_bind_none (tidy_publishTimes a _), Passage.followed_of_ended ended, Nat.zero_add,
    posted.left]
  obtain ⟨looks, shown, answered⟩ := answered_status a hitches wall _ _ _ t (s.afterAll posts)
  exact ⟨j, times, posts, _, _, looks, shown, posted, answered⟩

/-- What cannot be told afterwards of two stores that `posts` and `posts'` have made of the same log: the length
of the stream and, if the group was not past its last identifier, the backlog, as long as there is room. -/
structure SameSizes (p : PublisherConfig) (group : String) (cs posts posts' : List TimedCall) (one other : Store) :
    Prop where
  length : (one.entries p.stream).length = (other.entries p.stream).length
  backlog :
    (∀ g, ((Store.empty.afterAll cs).view p.stream group).group = some g →
      g.cursor ≤ ((Store.empty.afterAll cs).streamOrNew p.stream).lastId) →
    Store.empty.Roomy (cs ++ posts) → Store.empty.Roomy (cs ++ posts') →
      (one.outstanding p.stream group).card = (other.outstanding p.stream group).card

section Same

variable {p : PublisherConfig} {hitches' : Nat → Hitch} {wall' : Instant → Timestamp} {n : Nat}
  {times times' : List Instant} {posts posts' cs : List TimedCall}
  {first whole : Passage (Option QueueError) Store} {group : String} (positive : 1 ≤ n)
  (capped : Posted p hitches wall (Store.empty.afterAll cs) 0 (min n (max p.maxLen 1)) (min n (max p.maxLen 1))
    times posts none first)
  (all : Posted p hitches' wall' (Store.empty.afterAll cs) 0 n n times' posts' none whole)

include positive capped all

/-- **Whether there was a cap** does not show. -/
theorem Posted.same_sizes : SameSizes p group cs posts posts' first.left whole.left where
  length := by
    rw [capped.left, all.left]
    exact Store.same_length positive capped.bounds all.bounds
  backlog := by
    intro le room room'
    rw [capped.left, all.left, ← Store.afterAll_append, ← Store.afterAll_append]
    exact Store.same_outstanding positive capped.appends all.appends capped.bounds all.bounds room room' le

end Same

/-- **A request to publish**: take any request that is accepted, and anything that may hinder the calls on a
log in memory, whatever was done to it before. The page tries to append the current time as often as it was
asked to, but no more often than the stream keeps entries, or once if it keeps none, up to the first append
that fails; those before it were carried out, and nothing else was. Then the status is answered, with the
failure if there was one, and with the backlog of the group as it is now, or zero if it cannot be counted.

If no append fails, the stream is as long as if all that was asked for had been published, at whatever
times. If the group was not past the last identifier of the stream, its backlog is as large too, as long as
there is room for the identifiers. -/
theorem publishes_time (a : App) {r : Request} {text : Option String} {n : Nat} (asks : r.Asks text)
    (number : Requested text n) (hitches : Nat → Hitch) (wall : Instant → Timestamp) (start : Instant)
    (cs : List TimedCall) :
    let p := a.publisher
    let s := Store.empty.afterAll cs
    let c := min n (max p.maxLen 1)
    let o := (a.handle r).2.passing (.hindered hitches wall) none 0 start s
    (a.handle r).1 = a ∧
    ∃ j times posts failure first looks shown, Posted p hitches wall s 0 c j times posts failure first ∧
      Answered a hitches (s.afterAll posts) failure first.calls looks shown o ∧
      (failure = none →
        ∀ (hitches' : Nat → Hitch) wall' start', (∀ k < n, (hitches' k).failure p.timeout = none) →
          let whole := (a.publishTimes n).passing (.hindered hitches' wall') none 0 start' s
          ∃ times' posts', Posted p hitches' wall' s 0 n n times' posts' none whole ∧
            SameSizes p a.group cs posts posts' o.left whole.left) := by
  intro p s c o
  have count : a.publishCount text = c := by rw [publishCount, requestedCount_eq_iff.2 number]
  have positive : 1 ≤ n := by
    cases number with
    | number numeral positive word => exact positive
    | one => exact Nat.le_refl 1
  obtain ⟨j, times, posts, failure, first, looks, shown, posted, answered⟩ :=
    passing_handle a asks hitches wall start s
  rw [count] at posted
  refine ⟨congrArg Prod.fst (handle_eq a asks), j, times, posts, failure, first, looks, shown, posted, answered, ?_⟩
  rintro rfl hitches' wall' start' fine whole
  obtain ⟨j', times', posts', failure', posted'⟩ := posted_times a hitches' wall' n 0 start' s
  obtain ⟨rfl, rfl⟩ := posted'.all_of_fine fun k before => by
    rw [Nat.zero_add]
    exact fine k before
  obtain rfl := posted.all.1 rfl
  rw [answered.left, ← posted.left]
  exact ⟨times', posts', posted', posted.same_sizes positive posted'⟩

/-- A page whose stream keeps three entries. -/
def threeKept : App := ⟨⟨"jobs", 3, defaultTimeout⟩, "workers", .initial⟩

/-- Five messages are asked for, with a blank in front of the number. -/
def fiveAsked : Request := ⟨"POST", ⟨"/publish-time", some "count=+5"⟩⟩

/-- All calls get through at once. -/
def unhindered (_ : Nat) : Hitch := ⟨some .zero, none⟩

/-- Nothing hinders the three appends that are made, or the five that are made without the cap. -/
theorem publishes_time_fiveAsked :
    let s := Store.empty.afterAll [.atMilli 0 (.createGroup "jobs" "workers" .zero)]
    let log := Service.hindered unhindered fun _ => ⟨0⟩
    let o := (threeKept.handle fiveAsked).2.passing log none 0 .zero s
    let whole := (threeKept.publishTimes 5).passing log none 0 .zero s
    fiveAsked.Asks (some " 5") ∧ Requested (some " 5") 5 ∧
    (∃ answer shown, o.ended.map (·.2) = some answer ∧ answer.Shows shown ∧ shown.error = none ∧
      shown.pending = 3) ∧
    (whole.left.entries "jobs").length = 3 ∧ (whole.left.outstanding "jobs" "workers").card = 3 := by
  intro s log o whole
  have asks : fiveAsked.Asks (some " 5") := ⟨rfl, rfl, by decide +kernel⟩
  have number : Requested (some " 5") 5 := requestedCount_eq_iff.1 (by decide)
  obtain ⟨-, j, times, posts, failure, first, looks, shown, posted, answered, capped⟩ :=
    publishes_time threeKept asks number unhindered (fun _ => ⟨0⟩) .zero
      [.atMilli 0 (.createGroup "jobs" "workers" .zero)]
  obtain ⟨-, rfl⟩ := posted.all_of_fine fun _ _ => rfl
  obtain ⟨times', posts', posted', same⟩ := capped rfl unhindered (fun _ => ⟨0⟩) .zero fun _ _ => rfl
  have room {times : List Instant} {posts : List TimedCall} {c j : Nat} {failure : Option QueueError}
      {first : Passage (Option QueueError) Store} (few : c ≤ 5)
      (posted : Posted threeKept.publisher unhindered (fun _ => ⟨0⟩) s 0 c j times posts failure first) :
      Store.empty.Roomy (.atMilli 0 (.createGroup "jobs" "workers" .zero) :: posts) := by
    refine Store.roomy_of_length (List.forall_mem_cons.2 ⟨by decide, ?_⟩) ?_
    · intro q hq
      rw [posted.clocked q hq]
      decide
    · have le := posted.few
      rw [List.length_cons, posted.length_posts]
      omega
  obtain ⟨answer, shows, ended⟩ := answered.ended
  have heard : Heard unhindered first.calls.length threeKept.publisher.timeout :=
    ⟨fun _ _ => rfl, .zero, rfl, by decide⟩
  have three : (o.left.outstanding "jobs" "workers").card = 3 := by decide +kernel
  refine ⟨asks, number, ⟨answer, shown, ended, shows, answered.error, ?_⟩, ?_, ?_⟩
  · rw [answered.counted heard _ (Store.afterAll_append ..).symm (room (by decide) posted), ← answered.left]
    exact three
  · exact same.length.symm.trans (by decide +kernel)
  · exact (same.backlog (by decide) (room (by decide) posted) (room (by decide) posted')).symm.trans three

end App

end StreamQueue
