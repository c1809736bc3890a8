import StreamQueue.Proofs.Log.Group

/-!
# Reads that wait, side by side

A read for new entries goes through small steps: it subscribes to the notices of appends, it
makes an attempt, and while there was nothing for it, it takes notice after notice, until one
concerns its stream, or some are lost, or its deadline has come and no notice is left. Then it
begins again or gives up. Between any two of these steps anything may happen: time passes,
calls are carried out by anybody, other reads of the same group and of other groups take their
own steps, begin, and are given up.

An append and its notice are one step. A notice may be about another stream, may be about an
entry that another read takes first, and may be lost when there are too many of them.

`Reading.next` is one step of a read, made of what `ReadRequest.attempt` and
`ReadRequest.resume` are made of. Those two are what a read does when nothing comes in between.

## What is proved

* `Reading.leads_attempt`, `Reading.leads_resume` — an attempt and a look at a read that waits
  are steps of the read.
* `Hall.safe_after` — a read that waits has nothing left to take, or a notice of its stream
  that it has not read or has lost. What happens keeps this, step by step.
* `Hall.no_lost_wakeup` — no read waits beside an entry without a notice to wake it, and none
  gives up before its deadline or beside an entry.
-/

namespace StreamQueue

/-! ### Notices -/

namespace Feed

variable (f : Feed) (receiver : Receiver)

theorem unread_subscribe : f.unread f.subscribe = [] := by
  simp [unread, subscribe]

theorem missed_subscribe : f.missed f.subscribe = 0 := by
  simp only [missed, subscribe]
  omega

variable {f receiver}

/-- A notice that is sent stands behind the unread ones. -/
theorem unread_send (n : AppendNotice) (reached : receiver.behind ≤ f.sent.size) :
    (f.send n).unread receiver = f.unread receiver ++ [n] := by
  rw [unread, send, Array.toList_push, List.drop_append_of_le_length (by simpa using reached)]
  rfl

theorem behind_lt_of_unread {n : AppendNotice} {rest : List AppendNotice}
    (unread : f.unread receiver = n :: rest) : receiver.behind < f.sent.size := by
  have longer := congrArg List.length unread
  simp only [Feed.unread, List.length_drop, Array.length_toList, List.length_cons] at longer
  omega

theorem wakes_iff {stream : String} :
    f.wakes receiver stream = true ↔
      0 < f.missed receiver ∨ ∃ n ∈ f.unread receiver, n.stream = stream := by
  simp [wakes]

variable (f receiver)

/-- A subscriber finds that notices were lost, or the first unread one, or nothing when there
is none. -/
theorem receive?_cases :
    (0 < f.missed receiver ∧ ∃ lost left, f.receive? receiver = some (.lagged lost, left)) ∨
    (f.missed receiver = 0 ∧ ∃ n, f.receive? receiver = some (.notice n, ⟨receiver.behind + 1⟩) ∧
      f.unread receiver = n :: f.unread ⟨receiver.behind + 1⟩) ∨
    (f.missed receiver = 0 ∧ f.receive? receiver = none ∧ f.unread receiver = []) := by
  by_cases lost : 0 < f.missed receiver
  · refine .inl ⟨lost, ?_⟩
    rw [receive?, if_pos lost]
    exact ⟨_, _, rfl⟩
  · have kept : f.missed receiver = 0 := by omega
    rw [receive?, if_neg lost]
    by_cases more : receiver.behind < f.sent.size
    · refine .inr (.inl ⟨kept, f.sent[receiver.behind], ?_, ?_⟩)
      · rw [Array.getElem?_eq_getElem more]
        rfl
      · rw [unread, List.drop_eq_getElem_cons (by simpa using more), Array.getElem_toList]
        rfl
    · refine .inr (.inr ⟨kept, ?_, ?_⟩)
      · rw [Array.getElem?_eq_none (by omega)]
        rfl
      · exact List.drop_eq_nil_of_le (by simpa using more)

/-- The notices after a call. -/
def after (f : Feed) : (c : LogCall) → c.Result → Feed
  | .append stream _ _, .ok id => f.send ⟨stream, id⟩
  | _, _ => f

end Feed

/-! ### One read -/

/-- A read for new entries as it was called. At least one entry is asked for. -/
structure Reading where
  stream : String
  group : String
  consumer : String
  count : Nat
  wanted : 0 < count
  block : Option Span
  /-- The instant of the call. -/
  began : Instant

/-- How far a read has got. -/
inductive Place
  /-- It is about to subscribe. -/
  | starting
  /-- It is about to make an attempt. -/
  | subscribed (receiver : Receiver)
  /-- It waits for notices. -/
  | waiting (receiver : Receiver)
  /-- It has ended. -/
  | ended (result : Except LogError (List Entry))

/-- How far a look has brought a read. -/
def ReadStep.place : ReadStep → Place
  | ended result => .ended result
  | waiting receiver => .waiting receiver

namespace Reading

variable (r : Reading) (now : Instant) (feed : Feed)

/-- What the read asks for. Its deadline is fixed by the call. -/
def request : ReadRequest := ⟨r.stream, r.group, r.consumer, r.count, r.block.map r.began.after⟩

/-- The next step of the read, with the store it finds and leaves; nothing while it has to wait
and once it has ended. Notices are looked at before the deadline. -/
def next : Place × Store → Option (Place × Store)
  | (.starting, s) => some (.subscribed feed.subscribe, s)
  | (.subscribed receiver, s) =>
    match s.deliver now r.stream r.group r.consumer r.count with
    | .error e => some (.ended (.error e), s)
    | .ok ([], s) => some (.waiting receiver, s)
    | .ok (es, s) => some (.ended (.ok es), s)
  | (.waiting receiver, s) =>
    match feed.receive? receiver with
    | some (.notice n, receiver) =>
      some (if n.stream = r.stream then .starting else .waiting receiver, s)
    | some (.lagged _, _) => some (.starting, s)
    | none => if r.request.expired now then some (.ended (.ok []), s) else none
  | (.ended _, _) => none

/-- The read comes from one point to another by its own steps, while nothing else happens. -/
def Leads : Place × Store → Place × Store → Prop :=
  Relation.ReflTransGen fun here there => r.next now feed here = some there

variable {r now feed} {s : Store} {receiver : Receiver}

theorem attempt_eq :
    r.request.attempt now feed s =
      match s.deliver now r.stream r.group r.consumer r.count with
      | .error e => (.ended (.error e), s)
      | .ok ([], s) => (r.request.rest now feed.subscribe, s)
      | .ok (es, s) => (.ended (.ok es), s) := rfl

theorem resume_eq :
    r.request.resume now feed receiver s =
      if feed.wakes receiver r.stream then r.request.attempt now feed s
      else (r.request.rest now feed.subscribe, s) := rfl

/-- A read whose notices are all read gives up if it is late, else it waits. -/
theorem leads_rest :
    r.Leads now feed (.waiting feed.subscribe, s) ((r.request.rest now feed.subscribe).place, s) := by
  have empty : feed.receive? feed.subscribe = none := by
    obtain ⟨lost, -⟩ | ⟨-, n, -, unread⟩ | ⟨-, none, -⟩ := feed.receive?_cases feed.subscribe
    · rw [feed.missed_subscribe] at lost
      exact absurd lost (by decide)
    · rw [feed.unread_subscribe] at unread
      exact absurd unread (by simp)
    · exact none
  unfold ReadRequest.rest
  split
  · exact .single (by simp only [next, empty, if_pos ‹_›]; rfl)
  · exact .refl

/-- **An attempt** is steps of the read. -/
theorem leads_attempt :
    r.Leads now feed (.starting, s) ((r.request.attempt now feed s).map ReadStep.place id) := by
  refine .head (b := (.subscribed feed.subscribe, s)) rfl ?_
  cases found : s.deliver now r.stream r.group r.consumer r.count with
  | error e =>
    rw [attempt_eq, found]
    exact .single (by simp only [next, found]; rfl)
  | ok given =>
    obtain ⟨_ | ⟨e, es⟩, s'⟩ := given
    · have rest : r.Leads now feed (.waiting feed.subscribe, s')
          ((r.request.rest now feed.subscribe).place, s') := leads_rest
      rw [attempt_eq, found]
      exact .head (by simp only [next, found]) rest
    · rw [attempt_eq, found]
      exact .single (by simp only [next, found]; rfl)

/-- A read that waits goes through its notices: to the first that concerns it, or to their end. -/
theorem leads_notices (reached : receiver.behind ≤ feed.sent.size) :
    r.Leads now feed (.waiting receiver, s)
      (if feed.wakes receiver r.stream then .starting else .waiting feed.subscribe, s) := by
  -- By induction on the unread notices: one step takes the first of them.
  induction unread : feed.unread receiver generalizing receiver with
  | nil =>
    obtain ⟨lost, k, left, found⟩ | ⟨-, n, -, more⟩ | ⟨kept, -, -⟩ := feed.receive?_cases receiver
    · rw [if_pos (Feed.wakes_iff.2 (.inl lost))]
      exact .single (by simp only [next, found])
    · rw [unread] at more
      exact absurd more (by simp)
    · have quiet : ¬ feed.wakes receiver r.stream := by
        rw [Feed.wakes_iff, kept, unread]
        simp
      have all : receiver = feed.subscribe := by
        have le := List.drop_eq_nil_iff.1 unread
        simp only [Array.length_toList] at le
        exact congrArg Receiver.mk (Nat.le_antisymm reached le)
      rw [if_neg quiet, ← all]
      exact .refl
  | cons n rest ih =>
    obtain ⟨lost, k, left, found⟩ | ⟨kept, m, found, more⟩ | ⟨-, -, none⟩ := feed.receive?_cases receiver
    · rw [if_pos (Feed.wakes_iff.2 (.inl lost))]
      exact .single (by simp only [next, found])
    · obtain ⟨rfl, same⟩ := List.cons.inj (unread.symm.trans more)
      by_cases own : n.stream = r.stream
      · rw [if_pos (Feed.wakes_iff.2 (.inr ⟨n, by rw [more]; exact List.mem_cons_self, own⟩))]
        exact .single (by simp only [next, found, if_pos own])
      · have within : receiver.behind + 1 ≤ feed.sent.size := Feed.behind_lt_of_unread unread
        have kept' : feed.missed ⟨receiver.behind + 1⟩ = 0 := by
          simp only [Feed.missed] at kept ⊢
          omega
        have alike : feed.wakes receiver r.stream = feed.wakes ⟨receiver.behind + 1⟩ r.stream := by
          rw [Bool.eq_iff_iff, Feed.wakes_iff, Feed.wakes_iff, kept, kept', more]
          simp [own]
        rw [alike]
        exact .head (by simp only [next, found, if_neg own]) (ih within same.symm)
    · rw [none] at unread
      exact absurd unread (by simp)

/-- **A look** at a read that waits is steps of the read. -/
theorem leads_resume (reached : receiver.behind ≤ feed.sent.size) :
    r.Leads now feed (.waiting receiver, s)
      ((r.request.resume now feed receiver s).map ReadStep.place id) := by
  have notices : r.Leads now feed (.waiting receiver, s)
      (if feed.wakes receiver r.stream then .starting else .waiting feed.subscribe, s) :=
    leads_notices reached
  by_cases wakes : feed.wakes receiver r.stream
  · rw [if_pos wakes] at notices
    rw [resume_eq, if_pos wakes]
    exact notices.trans leads_attempt
  · rw [if_neg wakes] at notices
    rw [resume_eq, if_neg wakes]
    exact notices.trans leads_rest

end Reading

/-! ### What is left for a group -/

namespace View

variable {v : View} {stream group : String}

/-- The entries that are left to deliver to the group: those past its cursor. -/
def left (v : View) : List Entry :=
  match v.group with
  | some g => v.stream.after g.cursor
  | none => []

theorem fresh_eq_take (count : Nat) : v.fresh count = v.left.take count := by
  cases hg : v.group <;> simp [fresh, left, hg]

theorem left_adjust {f : Group → Group} (same : ∀ g, v.group = some g → (f g).cursor = g.cursor) :
    (v.adjust f).left = v.left := by
  cases hg : v.group with
  | none => simp [left, adjust, hg]
  | some g =>
    simp only [left, adjust, hg, Option.map_some, same g hg]
    rfl

/-- To deliver nothing leaves what is left as it is. -/
theorem left_adjust_receive (now : Instant) (consumer : String) {count : Nat} (nothing : v.fresh count = []) :
    (v.adjust fun g => g.receive now consumer (v.fresh count)).left = v.left := by
  refine left_adjust fun g _ => ?_
  rw [nothing, Group.receive_cursor]
  rfl

/-- When nothing is left for a group, only an append to its stream changes that. -/
theorem left_step (there : v.group.isSome) (nothing : v.left = []) (clock : Clock) {c : LogCall}
    (other : ∀ fields maxLen, c ≠ .append stream fields maxLen) :
    (v.step stream group clock c).left = [] := by
  refine step_elim (motive := fun v' => v'.left = []) nothing ?push ?create ?read ?see ?claim ?ack
  case push => exact fun fields maxLen call => absurd call (other fields maxLen)
  case create => exact fun _ missing => absurd there (by simp [missing])
  case read =>
    intro consumer count
    exact (left_adjust_receive clock.now consumer (by rw [fresh_eq_take, nothing, List.take_nil])).trans nothing
  case see => exact fun consumer => (left_adjust fun g _ => g.see_cursor consumer).trans nothing
  case claim =>
    intro consumer minIdle ids
    refine (left_adjust fun g _ => ?_).trans nothing
    exact v.stream.claimAll_cursor clock.now consumer minIdle (g.see consumer) ids
  case ack => exact fun ids => (left_adjust fun g _ => g.acknowledgeAll_cursor ids).trans nothing

end View

/-- The retained entries of a stream past the cursor of a group. -/
def Store.undelivered (s : Store) (stream group : String) : List Entry :=
  match s.group? stream group with
  | some (st, g) => st.after g.cursor
  | none => []

theorem Store.undelivered_eq (s : Store) (stream group : String) :
    s.undelivered stream group = (s.view stream group).left := by
  rw [undelivered, group?_eq, View.left]
  cases (s.view stream group).group <;> rfl

/-- An attempt for a group that is there is given the first of what is left. -/
theorem Store.deliver_of_isSome {s : Store} {stream group : String}
    (there : (s.view stream group).group.isSome) (now : Instant) (consumer : String) (count : Nat) :
    ∃ s', s.deliver now stream group consumer count =
      .ok ((s.view stream group).left.take count, s') := by
  obtain ⟨g, hg⟩ := Option.isSome_iff_exists.1 there
  rw [deliver_eq, hg, ← View.fresh_eq_take]
  exact ⟨_, rfl⟩

/-- When an attempt is given nothing, the group is there and nothing is left for it. -/
theorem Store.view_of_deliver_nil {s s' : Store} {now : Instant} {stream group consumer : String}
    {count : Nat} (wanted : 0 < count) (nothing : s.deliver now stream group consumer count = .ok ([], s')) :
    (s'.view stream group).group.isSome ∧ (s'.view stream group).left = [] := by
  rw [deliver_eq] at nothing
  cases hg : (s.view stream group).group with
  | none => simp [hg] at nothing
  | some g =>
    simp only [hg, Except.ok.injEq, Prod.mk.injEq] at nothing
    obtain ⟨empty, rfl⟩ := nothing
    have same := View.left_adjust_receive now consumer empty
    rw [View.fresh_eq_take, List.take_eq_nil_iff] at empty
    rw [empty.resolve_left (Nat.ne_of_gt wanted)] at same
    rw [view_putGroup, if_pos ⟨rfl, rfl⟩]
    refine ⟨rfl, ?_⟩
    rwa [View.adjust, hg] at same

/-! ### Reads side by side -/

/-- Reads on one log. -/
structure Hall where
  store : Store
  feed : Feed
  now : Instant
  /-- The reads that were called and not given up, with how far each has got. -/
  reads : Nat → Option (Reading × Place)

/-- What may happen. -/
inductive Occurrence
  | pass (d : Span)
  /-- Somebody's call is carried out, with whatever the wall clock shows. -/
  | call (wall : Timestamp) (c : LogCall)
  /-- A read is called. One that had its number is given up. -/
  | enter (i : Nat) (r : Reading)
  /-- A read is given up. -/
  | leave (i : Nat)
  /-- A read takes a step, if it need not wait. -/
  | go (i : Nat)

namespace Hall

/-- No read was called yet, on any log and with any notices sent. -/
def opened (s : Store) (f : Feed) (t : Instant) : Hall := ⟨s, f, t, fun _ => none⟩

/-- The hall after something has happened. An append is announced in the same breath, and a read
begins when it is called. -/
def occur (h : Hall) : Occurrence → Hall
  | .pass d => { h with now := h.now.after d }
  | .call wall c =>
    let (result, s) := h.store.perform ⟨h.now, wall⟩ c
    { h with store := s, feed := h.feed.after c result }
  | .enter i r =>
    { h with reads := Function.update h.reads i (some ({ r with began := h.now }, .starting)) }
  | .leave i => { h with reads := Function.update h.reads i none }
  | .go i =>
    match h.reads i with
    | none => h
    | some (r, p) =>
      match r.next h.now h.feed (p, h.store) with
      | none => h
      | some (p, s) => { h with store := s, reads := Function.update h.reads i (some (r, p)) }

/-- The hall after all that has happened. -/
def afterAll (h : Hall) (os : List Occurrence) : Hall := os.foldl occur h

theorem afterAll_snoc (h : Hall) (os : List Occurrence) (o : Occurrence) :
    h.afterAll (os ++ [o]) = (h.afterAll os).occur o := List.foldl_append ..

end Hall

/-- A read that waits has nothing left to take, or a notice of its stream in front of it. -/
def Reading.Safe (r : Reading) (feed : Feed) (s : Store) : Place → Prop
  | .subscribed receiver => receiver.behind ≤ feed.sent.size
  | .waiting receiver =>
    receiver.behind ≤ feed.sent.size ∧ (s.view r.stream r.group).group.isSome ∧
      ((s.view r.stream r.group).left = [] ∨ ∃ n ∈ feed.unread receiver, n.stream = r.stream)
  | .starting | .ended _ => True

namespace Reading

variable {r : Reading} {now : Instant} {feed : Feed} {s s' : Store} {p p' : Place}

/-- A call keeps a read safe: an append to its stream puts a notice in front of it, and no other
call brings it anything. -/
theorem Safe.call (safe : r.Safe feed s p) (clock : Clock) (c : LogCall) :
    r.Safe (feed.after c (s.perform clock c).1) (s.perform clock c).2 p := by
  have sends : feed.after c (s.perform clock c).1 = feed ∨
      ∃ n, feed.after c (s.perform clock c).1 = feed.send n ∧
        ∀ fields maxLen, c = .append r.stream fields maxLen → n.stream = r.stream := by
    cases c with
    | append x fields maxLen =>
      refine .inr ⟨_, rfl, ?_⟩
      rintro _ _ ⟨⟩
      rfl
    | _ => exact .inl rfl
  have other (same : feed.after c (s.perform clock c).1 = feed) :
      ∀ fields maxLen, c ≠ .append r.stream fields maxLen := by
    rintro fields maxLen rfl
    have longer := congrArg (·.sent.size) same
    simp [Store.perform, Feed.after, Feed.send] at longer
  cases p with
  | starting => trivial
  | ended result => trivial
  | subscribed receiver =>
    have reached : receiver.behind ≤ feed.sent.size := safe
    rcases sends with same | ⟨n, sent, -⟩
    · rw [same]
      exact reached
    · rw [sent]
      simp only [Safe, Feed.send, Array.size_push]
      omega
  | waiting receiver =>
    obtain ⟨reached, there, heeded⟩ := safe
    simp only [Safe, Store.view_perform]
    refine ⟨?_, View.isSome_group_step there clock c, ?_⟩
    · rcases sends with same | ⟨n, sent, -⟩
      · rwa [same]
      · rw [sent]
        simp only [Feed.send, Array.size_push]
        omega
    · rcases sends with same | ⟨n, sent, own⟩
      · rw [same]
        exact heeded.imp_left fun nothing => View.left_step there nothing clock (other same)
      · rw [sent, Feed.unread_send n reached]
        by_cases mine : n.stream = r.stream
        · exact .inr ⟨n, by simp, mine⟩
        · refine heeded.imp (fun nothing => View.left_step there nothing clock ?_) ?_
          · intro fields maxLen is
            exact mine (own fields maxLen is)
          · rintro ⟨m, mem, is⟩
            exact ⟨m, List.mem_append_left _ mem, is⟩

/-- A step of a read leaves the store alone or carries out the read's call. -/
theorem next_store (step : r.next now feed (p, s) = some (p', s')) (wall : Timestamp) :
    s' = s ∨
      s' = (s.perform ⟨now, wall⟩ (.readNew r.stream r.group r.consumer r.count r.block)).2 := by
  cases p with
  | starting => exact .inl (by cases step; rfl)
  | ended result => exact absurd step (by simp [next])
  | subscribed receiver =>
    simp only [next] at step
    split at step
    · exact .inl (by cases step; rfl)
    · rename_i given
      refine .inr ?_
      simp only [Store.perform, given]
      cases step
      rfl
    · rename_i given
      refine .inr ?_
      simp only [Store.perform, given]
      cases step
      rfl
  | waiting receiver =>
    simp only [next] at step
    split at step
    · exact .inl (by cases step; rfl)
    · exact .inl (by cases step; rfl)
    · split at step
      · exact .inl (by cases step; rfl)
      · exact absurd step (by simp)

/-- The steps of another read keep a read safe. -/
theorem Safe.beside {q : Reading} {place place' : Place} (safe : r.Safe feed s p)
    (step : q.next now feed (place, s) = some (place', s')) : r.Safe feed s' p := by
  rcases next_store step ⟨0⟩ with rfl | rfl
  · exact safe
  · exact safe.call ⟨now, ⟨0⟩⟩ (.readNew q.stream q.group q.consumer q.count q.block)

/-- Its own steps keep a read safe: it subscribes before it makes an attempt, and it takes only
notices that do not concern it without beginning again. -/
theorem Safe.next (safe : r.Safe feed s p) (step : r.next now feed (p, s) = some (p', s')) :
    r.Safe feed s' p' := by
  cases p with
  | starting =>
    cases step
    exact Nat.le_refl _
  | ended result => exact absurd step (by simp [Reading.next])
  | subscribed receiver =>
    simp only [Reading.next] at step
    split at step
    · cases step
      trivial
    · rename_i given
      cases step
      obtain ⟨there, nothing⟩ := Store.view_of_deliver_nil r.wanted given
      exact ⟨safe, there, .inl nothing⟩
    · cases step
      trivial
  | waiting receiver =>
    obtain ⟨reached, there, heeded⟩ := safe
    simp only [Reading.next] at step
    obtain ⟨-, lost, left, found⟩ | ⟨-, n, found, unread⟩ | ⟨-, found, -⟩ := feed.receive?_cases receiver
    · rw [found] at step
      cases step
      trivial
    · rw [found] at step
      cases step
      by_cases own : n.stream = r.stream
      · rw [if_pos own]
        trivial
      · rw [if_neg own]
        refine ⟨Feed.behind_lt_of_unread unread, there, heeded.imp_right ?_⟩
        rintro ⟨m, mem, is⟩
        rw [unread] at mem
        rcases List.mem_cons.1 mem with rfl | later
        · exact absurd is own
        · exact ⟨m, later, is⟩
    · rw [found] at step
      simp only at step
      split at step
      · cases step
        trivial
      · exact absurd step (by simp)

theorem expired_iff :
    r.request.expired now = true ↔ ∃ d, r.block = some d ∧ r.began.after d ≤ now := by
  cases hb : r.block <;> simp [ReadRequest.expired, request, hb]

/-- A read ends with no entry only when it was waiting, its notices are all read, and its deadline
has come. -/
theorem of_next_empty (step : r.next now feed (p, s) = some (.ended (.ok []), s')) :
    ∃ receiver, p = .waiting receiver ∧ feed.unread receiver = [] ∧ r.request.expired now = true := by
  cases p with
  | starting => exact absurd step (by simp [Reading.next])
  | ended result => exact absurd step (by simp [Reading.next])
  | subscribed receiver =>
    simp only [Reading.next] at step
    split at step
    · exact absurd step (by simp)
    · exact absurd step (by simp)
    · rename_i other given
      cases step
      exact (other rfl).elim
  | waiting receiver =>
    simp only [Reading.next] at step
    obtain ⟨-, lost, left, found⟩ | ⟨-, n, found, -⟩ | ⟨-, found, unread⟩ := feed.receive?_cases receiver
    · rw [found] at step
      exact absurd step (by simp)
    · rw [found] at step
      simp only [Option.some.injEq, Prod.mk.injEq] at step
      have place := step.1
      split at place <;> exact absurd place (by simp)
    · rw [found] at step
      simp only at step
      split at step
      · exact ⟨receiver, rfl, unread, ‹_›⟩
      · exact absurd step (by simp)

/-- A look at a safe read that waits gives it the first of what is left, or nothing once it is
too late. -/
theorem Safe.resume {receiver : Receiver} (safe : r.Safe feed s (.waiting receiver))
    (goes : (s.view r.stream r.group).left ≠ [] ∨ r.request.expired now = true) :
    ∃ s', r.request.resume now feed receiver s =
      (.ended (.ok ((s.view r.stream r.group).left.take r.count)), s') := by
  obtain ⟨-, there, heeded⟩ := safe
  rw [resume_eq]
  by_cases wakes : feed.wakes receiver r.stream
  · obtain ⟨s', given⟩ := Store.deliver_of_isSome there now r.consumer r.count
    rw [if_pos wakes, attempt_eq, given]
    cases first : (s.view r.stream r.group).left.take r.count with
    | nil =>
      have nothing := (List.take_eq_nil_iff.1 first).resolve_left (Nat.ne_of_gt r.wanted)
      have late := goes.resolve_left (not_not.2 nothing)
      exact ⟨s', by simp only [ReadRequest.rest, if_pos late]⟩
    | cons e es => exact ⟨s', rfl⟩
  · have nothing : (s.view r.stream r.group).left = [] := by
      refine heeded.resolve_right fun noticed => wakes ?_
      exact Feed.wakes_iff.2 (.inr noticed)
    have late := goes.resolve_left (not_not.2 nothing)
    rw [if_neg wakes, ReadRequest.rest, if_pos late, nothing, List.take_nil]
    exact ⟨s, rfl⟩

end Reading

namespace Hall

/-- All reads are safe. -/
def Safe (h : Hall) : Prop := ∀ i r p, h.reads i = some (r, p) → r.Safe h.feed h.store p

/-- **One occurrence** keeps all reads safe. -/
theorem Safe.occur {h : Hall} (safe : h.Safe) (o : Occurrence) : (h.occur o).Safe := by
  cases o with
  | pass d => exact safe
  | call wall c => exact fun i r p found => (safe i r p found).call ⟨h.now, wall⟩ c
  | enter i q =>
    intro j r p found
    by_cases here : j = i
    · simp only [Hall.occur, here, Function.update_self, Option.some.injEq, Prod.mk.injEq] at found
      obtain ⟨-, rfl⟩ := found
      trivial
    · simp only [Hall.occur, Function.update_of_ne here] at found
      exact safe j r p found
  | leave i =>
    intro j r p found
    by_cases here : j = i
    · simp [Hall.occur, here] at found
    · simp only [Hall.occur, Function.update_of_ne here] at found
      exact safe j r p found
  | go i =>
    simp only [Hall.occur]
    split
    · exact safe
    · rename_i q place stands
      split
      · exact safe
      · rename_i place' s step
        intro j r p found
        by_cases here : j = i
        · simp only [here, Function.update_self, Option.some.injEq, Prod.mk.injEq] at found
          obtain ⟨rfl, rfl⟩ := found
          exact (safe i q place stands).next step
        · simp only [Function.update_of_ne here] at found
          exact (safe j r p found).beside step

/-- Whatever happens, all reads are safe. -/
theorem safe_after (s : Store) (f : Feed) (t : Instant) (os : List Occurrence) :
    ((opened s f t).afterAll os).Safe := by
  induction os using List.reverseRecOn with
  | nil => exact fun i r p found => absurd found (by simp [opened, afterAll])
  | append_singleton os o ih =>
    rw [afterAll_snoc]
    exact ih.occur o

/-- Only by a step of its own does a read come to an end. -/
theorem eq_or_next_of_ended {h : Hall} {o : Occurrence} {i : Nat} {r : Reading}
    {result : Except LogError (List Entry)} (found : (h.occur o).reads i = some (r, .ended result)) :
    h.reads i = some (r, .ended result) ∨
      ∃ p s, h.reads i = some (r, p) ∧ r.next h.now h.feed (p, h.store) = some (.ended result, s) := by
  cases o with
  | pass d => exact .inl found
  | call wall c => exact .inl found
  | enter j q =>
    by_cases here : i = j
    · simp [occur, here] at found
    · simp only [occur, Function.update_of_ne here] at found
      exact .inl found
  | leave j =>
    by_cases here : i = j
    · simp [occur, here] at found
    · simp only [occur, Function.update_of_ne here] at found
      exact .inl found
  | go j =>
    simp only [occur] at found
    split at found
    · exact .inl found
    · rename_i q place stands
      split at found
      · exact .inl found
      · rename_i place' s step
        by_cases here : i = j
        · simp only [here, Function.update_self, Option.some.injEq, Prod.mk.injEq] at found
          obtain ⟨rfl, rfl⟩ := found
          rw [here]
          exact .inr ⟨place, s, stands, step⟩
        · simp only [Function.update_of_ne here] at found
          exact .inl found

/-- **No lost wake-up**: take any log, any notices sent, and whatever happens from then on, in any
order. A read that waits while there is an entry past its group's cursor has lost notices or has
an unread one of its stream. When there is such an entry, or when its deadline has come, its own
steps alone bring it to an end, with as many of these entries as it asked for. And a read that
ends with no entry does so at its deadline or later, counted from its call, and only when there
is no entry past its group's cursor. -/
theorem no_lost_wakeup (s : Store) (f : Feed) (t : Instant) (os : List Occurrence) :
    (∀ i r receiver, ((opened s f t).afterAll os).reads i = some (r, .waiting receiver) →
      let h := (opened s f t).afterAll os
      let left := h.store.undelivered r.stream r.group
      (left ≠ [] → 0 < h.feed.missed receiver ∨ ∃ n ∈ h.feed.unread receiver, n.stream = r.stream) ∧
      (left ≠ [] ∨ (∃ d, r.block = some d ∧ r.began.after d ≤ h.now) →
        ∃ s', r.Leads h.now h.feed (.waiting receiver, h.store) (.ended (.ok (left.take r.count)), s'))) ∧
    ∀ o i r, ((opened s f t).afterAll (os ++ [o])).reads i = some (r, .ended (.ok [])) →
      let h := (opened s f t).afterAll os
      h.reads i = some (r, .ended (.ok [])) ∨
        (∃ d, r.block = some d ∧ r.began.after d ≤ h.now) ∧ h.store.undelivered r.stream r.group = [] := by
  have safe := safe_after s f t os
  generalize into : (opened s f t).afterAll os = h at safe
  constructor
  · intro i r receiver found
    simp only [Store.undelivered_eq, ← Reading.expired_iff]
    obtain ⟨reached, there, heeded⟩ := safe i r _ found
    refine ⟨fun unread => .inr (heeded.resolve_left unread), fun goes => ?_⟩
    obtain ⟨s', looked⟩ := Reading.Safe.resume (safe i r _ found) goes
    have steps : r.Leads h.now h.feed (.waiting receiver, h.store)
        ((r.request.resume h.now h.feed receiver h.store).map ReadStep.place id) :=
      Reading.leads_resume reached
    rw [looked] at steps
    exact ⟨s', steps⟩
  · intro o i r found
    rw [afterAll_snoc, into] at found
    rcases eq_or_next_of_ended found with before | ⟨p, s', stands, step⟩
    · exact .inl before
    · obtain ⟨receiver, rfl, read, late⟩ := Reading.of_next_empty step
      obtain ⟨-, -, heeded⟩ := safe i r _ stands
      refine .inr ⟨Reading.expired_iff.1 late, ?_⟩
      rw [Store.undelivered_eq]
      refine heeded.resolve_right ?_
      rintro ⟨n, mem, -⟩
      rw [read] at mem
      exact absurd mem (by simp)

/-- A read of one entry by a consumer of the group, who waits for some milliseconds. -/
def reader (consumer : String) (ms : Nat) : Reading :=
  ⟨"jobs", "workers", consumer, 1, Nat.one_pos, some (.ofMillis ms), .zero⟩

/-- Ann and bob wait. An entry of another stream wakes neither, and of the two that an entry of
their own wakes, ann is the first to take it. -/
def twoWait : List Occurrence := [
  .call ⟨0⟩ (.createGroup "jobs" "workers" .zero),
  .enter 0 (reader "ann" 9), .enter 1 (reader "bob" 5), .go 0, .go 0, .go 1, .go 1,
  .pass (.ofMillis 2), .call ⟨0⟩ (.append "mail" [] 10), .call ⟨0⟩ (.append "jobs" [] 10)]

/-- The rest of it: bob wakes for nothing, waits again, and gives up at his deadline. -/
def oneTakes : List Occurrence := [
  .go 0, .go 0, .go 0, .go 0, .go 1, .go 1, .go 1, .go 1, .pass (.ofMillis 3)]

/-- While both wait, bob would be given the entry; when ann has taken it, he ends with none. -/
theorem no_lost_wakeup_twoReaders :
    (∃ receiver s', ((opened .empty .empty .zero).afterAll twoWait).reads 1 =
        some (reader "bob" 5, .waiting receiver) ∧
      (reader "bob" 5).Leads ⟨2000000⟩ ((opened .empty .empty .zero).afterAll twoWait).feed
        (.waiting receiver, ((opened .empty .empty .zero).afterAll twoWait).store)
        (.ended (.ok [⟨⟨0, 1⟩, .ofList []⟩]), s')) ∧
    ((opened .empty .empty .zero).afterAll (twoWait ++ oneTakes ++ [.go 1])).reads 1 =
      some (reader "bob" 5, .ended (.ok [])) ∧
    (reader "bob" 5).began.after (.ofMillis 5) ≤
      ((opened .empty .empty .zero).afterAll (twoWait ++ oneTakes)).now := by
  have waits : ((opened .empty .empty .zero).afterAll twoWait).reads 1 =
      some (reader "bob" 5, .waiting ⟨0⟩) := rfl
  have ends : ((opened .empty .empty .zero).afterAll (twoWait ++ oneTakes ++ [.go 1])).reads 1 =
      some (reader "bob" 5, .ended (.ok [])) := rfl
  obtain ⟨-, leads⟩ := (no_lost_wakeup .empty .empty .zero twoWait).1 1 _ _ waits
  obtain ⟨s', steps⟩ := leads (.inl (by decide))
  refine ⟨⟨⟨0⟩, s', waits, steps⟩, ends, ?_⟩
  obtain before | ⟨⟨d, block, late⟩, -⟩ :=
    (no_lost_wakeup .empty .empty .zero (twoWait ++ oneTakes)).2 (.go 1) 1 _ ends
  · exact absurd before (by simp [show ((opened .empty .empty .zero).afterAll (twoWait ++ oneTakes)).reads 1 =
      some (reader "bob" 5, .waiting ⟨2⟩) from rfl])
  · obtain rfl := Option.some.inj block
    exact late

end Hall

end StreamQueue
