import StreamQueue.Proofs.Log.Conservation

/-!
# The representation of a log

What a store may look like after any history. The entries of a stream are in order and lie
between the least identifier and the last one given out. The cursor of a group is not past
both its start and the last identifier, and what is pending was appended behind the start and
is not past the cursor. Every pending delivery was made at least once, to a consumer that the
group knows, and not in the future.

The wall clock has no part in this, whatever it shows. The monotonic clock has: that a delivery
does not lie in the future rests on this clock not going back.

A search for an entry may rely on the order. `Stream.find?` walks the entries and stops where
the entry would have stood; `Stream.bisect` goes to the middle and goes on with one half. On a
stream in order they agree, and find an entry exactly if it is retained.

## What is proved

* `View.Sane.step` — one call keeps what is not in the order of entries or in the ledger.
* `Stream.bisect_eq_some_iff` — a search by halving finds what is retained.
* `Store.representation` — what holds of every stream and every group after every history.
-/

namespace StreamQueue

attribute [local instance] StreamId.linearOrder

/-! ### Searching by halving -/

namespace Stream

/-- The entry with an identifier between two places of a list: the walk goes to the middle and
on with the half in which the entry would stand. -/
def bisectIn (es : List Entry) (id : StreamId) (low high : Nat) : Option Entry :=
  if low < high then
    match es[low + (high - low) / 2]? with
    | some e =>
      if e.id < id then bisectIn es id (low + (high - low) / 2 + 1) high
      else if id < e.id then bisectIn es id low (low + (high - low) / 2)
      else some e
    | none => none
  else none
termination_by high - low

/-- The retained entry with an identifier, found by halving. -/
def bisect (s : Stream) (id : StreamId) : Option Entry := bisectIn s.entries id 0 s.entries.length

/-- In a list in order, earlier places hold lesser identifiers. -/
theorem id_lt_of_lt {es : List Entry} (increasing : es.Pairwise fun a b => a.id < b.id) {i j : Nat}
    {a b : Entry} (ha : es[i]? = some a) (hb : es[j]? = some b) (before : i < j) : a.id < b.id := by
  obtain ⟨hi, rfl⟩ := List.getElem?_eq_some_iff.1 ha
  obtain ⟨hj, rfl⟩ := List.getElem?_eq_some_iff.1 hb
  exact List.pairwise_iff_getElem.1 increasing i j hi hj before

theorem bisectIn_eq_some_iff {es : List Entry} (increasing : es.Pairwise fun a b => a.id < b.id)
    {id : StreamId} {e : Entry} {low high : Nat} (within : high ≤ es.length) :
    bisectIn es id low high = some e ↔ ∃ i, low ≤ i ∧ i < high ∧ es[i]? = some e ∧ e.id = id := by
  fun_induction bisectIn es id low high with
  | case1 low high inRange m hm less ih =>
    rw [ih within]
    constructor
    · rintro ⟨i, above, below, he, same⟩
      exact ⟨i, by omega, below, he, same⟩
    · rintro ⟨i, above, below, he, rfl⟩
      refine ⟨i, ?_, below, he, rfl⟩
      -- Up to the middle all identifiers are too small.
      by_contra notPast
      rcases Nat.lt_or_eq_of_le (Nat.not_lt.1 notPast) with before | rfl
      · exact absurd less (not_lt.2 (le_of_lt (id_lt_of_lt increasing he hm before)))
      · obtain rfl := Option.some.inj (hm.symm.trans he)
        exact absurd less (lt_irrefl _)
  | case2 low high inRange m hm notLess greater ih =>
    rw [ih (by omega)]
    constructor
    · rintro ⟨i, above, below, he, same⟩
      exact ⟨i, above, by omega, he, same⟩
    · rintro ⟨i, above, below, he, rfl⟩
      refine ⟨i, above, ?_, he, rfl⟩
      -- From the middle on all identifiers are too great.
      by_contra notBefore
      rcases Nat.lt_or_eq_of_le (Nat.not_lt.1 notBefore) with past | same
      · exact absurd greater (not_lt.2 (le_of_lt (id_lt_of_lt increasing hm he past)))
      · obtain rfl := Option.some.inj (hm.symm.trans (same ▸ he))
        exact absurd greater (lt_irrefl _)
  | case3 low high inRange m hm notLess notGreater =>
    have found : m.id = id := le_antisymm (not_lt.1 notGreater) (not_lt.1 notLess)
    constructor
    · rintro same
      obtain rfl := Option.some.inj same
      exact ⟨_, by omega, by omega, hm, found⟩
    · rintro ⟨i, above, below, he, same⟩
      rcases Nat.lt_trichotomy i (low + (high - low) / 2) with before | rfl | past
      · exact absurd (id_lt_of_lt increasing he hm before) (by rw [same, found]; exact lt_irrefl _)
      · exact hm.symm.trans he
      · exact absurd (id_lt_of_lt increasing hm he past) (by rw [same, found]; exact lt_irrefl _)
  | case4 low high inRange missing =>
    rw [List.getElem?_eq_none_iff] at missing
    omega
  | case5 low high shut =>
    simp only [reduceCtorEq, false_iff, not_exists, not_and]
    intro i above below
    omega

theorem bisect_eq_some_iff {s : Stream} (increasing : s.entries.Pairwise fun a b => a.id < b.id)
    {id : StreamId} {e : Entry} : s.bisect id = some e ↔ e ∈ s.entries ∧ e.id = id := by
  rw [bisect, bisectIn_eq_some_iff increasing (Nat.le_refl _), List.mem_iff_getElem?]
  constructor
  · rintro ⟨i, -, -, he, same⟩
    exact ⟨⟨i, he⟩, same⟩
  · rintro ⟨⟨i, he⟩, same⟩
    exact ⟨i, Nat.zero_le _, (List.getElem?_eq_some_iff.1 he).1, he, same⟩

/-- On a stream in order both searches agree. -/
theorem bisect_eq_find? {s : Stream} (increasing : s.entries.Pairwise fun a b => a.id < b.id)
    (id : StreamId) : s.bisect id = s.find? id :=
  Option.ext fun _ => (bisect_eq_some_iff increasing).trans (findIn_eq_some_iff increasing).symm

end Stream

/-! ### Pending deliveries -/

/-- A delivery was made at least once, to one of the consumers, and not in the future. -/
structure Delivery.Sane (consumers : List String) (now : Instant) (d : Delivery) : Prop where
  counted : 1 ≤ d.count
  known : d.owner ∈ consumers
  past : d.since ≤ now

namespace Group

/-- Every pending delivery of a group is sane. -/
def Sane (now : Instant) (g : Group) : Prop :=
  ∀ id d, g.pending.get? id = some d → d.Sane g.consumers now

variable {g : Group} {now : Instant}

theorem Sane.later (h : g.Sane now) {t : Instant} (later : now ≤ t) : g.Sane t := by
  intro id d hd
  obtain ⟨counted, known, past⟩ := h id d hd
  exact ⟨counted, known, Nat.le_trans past later⟩

/-- Deliveries that a group had before, or that are made now to a consumer that it knows. -/
theorem Sane.of (h : g.Sane now) {g' : Group} {consumer : String} (more : g.consumers ⊆ g'.consumers)
    (known : consumer ∈ g'.consumers)
    (source : ∀ id d, g'.pending.get? id = some d → g.pending.get? id = some d ∨
      1 ≤ d.count ∧ d.owner = consumer ∧ d.since = now) : g'.Sane now := by
  intro id d hd
  obtain old | ⟨counted, rfl, rfl⟩ := source id d hd
  · exact ⟨(h id d old).counted, more (h id d old).known, (h id d old).past⟩
  · exact ⟨counted, known, Nat.le_refl _⟩

theorem sane_startingAt (start : StreamId) (now : Instant) : (startingAt start).Sane now := by
  intro id d hd
  simp at hd

theorem Sane.see (h : g.Sane now) (consumer : String) : (g.see consumer).Sane now :=
  h.of (g.see_consumers consumer).1 (g.see_consumers consumer).2 fun _ _ hd => .inl hd

theorem Sane.receive (h : g.Sane now) (consumer : String) (es : List Entry) :
    (g.receive now consumer es).Sane now := by
  have consumers := g.receive_consumers now consumer es
  refine h.of (consumers ▸ (g.see_consumers consumer).1) (consumers ▸ (g.see_consumers consumer).2) ?_
  intro id d hd
  rcases old_or_received hd with old | ⟨-, rfl⟩
  · exact .inl old
  · exact .inr ⟨Nat.le_refl _, rfl, rfl⟩

theorem Sane.acknowledgeAll (h : g.Sane now) (ids : List StreamId) : (g.acknowledgeAll ids).2.Sane now := by
  intro id d hd
  rw [get?_acknowledgeAll] at hd
  rw [acknowledgeAll_consumers]
  split at hd
  · simp at hd
  · exact h id d hd

end Group

theorem Group.Sane.claimAll {g : Group} {now : Instant} (h : g.Sane now) (s : Stream) (consumer : String)
    (minIdle : Span) (ids : List StreamId) :
    (s.claimAll now consumer minIdle (g.see consumer) ids).2.Sane now := by
  have consumers := s.claimAll_consumers now consumer minIdle (g.see consumer) ids
  refine (h.see consumer).of (consumers ▸ List.Subset.refl _)
    (consumers ▸ (g.see_consumers consumer).2) ?_
  intro id d hd
  exact (Stream.old_or_claimed hd).imp_right And.right

/-! ### One call -/

/-- No entry has the least identifier, and the pending deliveries are sane. -/
structure View.Sane (now : Instant) (v : View) : Prop where
  positive : ∀ e ∈ v.entries, StreamId.zero < e.id
  group : ∀ g ∈ v.group, g.Sane now

namespace View

variable {v : View} {now : Instant}

theorem Sane.later (h : v.Sane now) {t : Instant} (later : now ≤ t) : v.Sane t :=
  ⟨h.positive, fun g hg => (h.group g hg).later later⟩

theorem Sane.adjust (h : v.Sane now) {f : Group → Group} (keeps : ∀ g, g.Sane now → (f g).Sane now) :
    (v.adjust f).Sane now := by
  refine ⟨h.positive, fun g hg => ?_⟩
  obtain ⟨g', hg', rfl⟩ := Option.map_eq_some_iff.1 hg
  exact keeps g' (h.group g' hg')

theorem Sane.push (h : v.Sane now) (room : v.lastId ≠ StreamId.last) (wall : Timestamp) (fields : Fields)
    (maxLen : Nat) : (v.push wall fields maxLen).Sane now := by
  refine ⟨fun e he => ?_, h.group⟩
  rcases List.mem_append.1 (List.mem_of_mem_drop he) with old | new
  · exact h.positive e old
  · rw [List.mem_singleton.1 new]
    exact lt_of_le_of_lt (StreamId.zero_le _) (Stream.lt_nextId (s := v.stream) room wall)

/-- **One call** leaves entries past the least identifier and the pending deliveries sane. -/
theorem Sane.step {clock : Clock} (h : v.Sane clock.now) (stream group : String) (c : LogCall)
    (room : ∀ fields maxLen, c = .append stream fields maxLen → v.lastId ≠ StreamId.last) :
    (v.step stream group clock c).Sane clock.now := by
  refine View.step_elim h ?push ?create ?read ?see ?claim ?ack
  case push =>
    intro fields maxLen call
    exact h.push (room fields maxLen call) _ _ _
  case create =>
    intro start _
    refine ⟨h.positive, fun g hg => ?_⟩
    obtain rfl := Option.some.inj hg
    exact Group.sane_startingAt start _
  case read => exact fun consumer count => h.adjust fun g hg => hg.receive consumer _
  case see => exact fun consumer => h.adjust fun g hg => hg.see consumer
  case claim => exact fun consumer minIdle ids => h.adjust fun g hg => hg.claimAll v.stream consumer minIdle ids
  case ack => exact fun ids => h.adjust fun g hg => hg.acknowledgeAll ids

end View

/-! ### Every history -/

/-- The entries of a stream are in order, past the least identifier and not past the last. -/
structure Stream.WellFormed (s : Stream) : Prop where
  increasing : s.entries.Pairwise fun a b => a.id < b.id
  positive : ∀ e ∈ s.entries, StreamId.zero < e.id
  le_lastId : ∀ e ∈ s.entries, e.id ≤ s.lastId

/-- A group that began at `start`, on a stream to which `appended` was appended and whose last
identifier is `lastId`. -/
structure Group.WellFormed (start lastId : StreamId) (appended : List StreamId) (now : Instant)
    (g : Group) : Prop where
  cursor_le : g.cursor ≤ max start lastId
  pending_appended : ∀ id ∈ g.pending.keys, id ∈ appended
  pending_between : ∀ id ∈ g.pending.keys, start < id ∧ id ≤ g.cursor
  sane : g.Sane now

namespace Store

variable {cs : List TimedCall} {stream group : String}

theorem sane_afterAll (stream group : String) (room : empty.Roomy cs) (steady : Steady cs) {now : Instant}
    (past : ∀ c ∈ cs, c.clock.now ≤ now) : ((empty.afterAll cs).view stream group).Sane now := by
  refine steady_induction (P := fun _ s t => (s.view stream group).Sane t) (fun t => ?_)
    (fun h a t sane fits later => ?_) cs room steady now past
  · refine ⟨?_, ?_⟩ <;> simp [view_empty]
  · rw [Act.left_view]
    refine (sane.step stream group a.call fun fields maxLen call => ?_).later later
    rw [Act.HasRoom, call] at fits
    exact fits

/-- A group began at one start, its cursor is not past both this start and the last identifier,
and what is pending was appended between the start and the cursor. -/
theorem wellFormed_afterAll (room : empty.Roomy cs) (steady : Steady cs) {now : Instant}
    (past : ∀ c ∈ cs, c.clock.now ≤ now) {g : Group}
    (there : ((empty.afterAll cs).view stream group).group = some g) :
    ∃ start, (empty.history cs).started stream group = [start] ∧
      g.WellFormed start ((empty.afterAll cs).view stream group).lastId ((empty.history cs).appended stream)
        now := by
  have sound := sound_afterAll stream group room
  obtain ⟨start, started, -, bound, iff⟩ := sound.present g.cursor (by simp [View.ledger, there])
  have pending (id : StreamId) (hid : id ∈ g.pending.keys) :
      id ∈ (empty.history cs).appended stream ∧ start < id ∧ id ≤ g.cursor := by
    have keys : g.pending.keys = ((empty.afterAll cs).pendingOf stream group).keys := by
      rw [pendingOf_eq, View.pending, there]
    have delivered : id ∈ (empty.history cs).delivered stream group :=
      (balance_afterAll stream group room).mem_iff.1
        (List.mem_append_left _ (List.mem_append_left _ (keys ▸ hid)))
    obtain ⟨appended, after, upTo, -⟩ := (iff id).1 delivered
    exact ⟨appended, after, upTo⟩
  refine ⟨start, started, ?_, fun id hid => (pending id hid).1, fun id hid => (pending id hid).2,
    (sane_afterAll stream group room steady past).group g there⟩
  rcases bound with same | upTo
  · exact same ▸ le_max_left _ _
  · exact le_trans upTo (le_max_right _ _)

/-- **Representation**: after every history that had room, on a monotonic clock that does not go
back and with a wall clock that may show anything, every stream is well formed; to search it by
walking or by halving finds an entry exactly if this entry is retained; and every group has been
created once and is well formed with regard to where it was created, up to any instant that is
past the calls of the history. -/
theorem representation (room : empty.Roomy cs) (steady : Steady cs) {now : Instant}
    (past : ∀ c ∈ cs, c.clock.now ≤ now) {st : Stream}
    (there : (empty.afterAll cs).streams.get? stream = some st) :
    st.WellFormed ∧
    (∀ id e, (st.find? id = some e ↔ e ∈ st.entries ∧ e.id = id) ∧ st.bisect id = st.find? id) ∧
    (∀ id, (st.bisect id).isSome ↔ id ∈ (empty.afterAll cs).retained stream) ∧
    ∀ group g, st.groups.get? group = some g →
      ∃ start, (empty.history cs).started stream group = [start] ∧
        g.WellFormed start st.lastId ((empty.history cs).appended stream) now := by
  have same : (empty.afterAll cs).streamOrNew stream = st := by simp [streamOrNew, there]
  have inOrder := inOrder_afterAll room stream ""
  have increasing : st.entries.Pairwise fun a b => a.id < b.id := same ▸ inOrder.increasing
  have search (id : StreamId) (e : Entry) : st.find? id = some e ↔ e ∈ st.entries ∧ e.id = id :=
    Stream.findIn_eq_some_iff increasing
  refine ⟨⟨increasing, ?_, same ▸ inOrder.le_lastId⟩,
    fun id e => ⟨search id e, Stream.bisect_eq_find? increasing id⟩, fun id => ?_, fun group g hg => ?_⟩
  · exact same ▸ (sane_afterAll stream "" room steady past).positive
  · rw [retained, entries, there, Stream.bisect_eq_find? increasing, Option.isSome_iff_exists, List.mem_map]
    exact exists_congr fun e => search id e
  · subst same
    exact wellFormed_afterAll room steady past hg

/-- An entry that is claimed once it is trimmed, one that is claimed while it is retained, an
append that keeps nothing, and a wall clock that goes back before the epoch. -/
def wallGoesBack : List TimedCall := [
  .atMilli 0 (.createGroup "jobs" "workers" .zero), .atMilli 1 (.append "jobs" [] 0),
  .atMilli 2 (.append "jobs" [] 2), .atMilli 3 (.append "jobs" [] 2),
  .atMilli 4 (.readNew "jobs" "workers" "ann" 2 none),
  ⟨⟨⟨5000000⟩, ⟨-7000000⟩⟩, .append "jobs" [] 2⟩,
  .atMilli 9 (.claim "jobs" "workers" "bob" (.ofMillis 5) [⟨3, 0⟩, ⟨2, 0⟩, ⟨3, 0⟩])]

/-- The identifiers still increase, and what is pending is bob's. -/
theorem representation_wallGoesBack :
    empty.Roomy wallGoesBack ∧ Steady wallGoesBack ∧ (∀ c ∈ wallGoesBack, c.clock.now ≤ ⟨9000000⟩) ∧
    ∃ st, (empty.afterAll wallGoesBack).streams.get? "jobs" = some st ∧
      st.entries.map (·.id) = [⟨3, 0⟩, ⟨3, 1⟩] ∧ st.WellFormed ∧
      ∃ g, st.groups.get? "workers" = some g ∧ g.pending.pairs = [(⟨3, 0⟩, ⟨"bob", ⟨9000000⟩, 2⟩)] ∧
        g.WellFormed .zero ⟨3, 1⟩ [⟨1, 0⟩, ⟨2, 0⟩, ⟨3, 0⟩, ⟨3, 1⟩] ⟨9000000⟩ := by
  have room : empty.Roomy wallGoesBack := by decide
  have steady : Steady wallGoesBack := by decide
  have past : ∀ c ∈ wallGoesBack, c.clock.now ≤ ⟨9000000⟩ := by decide
  have there : (empty.afterAll wallGoesBack).streams.get? "jobs" =
      some ((empty.afterAll wallGoesBack).streamOrNew "jobs") := rfl
  obtain ⟨stream, -, -, groups⟩ := representation room steady past there
  refine ⟨room, steady, past, _, there, by decide, stream, _, rfl, by decide, ?_⟩
  obtain ⟨start, started, group⟩ := groups "workers" _ rfl
  obtain rfl : StreamId.zero = start := by simpa using (by decide : _ = [StreamId.zero]).symm.trans started
  exact group

end Store

end StreamQueue
