import StreamQueue.Proofs.Log.FirstDelivery

/-!
# Ownership as a lease

A pending entry belongs to the consumer to which it was delivered last, and a claim can take it
over only when it has waited for long enough since. Consumers look for such entries with one
call and claim them with another, and between the two anything may happen; what keeps two of
them from coming by the same entry is that a claim looks at the time again, and that the time
counts anew from each delivery.

The deliveries of an entry are the answers in which it was given out: by the read for new
entries that came to it first, and by claims. An entry counts as often as an answer holds it. A
claim that asks for no time to have passed, and names an entry several times, gives it out as
often, at one and the same moment.

## What is proved

* `Leased` — how the deliveries of an entry, what the pending list says of it and the cursor
  hang together.
* `Act.leased` — one act keeps this.
* `Store.lease` — deliveries lie apart by at least the time that the later one has asked for,
  and the pending list tells of the last one.
* `Store.count_ne_calls` — a claim that gives an entry out twice counts it twice.
-/

namespace StreamQueue

attribute [local instance] StreamId.linearOrder

/-- A delivery of an entry to a consumer. -/
structure Handover where
  time : Instant
  consumer : String
  /-- How long a claim has asked the entry to have waited; nothing for the first delivery. -/
  minIdle : Option Span
  deriving DecidableEq, Repr

namespace Act

/-- How often the act gives out an entry of a group. -/
def times (stream group : String) (id : StreamId) (a : Act) : Nat :=
  (a.answered stream group).countP (·.id = id)

/-- To whom the act delivers what it gives out, and how. To show a consumer what is pending for
it is not a delivery. -/
def handing (a : Act) : Option Handover :=
  match a.call with
  | .readNew _ _ consumer _ _ => some ⟨a.clock.now, consumer, none⟩
  | .claim _ _ consumer minIdle _ => some ⟨a.clock.now, consumer, some minIdle⟩
  | _ => none

/-- The deliveries of an entry of a group that the act makes. -/
def handovers (stream group : String) (id : StreamId) (a : Act) : List Handover :=
  match a.handing with
  | some h => List.replicate (a.times stream group id) h
  | none => []

theorem handing_of_mem_handovers {a : Act} {stream group : String} {id : StreamId} {h : Handover}
    (mem : h ∈ a.handovers stream group id) : a.handing = some h := by
  unfold handovers at mem
  split at mem
  · rename_i handing
    rw [List.eq_of_mem_replicate mem, handing]
  · exact absurd mem List.not_mem_nil

theorem time_of_mem_handovers {a : Act} {stream group : String} {id : StreamId} {h : Handover}
    (mem : h ∈ a.handovers stream group id) : h.time = a.clock.now := by
  have handing := handing_of_mem_handovers mem
  unfold Act.handing at handing
  split at handing
  · rw [← Option.some.inj handing]
  · rw [← Option.some.inj handing]
  · exact absurd handing (by simp)

end Act

/-- The deliveries of an entry of a group in a history, in order. -/
def History.handovers (h : History) (stream group : String) (id : StreamId) : List Handover :=
  h.flatMap (·.handovers stream group id)

/-- One delivery is a claim that the other lets through: it comes at least as much later as it
has asked for. -/
def Handover.Apart (earlier later : Handover) : Prop :=
  ∃ m, later.minIdle = some m ∧ earlier.time.after m ≤ later.time

/-- How the deliveries of an entry so far hang together with what is pending for it and with
the cursor of its group. -/
structure Leased (id : StreamId) (now : Instant) (hs : List Handover) (pending : Option Delivery)
    (cursor : Option StreamId) : Prop where
  first : ∀ h ∈ hs.head?, h.minIdle = none
  apart : hs.Pairwise Handover.Apart
  past : ∀ h ∈ hs, h.time ≤ now
  last : ∀ d ∈ pending, ∃ h ∈ hs.getLast?, d = ⟨h.consumer, h.time, hs.length⟩
  /-- What was delivered is not past the cursor, so it is not read as new again. -/
  behind : hs ≠ [] → ∃ c ∈ cursor, id ≤ c

namespace Leased

variable {id : StreamId} {now : Instant} {hs : List Handover} {pending : Option Delivery}
  {cursor : Option StreamId}

theorem nil (id : StreamId) (now : Instant) (cursor : Option StreamId) : Leased id now [] none cursor := by
  constructor <;> simp

theorem later (h : Leased id now hs pending cursor) {t : Instant} (later : now ≤ t) :
    Leased id t hs pending cursor :=
  ⟨h.first, h.apart, fun x hx => Nat.le_trans (h.past x hx) later, h.last, h.behind⟩

/-- Nothing is delivered, and what is pending stays or is gone. -/
theorem keep (h : Leased id now hs pending cursor) {pending' : Option Delivery} {cursor' : Option StreamId}
    (same : pending' = pending ∨ pending' = none) (forward : ∀ c ∈ cursor, ∃ c' ∈ cursor', c ≤ c') :
    Leased id now hs pending' cursor' := by
  refine ⟨h.first, h.apart, h.past, fun d hd => ?_, fun some => ?_⟩
  · rcases same with rfl | rfl
    · exact h.last d hd
    · simp at hd
  · obtain ⟨c, hc, le⟩ := h.behind some
    obtain ⟨c', hc', le'⟩ := forward c hc
    exact ⟨c', hc', le_trans le le'⟩

/-- The entry is read as new. -/
theorem read (h : Leased id now hs pending cursor) (new : ∀ c ∈ cursor, c < id) (consumer : String)
    {c : StreamId} (passed : id ≤ c) :
    Leased id now (hs ++ [⟨now, consumer, none⟩]) (some ⟨consumer, now, 1⟩) (some c) := by
  obtain rfl : hs = [] := by
    by_contra some
    obtain ⟨c, hc, le⟩ := h.behind some
    exact absurd (new c hc) (not_lt.2 le)
  refine ⟨by simp, by simp, ?_, ?_, fun _ => ⟨c, rfl, passed⟩⟩
  · rintro x hx
    obtain rfl := List.mem_singleton.1 hx
    exact Nat.le_refl _
  · rintro d hd
    obtain rfl := Option.some.inj hd
    exact ⟨_, rfl, rfl⟩

/-- No delivery is later than the last one. -/
theorem time_le_last (h : Leased id now hs pending cursor) {last : Handover} (hl : last ∈ hs.getLast?) :
    ∀ x ∈ hs, x.time ≤ last.time := by
  obtain ⟨init, rfl⟩ := List.getLast?_eq_some_iff.1 hl
  intro x hx
  rcases List.mem_append.1 hx with earlier | is
  · obtain ⟨m, -, le⟩ := (List.pairwise_append.1 h.apart).2.2 x earlier last (List.mem_singleton_self _)
    exact Nat.le_trans (Nat.le_add_right _ _) le
  · rw [List.mem_singleton.1 is]
    exact Nat.le_refl _

/-- The entry is claimed, and given out some times. -/
theorem claim (h : Leased id now hs pending cursor) {d : Delivery} (was : pending = some d)
    {consumer : String} {minIdle : Span} (idle : minIdle ≤ now.since d.since) {times : Nat}
    (some : 0 < times) (again : 1 < times → minIdle = Span.zero) {cursor' : Option StreamId}
    (forward : ∀ c ∈ cursor, ∃ c' ∈ cursor', c ≤ c') :
    Leased id now (hs ++ List.replicate times ⟨now, consumer, .some minIdle⟩)
      (.some ⟨consumer, now, d.count + times⟩) cursor' := by
  obtain ⟨last, hl, rfl⟩ := h.last d was
  have lastPast : last.time ≤ now := h.past last (List.mem_of_mem_getLast? hl)
  have waited : last.time.after minIdle ≤ now := by
    simp only [Span.le_def, Instant.since, Instant.le_def, Instant.after] at idle lastPast ⊢
    omega
  refine ⟨?_, List.pairwise_append.2 ⟨h.apart, ?_, ?_⟩, ?_, ?_, fun _ => ?_⟩
  · rw [List.head?_append_of_ne_nil _ (List.ne_nil_of_mem (List.mem_of_mem_getLast? hl))]
    exact h.first
  · -- Within one claim no time passes, so it has asked for none if it gives the entry out again.
    refine List.pairwise_replicate.2 ?_
    by_cases twice : 1 < times
    · refine .inr ⟨minIdle, rfl, ?_⟩
      rw [again twice]
      exact Nat.le_refl _
    · exact .inl (Nat.not_lt.1 twice)
  · intro x hx y hy
    rw [List.eq_of_mem_replicate hy]
    exact ⟨minIdle, rfl, Nat.le_trans (Nat.add_le_add_right (h.time_le_last hl x hx) _) waited⟩
  · intro x hx
    rcases List.mem_append.1 hx with old | new
    · exact h.past x old
    · rw [List.eq_of_mem_replicate new]
      exact Nat.le_refl _
  · rintro e he
    obtain rfl := Option.some.inj he
    obtain ⟨n, rfl⟩ := Nat.exists_eq_succ_of_ne_zero (Nat.ne_of_gt some)
    refine ⟨⟨now, consumer, .some minIdle⟩, ?_, by simp⟩
    rw [List.replicate_succ', ← List.append_assoc, List.getLast?_concat]
    rfl
  · obtain ⟨c, hc, le⟩ := h.behind (List.ne_nil_of_mem (List.mem_of_mem_getLast? hl))
    obtain ⟨c', hc', le'⟩ := forward c hc
    exact ⟨c', hc', le_trans le le'⟩

end Leased

/-! ### One act -/

/-- The deliveries of an entry so far hang together with what the view of its group says. -/
def View.Leased (v : View) (id : StreamId) (now : Instant) (hs : List Handover) : Prop :=
  StreamQueue.Leased id now hs (v.pending.get? id) (v.group.map (·.cursor))

namespace Act

variable {stream group : String} {id : StreamId} {hs : List Handover}

theorem leased_idle {a : Act} (inOrder : (a.found.view stream group).InOrder)
    (h : (a.found.view stream group).Leased id a.clock.now hs) (nothing : a.handovers stream group id = [])
    (same : (a.left.view stream group).pending.get? id = (a.found.view stream group).pending.get? id ∨
      (a.left.view stream group).pending.get? id = none) :
    (a.left.view stream group).Leased id a.clock.now (hs ++ a.handovers stream group id) := by
  rw [nothing, List.append_nil]
  refine h.keep same fun c hc => ?_
  rw [← Store.cursor?_eq] at hc ⊢
  obtain ⟨c', hc', le, -⟩ := a.cursor_left inOrder hc
  exact ⟨c', hc', le⟩

variable {s : Store} {clock : Clock} {consumer : String} {g : Group}

/-- A read for new entries gives an entry out once at most. -/
theorem times_readNew {count : Nat} {block : Option Span} (inOrder : (s.view stream group).InOrder) :
    times stream group id ⟨s, clock, .readNew stream group consumer count block⟩ =
      if id ∈ ((s.view stream group).fresh count).map (·.id) then 1 else 0 := by
  rw [times, answered_eq, View.answered, if_pos ⟨rfl, rfl⟩]
  have nodup : (((s.view stream group).fresh count).map (·.id)).Nodup :=
    ((inOrder.fresh count).imp fun h => ne_of_lt h).map _ fun _ _ apart => apart
  rw [← nodup.count, List.count_eq_countP, List.countP_map]
  exact List.countP_congr fun e _ => by simp

theorem leased_readNew {count : Nat} {block : Option Span} (there : (s.view stream group).group = some g)
    (inOrder : (s.view stream group).InOrder) (h : (s.view stream group).Leased id clock.now hs) :
    let a : Act := ⟨s, clock, .readNew stream group consumer count block⟩
    (a.left.view stream group).Leased id clock.now (hs ++ a.handovers stream group id) := by
  intro a
  have left := a.left_view stream group
  rw [View.step, if_pos ⟨rfl, rfl⟩, View.adjust, there] at left
  have pending : (a.left.view stream group).pending.get? id =
      if id ∈ ((s.view stream group).fresh count).map (·.id) then some ⟨consumer, clock.now, 1⟩
      else (s.view stream group).pending.get? id := by
    rw [left, View.pending, View.pending, there]
    exact g.get?_receive clock.now consumer _ id
  have handovers : a.handovers stream group id =
      List.replicate (a.times stream group id) ⟨clock.now, consumer, none⟩ := rfl
  rw [times_readNew inOrder] at handovers
  by_cases given : id ∈ ((s.view stream group).fresh count).map (·.id)
  · rw [if_pos given] at handovers pending
    obtain ⟨-, past, passed⟩ := (View.mem_fresh_iff clock.now consumer inOrder there count id).1 given
    rw [View.Leased, handovers, pending, left]
    refine h.read (fun c hc => ?_) consumer passed
    obtain rfl : g.cursor = c := by simpa [there] using hc
    exact past
  · rw [if_neg given] at handovers pending
    exact leased_idle inOrder h handovers (.inl pending)

theorem leased_claim {minIdle : Span} {ids : List StreamId} (there : (s.view stream group).group = some g)
    (inOrder : (s.view stream group).InOrder) (h : (s.view stream group).Leased id clock.now hs) :
    let a : Act := ⟨s, clock, .claim stream group consumer minIdle ids⟩
    (a.left.view stream group).Leased id clock.now (hs ++ a.handovers stream group id) := by
  intro a
  have left := a.left_view stream group
  rw [View.step, if_pos ⟨rfl, rfl⟩, View.adjust, there] at left
  have found : (s.view stream group).pending = g.pending := by rw [View.pending, there]
  have turned := (s.view stream group).stream.turned_claimAll clock.now consumer minIdle (g.see consumer) ids id
  have times : a.times stream group id = ((s.view stream group).stream.claimAll clock.now consumer minIdle
      (g.see consumer) ids).1.countP (·.id = id) := by
    rw [Act.times, answered_eq, View.answered, if_pos ⟨rfl, rfl⟩, there]
    rfl
  have pending : (a.left.view stream group).pending.get? id = ((s.view stream group).stream.claimAll clock.now
      consumer minIdle (g.see consumer) ids).2.pending.get? id := by
    rw [left, View.pending]
    rfl
  have handovers : a.handovers stream group id =
      List.replicate (a.times stream group id) ⟨clock.now, consumer, some minIdle⟩ := rfl
  rw [← times, ← pending, Group.see_pending, ← found] at turned
  obtain ⟨none, same⟩ | ⟨d, was, some, idle, is, again⟩ := turned
  · rw [none] at handovers
    exact leased_idle inOrder h handovers (same.imp_right fun gone => gone.1)
  · rw [View.Leased, handovers, is]
    refine h.claim was idle some again fun c hc => ?_
    rw [← Store.cursor?_eq] at hc ⊢
    obtain ⟨c', hc', le, -⟩ := a.cursor_left inOrder hc
    exact ⟨c', hc', le⟩

/-- **One act** keeps the deliveries of an entry together with what the store says of it. -/
theorem leased (a : Act) (inOrder : (a.found.view stream group).InOrder)
    (h : (a.found.view stream group).Leased id a.clock.now hs) :
    (a.left.view stream group).Leased id a.clock.now (hs ++ a.handovers stream group id) := by
  have left := a.left_view stream group
  obtain ⟨s, clock, c⟩ := a
  -- A call on another group gives nothing out of this one.
  have silent (elsewhere : (⟨s, clock, c⟩ : Act).answered stream group = []) :
      (⟨s, clock, c⟩ : Act).handovers stream group id = [] := by
    unfold handovers times
    rw [elsewhere]
    split <;> rfl
  cases c with
  | readNew x y consumer count block =>
    by_cases here : x = stream ∧ y = group
    · obtain ⟨rfl, rfl⟩ := here
      cases there : (s.view x y).group with
      | some g => exact leased_readNew there inOrder h
      | none =>
        refine leased_idle inOrder h (silent ?_) (.inl ?_)
        · rw [answered_eq, View.answered, if_pos ⟨rfl, rfl⟩, View.fresh, there]
        · rw [left, View.step, if_pos ⟨rfl, rfl⟩, View.adjust, View.pending, View.pending, there]
          rfl
    · rw [View.step, if_neg here] at left
      refine leased_idle inOrder h (silent ?_) (.inl (by rw [left]))
      rw [answered_eq, View.answered, if_neg here]
  | claim x y consumer minIdle ids =>
    by_cases here : x = stream ∧ y = group
    · obtain ⟨rfl, rfl⟩ := here
      cases there : (s.view x y).group with
      | some g => exact leased_claim there inOrder h
      | none =>
        refine leased_idle inOrder h (silent ?_) (.inl ?_)
        · rw [answered_eq, View.answered, if_pos ⟨rfl, rfl⟩, there]
          rfl
        · rw [left, View.step, if_pos ⟨rfl, rfl⟩, View.adjust, View.pending, View.pending, there]
          rfl
    · rw [View.step, if_neg here] at left
      refine leased_idle inOrder h (silent ?_) (.inl (by rw [left]))
      rw [answered_eq, View.answered, if_neg here]
  | ack x y ids =>
    refine leased_idle inOrder h rfl ?_
    rw [left, View.step]
    split
    · rw [View.adjust, View.pending, View.pending]
      cases (s.view stream group).group with
      | none => exact .inl rfl
      | some g =>
        rw [Option.map_some, g.get?_acknowledgeAll]
        by_cases named : id ∈ ids
        · exact .inr (if_pos named)
        · exact .inl (if_neg named)
    · exact .inl rfl
  | append x fields maxLen =>
    refine leased_idle inOrder h rfl (.inl ?_)
    rw [left, View.step]
    split <;> rfl
  | createGroup x y start =>
    refine leased_idle inOrder h rfl (.inl ?_)
    rw [left, View.step]
    split
    · cases there : (s.view stream group).group <;> simp [View.pending, there]
    · rfl
  | readPending x y consumer after count =>
    refine leased_idle inOrder h rfl (.inl ?_)
    rw [left, View.step]
    split
    · cases there : (s.view stream group).group <;> simp [View.pending, View.adjust, there]
    · rfl
  | ping | pendingEntries | pendingCount | len | rangeAfter | groups =>
    exact leased_idle inOrder h rfl (.inl (by rw [left]; rfl))

/-- To replay or to list what is pending changes nothing of it. -/
theorem pendingOf_left_of_looks {a : Act}
    (looks : (∃ x y consumer after count, a.call = .readPending x y consumer after count) ∨
      ∃ x y minIdle after count, a.call = .pendingEntries x y minIdle after count) :
    a.left.pendingOf stream group = a.found.pendingOf stream group ∧ a.handovers stream group id = [] := by
  have left := a.left_view stream group
  obtain ⟨s, clock, c⟩ := a
  rw [Store.pendingOf_eq, Store.pendingOf_eq, left]
  obtain ⟨x, y, consumer, after, count, rfl⟩ | ⟨x, y, minIdle, after, count, rfl⟩ := looks
  · refine ⟨?_, rfl⟩
    rw [View.step]
    split
    · cases there : (s.view stream group).group <;> simp [View.pending, View.adjust, there]
    · rfl
  · exact ⟨rfl, rfl⟩

end Act

/-! ### Every history -/

namespace Store

variable {cs : List TimedCall} {stream group : String}

theorem leased_afterAll (stream group : String) (id : StreamId) (room : empty.Roomy cs) (steady : Steady cs)
    {now : Instant} (past : ∀ c ∈ cs, c.clock.now ≤ now) :
    ((empty.afterAll cs).view stream group).Leased id now ((empty.history cs).handovers stream group id) := by
  refine (steady_induction (P := fun h s t => (s.view stream group).InOrder ∧
      (s.view stream group).Leased id t (h.handovers stream group id))
    (fun t => ⟨inOrder_empty stream group, Leased.nil id t _⟩)
    (fun h a t ⟨inOrder, leased⟩ fits later => ⟨inOrder_left fits inOrder, ?_⟩) cs room steady now past).2
  rw [History.handovers, List.flatMap_append, List.flatMap_singleton]
  exact (a.leased inOrder leased).later later

/-- What a listing says of an entry is what the pending list holds. -/
theorem get?_of_mem_pendingEntries {s : Store} {now : Instant} {minIdle : Span} {after : StreamId} {count : Nat}
    {ps : List PendingEntry} (listed : s.pendingEntries now stream group minIdle after count = .ok ps)
    {p : PendingEntry} (hp : p ∈ ps) :
    ∃ d, (s.pendingOf stream group).get? p.id = some d ∧ p = Group.listing now p.id d := by
  rw [pendingEntries, groupOr_eq] at listed
  rw [pendingOf_eq, View.pending]
  cases there : (s.view stream group).group with
  | none =>
    rw [there] at listed
    exact absurd listed (by simp [bind, Except.bind])
  | some g =>
    rw [there] at listed
    obtain rfl := Except.ok.inj listed
    obtain ⟨q, hq, rfl⟩ := List.mem_map.1 (List.mem_of_mem_filter (List.mem_of_mem_filter (List.mem_of_mem_take hp)))
    exact ⟨q.2, Table.mem_pairs_iff.1 hq, rfl⟩

/-- There is an instant that is past some calls. -/
theorem exists_past (cs : List TimedCall) : ∃ now : Instant, ∀ c ∈ cs, c.clock.now ≤ now := by
  induction cs with
  | nil => exact ⟨Instant.zero, by simp⟩
  | cons c cs ih =>
    obtain ⟨now, past⟩ := ih
    refine ⟨⟨max c.clock.now.nanos now.nanos⟩, fun d hd => ?_⟩
    rcases List.mem_cons.1 hd with rfl | hd
    · exact Nat.le_max_left _ _
    · exact Nat.le_trans (past d hd) (Nat.le_max_right _ _)

/-- What the deliveries of an entry of a group, in order, say of each other and of what is pending, in the
history of some calls. -/
structure Leases (cs : List TimedCall) (stream group : String) (id : StreamId) : Prop where
  /-- The first is a read. -/
  first : ∀ h ∈ ((empty.history cs).handovers stream group id).head?, h.minIdle = none
  /-- Every later one is a claim, which comes at least its own idle time after each one before it. -/
  apart : ((empty.history cs).handovers stream group id).Pairwise
    (fun earlier later => ∃ m, later.minIdle = some m ∧ earlier.time.after m ≤ later.time)
  /-- While the entry is pending, it is told by the last of them, and by how many there are. -/
  pending : ∀ d, ((empty.afterAll cs).pendingOf stream group).get? id = some d →
    ∃ last, ((empty.history cs).handovers stream group id).getLast? = some last ∧
      d.owner = last.consumer ∧ d.since = last.time ∧
      d.count = ((empty.history cs).handovers stream group id).length
  /-- A listing at any later instant says so. -/
  listed : ∀ now, (∀ c ∈ cs, c.clock.now ≤ now) → ∀ minIdle after count ps,
    (empty.afterAll cs).pendingEntries now stream group minIdle after count = .ok ps →
    ∀ p ∈ ps, p.id = id →
      ∃ last, ((empty.history cs).handovers stream group id).getLast? = some last ∧
        p.consumer = last.consumer ∧ last.time.after p.idle = now ∧
        p.deliveries = ((empty.history cs).handovers stream group id).length
  /-- To replay or to list what is pending changes none of this. -/
  looks : ∀ a ∈ empty.history cs, (∃ x y consumer after count, a.call = .readPending x y consumer after count) ∨
      (∃ x y minIdle after count, a.call = .pendingEntries x y minIdle after count) →
    a.left.pendingOf stream group = a.found.pendingOf stream group ∧ a.handovers stream group id = []
  /-- An act delivers an entry more than once only if it is a claim that asks for no time to have passed. -/
  again : ∀ a ∈ empty.history cs, 1 < (a.handovers stream group id).length →
    ∀ h ∈ a.handovers stream group id, h.minIdle = some Span.zero
  /-- Whatever two consumers have seen in a listing, their claims lie apart by the idle time that the later one has
  asked for. -/
  competing : ∀ front a between b back, empty.history cs = front ++ a :: between ++ b :: back →
    ∀ x ∈ a.handovers stream group id, ∀ y ∈ b.handovers stream group id, ∀ m,
      y.minIdle = some m → a.clock.now.after m ≤ b.clock.now

/-- **Leases**: take any history that had room, on a monotonic clock that does not go back, and
the deliveries of an entry of a group in it. While the entry is pending it is leased to the consumer
of the last delivery, and nobody else is given it until the idle time that he asks for has passed. -/
theorem lease (id : StreamId) (room : empty.Roomy cs) (steady : Steady cs) : Leases cs stream group id := by
  have leased {now : Instant} (past : ∀ c ∈ cs, c.clock.now ≤ now) :=
    leased_afterAll stream group id room steady past
  obtain ⟨horizon, past⟩ := exists_past cs
  have apart := (leased past).apart
  rw [History.handovers, List.pairwise_flatMap] at apart
  refine ⟨(leased past).first, (leased past).apart, fun d hd => ?_, ?_, fun a _ => Act.pendingOf_left_of_looks,
    fun a ha twice h hh => ?_, ?_⟩
  · rw [pendingOf_eq] at hd
    obtain ⟨last, hl, rfl⟩ := (leased past).last d hd
    exact ⟨last, hl, rfl, rfl, rfl⟩
  · rintro now past minIdle after count ps listed p hp rfl
    obtain ⟨d, hd, same⟩ := get?_of_mem_pendingEntries listed hp
    rw [pendingOf_eq] at hd
    obtain ⟨last, hl, rfl⟩ := (leased past).last d hd
    have le := (leased past).past last (List.mem_of_mem_getLast? hl)
    refine ⟨last, hl, by rw [same]; rfl, ?_, by rw [same]; rfl⟩
    rw [same]
    exact congrArg Instant.mk (Nat.add_sub_cancel' le)
  · have alike : a.handovers stream group id = List.replicate (a.times stream group id) h := by
      rw [Act.handovers, Act.handing_of_mem_handovers hh]
    have within := apart.1 a ha
    rw [alike, List.length_replicate] at twice
    rw [alike, List.pairwise_replicate] at within
    obtain ⟨m, asked, le⟩ := within.resolve_left (Nat.not_le.2 twice)
    simp only [Instant.le_def, Instant.after] at le
    rw [asked, show m = Span.zero from congrArg Span.mk (by omega)]
  · intro front a between b back split x hx y hy m asked
    have ordered := apart.2
    rw [split, List.pairwise_append] at ordered
    obtain ⟨m', asked', le⟩ := ordered.2.2 a (by simp) b List.mem_cons_self x hx y hy
    obtain rfl := Option.some.inj (asked.symm.trans asked')
    rwa [Act.time_of_mem_handovers hx, Act.time_of_mem_handovers hy] at le

/-- Two consumers list the same stuck entry and claim it, and the second one is too early at first. -/
def competing : List TimedCall := [
  .atMilli 0 (.createGroup "jobs" "workers" .zero), .atMilli 1 (.append "jobs" [] 10),
  .atMilli 2 (.readNew "jobs" "workers" "ann" 1 none),
  .atMilli 9 (.pendingEntries "jobs" "workers" (.ofMillis 5) .zero 10),
  .atMilli 9 (.pendingEntries "jobs" "workers" (.ofMillis 5) .zero 10),
  .atMilli 10 (.claim "jobs" "workers" "bob" (.ofMillis 5) [⟨1, 0⟩]),
  .atMilli 11 (.claim "jobs" "workers" "carol" (.ofMillis 5) [⟨1, 0⟩]),
  .atMilli 15 (.claim "jobs" "workers" "carol" (.ofMillis 5) [⟨1, 0⟩, ⟨1, 0⟩])]

/-- The entry goes from ann to bob, and on to carol once bob has had his time. -/
theorem lease_competing :
    empty.Roomy competing ∧ Steady competing ∧
    (empty.history competing).handovers "jobs" "workers" ⟨1, 0⟩ =
      [⟨⟨2000000⟩, "ann", none⟩, ⟨⟨10000000⟩, "bob", some (.ofMillis 5)⟩,
        ⟨⟨15000000⟩, "carol", some (.ofMillis 5)⟩] ∧
    ((empty.history competing).handovers "jobs" "workers" ⟨1, 0⟩).Pairwise
      (fun earlier later => ∃ m, later.minIdle = some m ∧ earlier.time.after m ≤ later.time) ∧
    ∃ d, ((empty.afterAll competing).pendingOf "jobs" "workers").get? ⟨1, 0⟩ = some d ∧
      d.owner = "carol" ∧ d.since = ⟨15000000⟩ ∧ d.count = 3 := by
  have room : empty.Roomy competing := by decide
  have steady : Steady competing := by decide
  have handovers : (empty.history competing).handovers "jobs" "workers" ⟨1, 0⟩ =
      [⟨⟨2000000⟩, "ann", none⟩, ⟨⟨10000000⟩, "bob", some (.ofMillis 5)⟩,
        ⟨⟨15000000⟩, "carol", some (.ofMillis 5)⟩] := by decide
  obtain ⟨-, apart, pending, -⟩ := lease ⟨1, 0⟩ room steady
  refine ⟨room, steady, handovers, apart, _, rfl, ?_⟩
  obtain ⟨last, is, owner, since, count⟩ := pending _ rfl
  rw [handovers] at is count
  obtain rfl := Option.some.inj is
  exact ⟨owner, since, count⟩

/-- A claim names an entry twice and asks for no time to have passed. -/
def namedTwice : List TimedCall := [
  .atMilli 0 (.createGroup "jobs" "workers" .zero), .atMilli 1 (.append "jobs" [] 10),
  .atMilli 2 (.readNew "jobs" "workers" "ann" 1 none),
  .atMilli 3 (.claim "jobs" "workers" "bob" .zero [⟨1, 0⟩, ⟨1, 0⟩])]

/-- Two calls have given the entry out, a read and a claim; but the claim has given it out twice,
and three deliveries are counted. -/
theorem count_ne_calls :
    empty.Roomy namedTwice ∧ Steady namedTwice ∧
    ((empty.history namedTwice).filter fun a => 0 < a.times "jobs" "workers" ⟨1, 0⟩).map (·.call) =
      [.readNew "jobs" "workers" "ann" 1 none, .claim "jobs" "workers" "bob" .zero [⟨1, 0⟩, ⟨1, 0⟩]] ∧
    ((empty.afterAll namedTwice).pendingOf "jobs" "workers").get? ⟨1, 0⟩ =
      some ⟨"bob", ⟨3000000⟩, 3⟩ ∧
    ¬ ∀ cs, empty.Roomy cs → Steady cs → ∀ id d,
      ((empty.afterAll cs).pendingOf "jobs" "workers").get? id = some d →
      d.count = ((empty.history cs).filter fun a => 0 < a.times "jobs" "workers" id).length := by
  have room : empty.Roomy namedTwice := by decide
  have steady : Steady namedTwice := by decide
  refine ⟨room, steady, by decide, by decide, fun all => ?_⟩
  exact absurd (all namedTwice room steady ⟨1, 0⟩ ⟨"bob", ⟨3000000⟩, 3⟩ (by decide)) (by decide)

end Store

end StreamQueue
