import StreamQueue.Proofs.Lists
import StreamQueue.Proofs.Log.Page

/-!
# Claims of any list of entries

A claim goes through its list one identifier at a time. The list may be in any order, and it may
name entries that are not pending, that have not waited for long enough, or that are not retained
any more; it may also name an entry twice. Each turn sees what the turns before it have left of the
group, so what an entry comes to depends on whether the claim has met it already.

An entry waits for the claim if it is pending and has been for as long as is asked for. A turn gives
it out or forgets it, and in both cases the entry does not wait any more, unless it is retained and
no time is asked for. So the turns that find an entry waiting are the first ones of those that wait
at the start, or all of them if no time is asked for.

## What is proved

* `Stream.waits_claimOne` — what waits behind a turn.
* `Stream.claimAll_append` — a claim of two lists is a claim of one and then of the other.
* `Stream.claimAll_fst_eq` — what a claim gives out, by what waits at the start.
* `Stream.claimed_claimAll` — what it leaves of the group.
* `Store.claim_exactly` — this of a claim after any history.
-/

namespace StreamQueue

attribute [local instance] StreamId.linearOrder

namespace Group

variable (g : Group) (now : Instant) (minIdle : Span)

/-- An entry waits for a claim: it is pending, and has been for as long as is asked for. -/
def Waits (id : StreamId) : Prop := ∃ d, g.pending.get? id = some d ∧ minIdle ≤ now.since d.since

instance (id : StreamId) : Decidable (g.Waits now minIdle id) :=
  decidable_of_iff ((g.pending.get? id).any (fun d => minIdle ≤ now.since d.since) = true) <| by
    rw [Option.any_eq_true]
    simp only [decide_eq_true_eq]
    rfl

/-- The identifiers of a list at whose turns an entry waits for the claim: all that wait at the
start, but each only once if some time is asked for. -/
def turns (ids : List StreamId) : List StreamId :=
  let waiting := ids.filter fun id => g.Waits now minIdle id
  if minIdle = .zero then waiting else waiting.eraseDups

variable {g now minIdle}

/-- How often an entry that waits has its turn. -/
theorem count_turns {ids : List StreamId} {id : StreamId} (named : id ∈ ids) (waits : g.Waits now minIdle id) :
    (g.turns now minIdle ids).count id = if minIdle = .zero then ids.count id else 1 := by
  simp only [turns]
  split
  · exact List.count_filter (decide_eq_true waits)
  · have there : id ∈ (ids.filter fun id => g.Waits now minIdle id).eraseDups := by
      rw [List.mem_eraseDups, List.mem_filter]
      exact ⟨named, decide_eq_true waits⟩
    rw [(nodup_eraseDups _).count, if_pos there]

/-- Entries that all wait, each named once, have their turns in the order of the list. -/
theorem turns_of_once {ids : List StreamId} (once : ids.Nodup) (waits : ∀ id ∈ ids, g.Waits now minIdle id) :
    g.turns now minIdle ids = ids := by
  have all : (ids.filter fun id => g.Waits now minIdle id) = ids := by
    rw [List.filter_eq_self]
    exact fun id named => decide_eq_true (waits id named)
  simp only [turns, all, eraseDups_of_nodup once, ite_self]

end Group

namespace Stream

variable (s : Stream) (now : Instant) (me : String) (minIdle : Span) (g : Group)

/-- A turn gives out the entry if it waits and is retained. -/
theorem claimOne_fst_eq (id : StreamId) :
    (s.claimOne now me minIdle g id).1 = if g.Waits now minIdle id then s.find? id else none := by
  by_cases waits : g.Waits now minIdle id
  · rw [if_pos waits, claimOne]
    obtain ⟨d, pending, late⟩ := waits
    have due : ¬ now.since d.since < minIdle := Nat.not_lt.2 late
    rw [pending]
    simp only [if_neg due]
    cases s.find? id <;> rfl
  · rw [if_neg waits, claimOne]
    cases pending : g.pending.get? id with
    | none => rfl
    | some d =>
      have early : now.since d.since < minIdle := by
        by_contra due
        exact waits ⟨d, pending, Nat.not_lt.1 due⟩
      simp only [if_pos early]

/-- Only the entry at its turn may cease to wait. It waits on if it is retained and no time is asked
for, since it has waited for no time. -/
theorem waits_claimOne (id other : StreamId) :
    (s.claimOne now me minIdle g id).2.Waits now minIdle other ↔
      g.Waits now minIdle other ∧ (other = id → minIdle = .zero ∧ (s.find? id).isSome) := by
  rw [Group.Waits, get?_claimOne]
  by_cases here : other = id
  · subst here
    simp only [if_true, forall_const]
    cases pending : g.pending.get? other with
    | none => simp [Group.Waits, pending]
    | some d =>
      simp only [Option.bind_some, atTurn, Group.Waits, pending, Option.some.injEq, exists_eq_left']
      by_cases early : now.since d.since < minIdle
      · have late : ¬ minIdle ≤ now.since d.since := Nat.not_le.2 early
        simp [early, late]
      · have late : minIdle ≤ now.since d.since := Nat.not_lt.1 early
        have atOnce : minIdle ≤ now.since now ↔ minIdle = .zero := by
          rw [Span.le_def, Instant.since, Nat.sub_self, Nat.le_zero, ← Span.mk.injEq]
          rfl
        cases s.find? other with
        | none => simp [early]
        | some e => simp [early, late, atOnce]
  · simp [here, Group.Waits]

/-- A claim of two lists is a claim of the one, and then one of the other. -/
theorem claimAll_append (before after : List StreamId) :
    s.claimAll now me minIdle g (before ++ after) =
      ((s.claimAll now me minIdle g before).1 ++
          (s.claimAll now me minIdle (s.claimAll now me minIdle g before).2 after).1,
        (s.claimAll now me minIdle (s.claimAll now me minIdle g before).2 after).2) := by
  induction before generalizing g with
  | nil => rfl
  | cons id before ih =>
    simp only [List.cons_append, claimAll, ih, List.append_assoc]

/-- What waits behind a claim is what it does not name, or what is retained if no time is asked for. -/
theorem waits_claimAll (ids : List StreamId) (id : StreamId) :
    (s.claimAll now me minIdle g ids).2.Waits now minIdle id ↔
      g.Waits now minIdle id ∧ (id ∈ ids → minIdle = .zero ∧ (s.find? id).isSome) := by
  induction ids generalizing g with
  | nil => simp [claimAll]
  | cons first ids ih =>
    change (s.claimAll now me minIdle (s.claimOne now me minIdle g first).2 ids).2.Waits now minIdle id ↔ _
    rw [ih, waits_claimOne, List.mem_cons]
    by_cases here : id = first
    · subst here
      simp only [true_or, forall_const]
      tauto
    · simp only [here, false_or, false_implies, and_true]

/-- The turns behind the first one. -/
theorem filterMap_turns_claimOne (first : StreamId) (ids : List StreamId) :
    (g.turns now minIdle (first :: ids)).filterMap s.find? =
      (if g.Waits now minIdle first then s.find? first else none).toList ++
        ((s.claimOne now me minIdle g first).2.turns now minIdle ids).filterMap s.find? := by
  by_cases zero : minIdle = .zero
  · -- What is no longer retained is not given out at a second turn either.
    have same : (ids.filter fun id => (s.claimOne now me minIdle g first).2.Waits now minIdle id).filterMap s.find? =
        (ids.filter fun id => g.Waits now minIdle id).filterMap s.find? := by
      simp only [List.filterMap_filter]
      refine List.filterMap_congr fun id _ => ?_
      by_cases here : id = first
      · subst here
        cases found : s.find? id <;> simp [waits_claimOne, zero, found]
      · simp [waits_claimOne, here]
    simp only [Group.turns, if_pos zero, same, List.filter_cons, decide_eq_true_eq]
    split
    · rw [List.filterMap_cons]
      cases s.find? first <;> rfl
    · rfl
  · have others : (ids.filter fun id => (s.claimOne now me minIdle g first).2.Waits now minIdle id) =
        (ids.filter fun id => g.Waits now minIdle id).filter fun id => !id == first := by
      rw [List.filter_filter]
      refine List.filter_congr fun id _ => ?_
      rw [Bool.eq_iff_iff]
      simp [waits_claimOne, zero, and_comm]
    simp only [Group.turns, if_neg zero, others, List.filter_cons, decide_eq_true_eq]
    by_cases waits : g.Waits now minIdle first
    · rw [if_pos waits, if_pos waits, List.eraseDups_cons, List.filterMap_cons]
      cases s.find? first <;> rfl
    · have apart : (ids.filter fun id => g.Waits now minIdle id).filter (fun id => !id == first) =
          ids.filter fun id => g.Waits now minIdle id := by
        rw [List.filter_eq_self]
        intro id hid
        have there : g.Waits now minIdle id := of_decide_eq_true (List.mem_filter.1 hid).2
        rw [Bool.not_eq_true', beq_eq_false_iff_ne]
        rintro rfl
        exact waits there
      rw [if_neg waits, if_neg waits, apart]
      rfl

/-- **What a claim gives out**: what is retained, at the turns of the entries that wait. -/
theorem claimAll_fst_eq (ids : List StreamId) :
    (s.claimAll now me minIdle g ids).1 = (g.turns now minIdle ids).filterMap s.find? := by
  induction ids generalizing g with
  | nil =>
    simp only [Group.turns, List.filter_nil]
    split <;> rfl
  | cons first ids ih =>
    change (s.claimOne now me minIdle g first).1.toList ++
      (s.claimAll now me minIdle (s.claimOne now me minIdle g first).2 ids).1 = _
    rw [ih, claimOne_fst_eq, ← filterMap_turns_claimOne]

/-- What a claim of any list of identifiers gives out, and what it makes of a group. -/
structure Claimed (entries : List Entry) (now : Instant) (me : String) (minIdle : Span) (ids : List StreamId)
    (g : Group) (given : List Entry) (g' : Group) : Prop where
  /-- What is given out is retained. -/
  stored : ∀ e ∈ given, e ∈ entries
  /-- It is what is retained of the entries that wait at their turn, turn by turn. -/
  inTurn : given.map (·.id) = (g.turns now minIdle ids).filter (· ∈ entries.map (·.id))
  /-- An entry is given out once, or as often as it is named if no time is asked for. -/
  times : ∀ id ∈ ids, g.Waits now minIdle id → id ∈ entries.map (·.id) →
    (given.map (·.id)).count id = if minIdle = .zero then ids.count id else 1
  /-- What is given out belongs to the consumer from now on, and has counted every time. -/
  taken : ∀ id ∈ given.map (·.id), ∃ d, g.pending.get? id = some d ∧
    g'.pending.get? id = some ⟨me, now, d.count + (given.map (·.id)).count id⟩
  /-- What waits and is not retained is forgotten. -/
  forgotten : ∀ id ∈ ids, g.Waits now minIdle id → id ∉ entries.map (·.id) → g'.pending.get? id = none
  /-- What is not named or does not wait is as it was. -/
  untouched : ∀ id, ¬ (id ∈ ids ∧ g.Waits now minIdle id) → g'.pending.get? id = g.pending.get? id
  cursor : g'.cursor = g.cursor
  consumers : g'.consumers = g.consumers

variable {s now me minIdle g}

/-- A claim touches nothing that it does not name or that does not wait. -/
theorem get?_claimAll_of_apart {ids : List StreamId} {id : StreamId}
    (apart : ¬ (id ∈ ids ∧ g.Waits now minIdle id)) :
    (s.claimAll now me minIdle g ids).2.pending.get? id = g.pending.get? id := by
  induction ids generalizing g with
  | nil => rfl
  | cons first ids ih =>
    change (s.claimAll now me minIdle (s.claimOne now me minIdle g first).2 ids).2.pending.get? id = _
    rw [ih, get?_claimOne]
    · split
      · rename_i here
        subst here
        cases pending : g.pending.get? id with
        | none => rfl
        | some d =>
          have early : now.since d.since < minIdle := by
            by_contra due
            exact apart ⟨List.mem_cons_self, d, pending, Nat.not_lt.1 due⟩
          rw [Option.bind_some, atTurn, if_pos early]
      · rfl
    · rw [waits_claimOne]
      exact fun h => apart ⟨List.mem_cons_of_mem _ h.1, h.2.1⟩

theorem map_filterMap_find? (increasing : s.entries.Pairwise fun a b => a.id < b.id) (ids : List StreamId) :
    (ids.filterMap s.find?).map (·.id) = ids.filter (· ∈ s.entries.map (·.id)) := by
  induction ids with
  | nil => rfl
  | cons id ids ih =>
    rw [List.filterMap_cons, List.filter_cons]
    cases found : s.find? id with
    | none =>
      have gone : id ∉ s.entries.map (·.id) := (findIn_eq_none_iff increasing).1 found
      simp only [gone, decide_false, Bool.false_eq_true, if_false]
      exact ih
    | some e =>
      obtain ⟨there, rfl⟩ := (findIn_eq_some_iff increasing).1 found
      have kept : e.id ∈ s.entries.map (·.id) := List.mem_map_of_mem there
      simp only [kept, decide_true, if_true, List.map_cons]
      rw [ih]

/-- **A claim of any list**: what it gives out, and what it makes of the group. -/
theorem claimed_claimAll (increasing : s.entries.Pairwise fun a b => a.id < b.id) (ids : List StreamId) :
    Claimed s.entries now me minIdle ids g (s.claimAll now me minIdle g ids).1
      (s.claimAll now me minIdle g ids).2 := by
  have given := s.claimAll_fst_eq now me minIdle g ids
  have inTurn : (s.claimAll now me minIdle g ids).1.map (·.id) =
      (g.turns now minIdle ids).filter (· ∈ s.entries.map (·.id)) := by
    rw [given, map_filterMap_find? increasing]
  have times (id : StreamId) : (s.claimAll now me minIdle g ids).1.countP (·.id = id) =
      ((s.claimAll now me minIdle g ids).1.map (·.id)).count id := by
    rw [List.count_eq_countP, List.countP_map]
    exact List.countP_congr fun e _ => by simp
  constructor
  case stored =>
    intro e he
    rw [given] at he
    obtain ⟨id, -, found⟩ := List.mem_filterMap.1 he
    exact ((findIn_eq_some_iff increasing).1 found).1
  case inTurn => exact inTurn
  case times =>
    intro id named waits kept
    rw [inTurn, List.count_filter (by simpa using kept), Group.count_turns named waits]
  case taken =>
    intro id out
    obtain ⟨never, -⟩ | ⟨d, pending, -, -, is, -⟩ := s.turned_claimAll now me minIdle g ids id
    · rw [times, List.count_eq_zero] at never
      exact absurd out never
    · rw [times] at is
      exact ⟨d, pending, is⟩
  case forgotten =>
    intro id named ⟨d, pending, idle⟩ gone
    have lapsed : s.Lapsed now minIdle g id := ⟨d, pending, idle, (findIn_eq_none_iff increasing).2 gone⟩
    rw [← Option.not_isSome_iff_eq_none, isSome_get?_claimAll]
    exact fun still => still.2 ⟨named, lapsed⟩
  case untouched => exact fun id apart => get?_claimAll_of_apart apart
  case cursor => exact s.claimAll_cursor now me minIdle g ids
  case consumers => exact s.claimAll_consumers now me minIdle g ids

/-- A claim of entries none of which waits gives nothing out and changes nothing. -/
theorem claimAll_of_none_waits {ids : List StreamId} (noneWaits : ∀ id ∈ ids, ¬ g.Waits now minIdle id) :
    s.claimAll now me minIdle g ids = ([], g) := by
  induction ids with
  | nil => rfl
  | cons first ids ih =>
    have idle : s.claimOne now me minIdle g first = (none, g) := by
      rw [claimOne]
      cases pending : g.pending.get? first with
      | none => rfl
      | some d =>
        have early : now.since d.since < minIdle := by
          by_contra due
          exact noneWaits first List.mem_cons_self ⟨d, pending, Nat.not_lt.1 due⟩
        simp only [if_pos early]
    rw [claimAll, idle]
    simp only [ih fun id hid => noneWaits id (List.mem_cons_of_mem _ hid)]
    rfl

/-- To claim the same again at the same instant gives nothing out and changes nothing, if some time
is asked for. -/
theorem claimAll_twice (positive : Span.zero < minIdle) (ids : List StreamId) :
    s.claimAll now me minIdle (s.claimAll now me minIdle g ids).2 ids =
      ([], (s.claimAll now me minIdle g ids).2) := by
  refine claimAll_of_none_waits fun id named waits => ?_
  obtain ⟨zero, -⟩ := ((s.waits_claimAll now me minIdle g ids id).1 waits).2 named
  rw [zero] at positive
  exact Nat.lt_irrefl _ positive

end Stream

namespace Store

variable {stream group : String} {st : Stream} {g : Group}

/-- A claim of `ids` is carried out: what it is given, and what it leaves of the group. -/
structure ClaimsExactly (s : Store) (stream group : String) (st : Stream) (g : Group) (clock : Clock) (me : String)
    (minIdle : Span) (ids : List StreamId) (given : List Entry) (g' : Group) : Prop where
  asked : s.perform clock (.claim stream group me minIdle ids) = (.ok given, s.putGroup stream st group g')
  claimed : Stream.Claimed (s.entries stream) clock.now me minIdle ids (g.see me) given g'
  /-- A claim of one identifier more is given one entry more exactly if this one is retained, and waits behind the
  claim of the others. -/
  turns : ∀ before id, ids = before ++ [id] → ∃ earlier between,
    s.perform clock (.claim stream group me minIdle before) =
      (.ok earlier, s.putGroup stream st group between) ∧
    (∀ e ∈ s.entries stream, e.id = id → between.Waits clock.now minIdle id → given = earlier ++ [e]) ∧
    (id ∉ s.retained stream ∨ ¬ between.Waits clock.now minIdle id → given = earlier)
  fresh : ∀ p ∈ g'.idle clock.now .zero, p.id ∈ given.map (·.id) → p.consumer = me ∧ p.idle = .zero
  others : ∀ a b, ¬ (a = stream ∧ b = group) → (s.putGroup stream st group g').view a b = s.view a b
  /-- To claim the same again at the same instant is given nothing and changes nothing, if some time is asked
  for. -/
  twice : ∀ again : Clock, again.now = clock.now → .zero < minIdle →
    (s.putGroup stream st group g').perform again (.claim stream group me minIdle ids) =
      (.ok [], s.putGroup stream st group g')

/-- **A claim of any list of identifiers**, after every history that had room for identifiers, by
any consumer of any group that is there.

It is given retained entries, at the turns of those that wait, in the order of the list. What is
given is pending for the consumer with one delivery more for each time and has waited for no time;
what waits and is no longer retained is forgotten; and any other delivery, the cursor, the entries
and all other groups are as they were. -/
theorem claim_exactly {cs : List TimedCall} (room : empty.Roomy cs)
    (there : (empty.afterAll cs).group? stream group = some (st, g)) (clock : Clock) (me : String)
    (minIdle : Span) (ids : List StreamId) :
    ∃ given g', ClaimsExactly (empty.afterAll cs) stream group st g clock me minIdle ids given g' := by
  let s := empty.afterAll cs
  let claim (ids : List StreamId) := LogCall.claim stream group me minIdle ids
  have increasing := increasing_of_there room there
  have entries : s.entries stream = st.entries := by
    rw [Store.entries, (group?_eq_some.1 there).1]
  have asked (ids : List StreamId) : s.perform clock (claim ids) =
      (.ok (st.claimAll clock.now me minIdle (g.see me) ids).1,
        s.putGroup stream st group (st.claimAll clock.now me minIdle (g.see me) ids).2) := by
    have performed := perform_claim s stream group st g clock me minIdle ids
    rw [putGroup_self there] at performed
    exact performed
  have claimed : Stream.Claimed st.entries clock.now me minIdle ids (g.see me)
      (st.claimAll clock.now me minIdle (g.see me) ids).1 (st.claimAll clock.now me minIdle (g.see me) ids).2 :=
    Stream.claimed_claimAll increasing ids
  refine ⟨_, _, asked ids, by rw [entries]; exact claimed, ?_, ?_, ?_, ?_⟩
  · rintro before id rfl
    refine ⟨_, _, asked before, ?_, ?_⟩
    · rw [entries]
      rintro e there rfl waits
      rw [st.claimAll_append]
      simp only [Stream.claimAll, st.claimOne_fst_eq, if_pos waits, List.append_nil]
      rw [Stream.find?, (Stream.findIn_eq_some_iff increasing).2 ⟨there, rfl⟩]
      rfl
    · rw [retained, entries, st.claimAll_append]
      simp only [Stream.claimAll, st.claimOne_fst_eq, List.append_nil]
      rintro (gone | idle)
      · rw [Stream.find?, (Stream.findIn_eq_none_iff increasing).2 gone, ite_self, Option.toList_none,
          List.append_nil]
      · rw [if_neg idle, Option.toList_none, List.append_nil]
  · intro p listed given
    obtain ⟨d, pending, -, is⟩ := Group.mem_idle.1 listed
    obtain ⟨before, -, taken⟩ := claimed.taken p.id given
    obtain rfl := Option.some.inj (taken.symm.trans pending)
    rw [is]
    exact ⟨rfl, congrArg Span.mk (Nat.sub_self _)⟩
  · intro a b apart
    have here : s.streamOrNew stream = st := by
      rw [streamOrNew, (group?_eq_some.1 there).1, Option.getD_some]
    rw [← here, view_putGroup, if_neg fun same => apart ⟨same.1.symm, same.2.symm⟩]
  · intro again same positive
    have twice := perform_claim s stream group st (st.claimAll clock.now me minIdle (g.see me) ids).2 again
      me minIdle ids
    have known : (st.claimAll clock.now me minIdle (g.see me) ids).2.see me =
        (st.claimAll clock.now me minIdle (g.see me) ids).2 := by
      refine Group.see_eq_self ?_
      rw [claimed.consumers]
      exact (g.see_consumers me).2
    rw [known, same, Stream.claimAll_twice positive] at twice
    exact twice

/-- The first row of the list is too fresh, the fourth is acknowledged and the sixth unknown. One is
named twice, and the last is forgotten. -/
theorem claim_exactly_fivePending :
    ∃ st g, empty.Roomy fivePending ∧ (empty.afterAll fivePending).group? "jobs" "workers" = some (st, g) ∧
      let s := empty.afterAll fivePending
      let clock : Clock := (TimedCall.atMilli 9 .ping).clock
      let claim := LogCall.claim "jobs" "workers" "cat" (.ofMillis 4)
        [⟨6, 0⟩, ⟨3, 0⟩, ⟨2, 2⟩, ⟨2, 1⟩, ⟨3, 0⟩, ⟨7, 0⟩, ⟨2, 0⟩]
      ∃ given g', given.map (·.id) = [⟨3, 0⟩, ⟨2, 2⟩] ∧ (∀ e ∈ given, e ∈ s.entries "jobs") ∧
        s.perform clock claim = (.ok given, s.putGroup "jobs" st "workers" g') ∧
        g'.pending.get? ⟨2, 2⟩ = some ⟨"cat", clock.now, 2⟩ ∧ g'.pending.get? ⟨2, 0⟩ = none ∧
        g'.pending.get? ⟨6, 0⟩ = g.pending.get? ⟨6, 0⟩ ∧
        (s.putGroup "jobs" st "workers" g').perform clock claim =
          (.ok [], s.putGroup "jobs" st "workers" g') := by
  obtain ⟨⟨st, g⟩, there⟩ : ∃ found, (empty.afterAll fivePending).group? "jobs" "workers" = some found :=
    Option.isSome_iff_exists.1 (by decide)
  have room : empty.Roomy fivePending := by decide
  refine ⟨st, g, room, there, ?_⟩
  intro s clock claim
  have group : (s.view "jobs" "workers").group = some g := view_of_there there
  obtain ⟨given, g', asked, claimed, -, -, -, twice⟩ := claim_exactly room there clock "cat" (.ofMillis 4)
    [⟨6, 0⟩, ⟨3, 0⟩, ⟨2, 2⟩, ⟨2, 1⟩, ⟨3, 0⟩, ⟨7, 0⟩, ⟨2, 0⟩]
  have ids : given.map (·.id) = [⟨3, 0⟩, ⟨2, 2⟩] := by
    have answer : (s.perform clock claim).1 =
        .ok [⟨⟨3, 0⟩, ∅⟩, ⟨⟨2, 2⟩, Table.ofList [("msg", "c")]⟩] := by decide
    obtain rfl := Except.ok.inj ((congrArg Prod.fst asked).symm.trans answer)
    rfl
  have waits (id : StreamId) (h : (s.view "jobs" "workers").group.any (fun g => g.Waits clock.now (.ofMillis 4) id)) :
      g.Waits clock.now (.ofMillis 4) id := by
    rw [group, Option.any_some] at h
    exact of_decide_eq_true h
  refine ⟨given, g', ids, claimed.stored, asked, ?_,
    claimed.forgotten _ (by decide) (waits _ (by decide)) (by decide), claimed.untouched _ ?_,
    twice clock rfl (by decide)⟩
  · obtain ⟨d, pending, taken⟩ := claimed.taken ⟨2, 2⟩ (by rw [ids]; decide)
    have once : (s.view "jobs" "workers").group.bind (fun g => (g.pending.get? ⟨2, 2⟩).map (·.count)) = some 1 := by
      decide
    rw [group, Option.bind_some] at once
    obtain ⟨d', is, count⟩ := Option.map_eq_some_iff.1 once
    obtain rfl := Option.some.inj (is.symm.trans pending)
    rw [taken, count, ids]
    rfl
  · have fresh : (s.view "jobs" "workers").group.all fun g => !decide (g.Waits clock.now (.ofMillis 4) ⟨6, 0⟩) := by
      decide
    rw [group, Option.all_some, Bool.not_eq_true', decide_eq_false_iff_not] at fresh
    exact fun waits => fresh waits.2

end Store

end StreamQueue
