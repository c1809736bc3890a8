import StreamQueue.Proofs.Consumer.Lone
import StreamQueue.Proofs.Log.Page

/-!
# The replay of a consumer's own entries

A run begins by working on the entries that are pending for its own identity. It asks for one at
a time, past the last that it has worked on, and acknowledges each before it asks for the next.
So the list that it walks over gets shorter behind it, and what it has left to do is always what
is pending for it past the last entry.

`Replays` says so of a moment between two entries. An entry that is done takes it to the next
such moment; the first that is not ends the run, with its failure for the reason.

## What is proved

* `Replays.through` — entries that are all done are worked on in order, each once.
* `recovery_replays_own` — from any log a lone run replays exactly its own entries, up to the
  first that fails.
-/

namespace StreamQueue

attribute [local instance] StreamId.linearOrder

namespace Group

variable {g h : Group} {me : String}

theorem acknowledgeAll_append (g : Group) (ids more : List StreamId) :
    (g.acknowledgeAll (ids ++ more)).2 = ((g.acknowledgeAll ids).2.acknowledgeAll more).2 := by
  induction ids generalizing g with
  | nil => rfl
  | cons id ids ih => exact ih (g.acknowledge id).2

/-- When the first of a consumer's entries are no longer pending, those behind them are what is
left past any identifier in between. -/
theorem ownedBy_past {done rest : List StreamId} {after : StreamId} (own : g.ownedBy me = done ++ rest)
    (past : ∀ p ∈ rest, after < p)
    (left : ∀ id, h.pending.get? id = if id ∈ done then none else g.pending.get? id)
    (behind : ∀ p ∈ done, p ≤ after) : ((h.ownedBy me).filter fun id => after < id) = rest := by
  have increasing := g.ownedBy_increasing me
  rw [own, List.pairwise_append] at increasing
  refine List.Pairwise.eq_of_mem_iff ((h.ownedBy_increasing me).sublist List.filter_sublist)
    increasing.2.1 fun id => ?_
  have mine : id ∈ g.ownedBy me ↔ id ∈ done ∨ id ∈ rest := by rw [own, List.mem_append]
  rw [mem_ownedBy] at mine
  rw [List.mem_filter, mem_ownedBy, left, decide_eq_true_eq]
  constructor
  · rintro ⟨pending, later⟩
    have new : id ∉ done := fun old => absurd later (not_lt.2 (behind id old))
    rw [if_neg new] at pending
    exact (mine.1 pending).resolve_left new
  · intro here
    have new : id ∉ done := fun old => absurd (past id here) (not_lt.2 (behind id old))
    rw [if_neg new]
    exact ⟨mine.2 (.inr here), past id here⟩

end Group

/-- A look for the next pending entry. -/
def LogCall.isReadPending : LogCall → Bool
  | readPending .. => true
  | _ => false

namespace Consumer

variable {cfg : ConsumerConfig} {me : String} {c : Circumstances}

/-! ### Between two entries -/

/-- Some of the entries that are pending for a run in a group are done, the others are past an
identifier, and the group is as it was otherwise. -/
structure Replays (g : Group) (me : String) (h : Group) (after : StreamId) (done rest : List StreamId) :
    Prop where
  own : g.ownedBy me = done ++ rest
  behind : ∀ p ∈ done, p ≤ after
  past : ∀ p ∈ rest, after < p
  left : h.see me = ((g.see me).acknowledgeAll done).2

variable {g h : Group} {after p : StreamId} {done mid rest : List StreamId}

theorem Replays.pending (replays : Replays g me h after done rest) (id : StreamId) :
    h.pending.get? id = if id ∈ done then none else g.pending.get? id := by
  have left := congrArg (fun h => h.pending.get? id) replays.left
  simpa only [Group.see_pending, Group.get?_acknowledgeAll] using left

/-- Before the first entry nothing is done. -/
theorem Replays.start {visitors : List String} {ps : List StreamId} (attended : g.Attended visitors)
    (own : g.ownedBy me = ps) : Replays g me g .zero [] ps where
  own := own
  behind := by simp
  past := by
    intro p hp
    obtain ⟨d, hd, -⟩ := Group.mem_ownedBy.1 (own ▸ hp)
    exact attended.positive p d hd
  left := rfl

/-- What is left to do is what is pending past the last entry. -/
theorem Replays.unseen (replays : Replays g me h after done rest) :
    ((h.ownedBy me).filter fun id => after < id) = rest :=
  Group.ownedBy_past replays.own replays.past replays.pending replays.behind

/-- **One entry** more is done. -/
theorem Replays.next (replays : Replays g me h after done (p :: rest)) :
    Replays g me ((h.see me).acknowledgeAll [p]).2 p (done ++ [p]) rest where
  own := by rw [List.append_assoc, List.singleton_append, replays.own]
  behind := by
    have increasing := g.ownedBy_increasing me
    rw [replays.own, List.pairwise_append] at increasing
    intro q hq
    rcases List.mem_append.1 hq with old | new
    · exact le_of_lt (increasing.2.2 q old p List.mem_cons_self)
    · exact le_of_eq (List.mem_singleton.1 new)
  past := by
    have increasing := g.ownedBy_increasing me
    rw [replays.own, List.pairwise_append, List.pairwise_cons] at increasing
    exact increasing.2.1.1
  left := by
    have left : ((h.see me).acknowledgeAll [p]).2 = ((g.see me).acknowledgeAll (done ++ [p])).2 := by
      rw [replays.left, Group.acknowledgeAll_append]
    rw [left]
    refine Group.see_eq_self ?_
    rw [Group.acknowledgeAll_consumers]
    exact (g.see_consumers me).2

variable (cfg c) (s : Store) (st : Stream) (n : Nat) (turns : List Turn)

/-- The run asks for the next entry and works on it. -/
theorem Replays.works (replays : Replays g me h after done (p :: rest)) :
    ∃ turns', ComesTo cfg me c
      ⟨s.putGroup cfg.stream st cfg.group h, turns, .replaying n, some (replayCall cfg me after)⟩
      ⟨s.putGroup cfg.stream st cfg.group (h.see me), turns', .working (st.shown p) (.replayed n), none⟩
      [] [st.shown p] := by
  have answer := s.perform_readPending cfg.stream cfg.group st h (c.clock turns.length) me after 1
  rw [replays.unseen] at answer
  refine ⟨_, comesTo_told (.replayed (.ok [st.shown p])) ?_ rfl⟩
  exact Lone.next_answered trivial rfl answer rfl (by simp)

/-- When nothing is left the run listens. -/
theorem Replays.ends (replays : Replays g me h after done []) :
    ∃ turns', ComesTo cfg me c
      ⟨s.putGroup cfg.stream st cfg.group h, turns, .replaying n, some (replayCall cfg me after)⟩
      ⟨s.putGroup cfg.stream st cfg.group (h.see me), turns', .listening, some (readCall cfg me)⟩
      [readCall cfg me] [] := by
  have answer := s.perform_readPending cfg.stream cfg.group st h (c.clock turns.length) me after 1
  rw [replays.unseen] at answer
  refine ⟨_, comesTo_told (.replayed (.ok [])) (m := recovered cfg me false n) ?_ rfl⟩
  exact Lone.next_answered trivial rfl answer rfl (by simp)

/-- The calls for entries that are done: each is acknowledged, and the next is asked for. -/
def replayed (cfg : ConsumerConfig) (me : String) (ps : List StreamId) : List LogCall :=
  ps.flatMap fun p => [.ack cfg.stream cfg.group [p], replayCall cfg me p]

/-- **Entries that are all done** are worked on in order, each once. -/
theorem Replays.through (replays : Replays g me h after done (mid ++ rest))
    (well : ∀ p ∈ mid, c.failure? p = none) :
    ∃ h' after' turns', Replays g me h' after' (done ++ mid) rest ∧ ComesTo cfg me c
      ⟨s.putGroup cfg.stream st cfg.group h, turns, .replaying n, some (replayCall cfg me after)⟩
      ⟨s.putGroup cfg.stream st cfg.group h', turns', .replaying (n + mid.length),
        some (replayCall cfg me after')⟩
      (replayed cfg me mid) (mid.map st.shown) := by
  induction mid generalizing done after h n turns with
  | nil =>
    rw [List.append_nil]
    exact ⟨h, after, turns, replays, .refl _⟩
  | cons p mid ih =>
    obtain ⟨first, well⟩ := List.forall_mem_cons.1 well
    have id : (st.shown p).id = p := st.id_shown p
    obtain ⟨working, works⟩ := replays.works cfg c s st n turns
    obtain ⟨again, acknowledges⟩ := comesTo_of_well cfg me s st (h.see me) working (st.shown p)
      (.replayed n) (id.symm ▸ first)
    obtain ⟨h', after', turns', replays', comes⟩ := ih (n + 1) again replays.next well
    rw [List.append_assoc, List.singleton_append] at replays'
    rw [Nat.add_assoc, Nat.add_comm 1] at comes
    simp only [proceed, id] at acknowledges
    exact ⟨h', after', turns', replays', (works.trans acknowledges).trans comes⟩

/-! ### The whole replay -/

/-- What a replay that has done some entries leaves of a group: these are acknowledged, and the
group has seen the consumer. -/
structure Recovered (g : Group) (me : String) (done : List StreamId) (g' : Group) : Prop where
  cursor : g'.cursor = g.cursor
  pending : ∀ id, g'.pending.get? id = if id ∈ done then none else g.pending.get? id
  consumers : g'.consumers = g.consumers.insert me

theorem Replays.recovered (replays : Replays g me h after done rest) : Recovered g me done (h.see me) := by
  rw [replays.left]
  constructor
  case cursor => rw [Group.acknowledgeAll_cursor, Group.see_cursor]
  case pending =>
    intro id
    rw [Group.get?_acknowledgeAll, Group.see_pending]
  case consumers => exact Group.acknowledgeAll_consumers _ _

/-- The calls of a replay that gets some entries done. -/
def recovery (cfg : ConsumerConfig) (me : String) (ps : List StreamId) : List LogCall :=
  replayCall cfg me .zero :: replayed cfg me ps

theorem countP_recovery (ps : List StreamId) :
    (recovery cfg me ps).countP LogCall.isReadPending = ps.length + 1 := by
  have one (p : StreamId) : [LogCall.ack cfg.stream cfg.group [p], replayCall cfg me p].countP
      LogCall.isReadPending = 1 := rfl
  rw [recovery, List.countP_cons_of_pos rfl, replayed, List.countP_flatMap]
  simp [Function.comp_def, one]

/-- The group is created, or was there, and the run asks for its first entry. -/
theorem comesTo_created (cfg : ConsumerConfig) (me : String) (c : Circumstances) (found : Store) :
    let s := (found.perform (c.clock 1) (groupCall cfg)).2
    (found.HasGroup cfg.stream cfg.group → s = found) ∧ s.HasGroup cfg.stream cfg.group ∧
      ∃ turns, ComesTo cfg me c (.start cfg me found)
        ⟨s, turns, .replaying 0, some (replayCall cfg me .zero)⟩ [replayCall cfg me .zero] [] := by
  intro s
  have created := found.createGroup_eq cfg.stream cfg.group .zero
  cases there : (found.view cfg.stream cfg.group).group with
  | some g =>
    have performs : found.perform (c.clock 1) (groupCall cfg) =
        (.error (.groupExists cfg.stream cfg.group), found) := by
      simp only [groupCall, Store.perform, created, there, Except.map, Store.settle]
    have left : s = found := congrArg Prod.snd performs
    rw [left]
    refine ⟨fun _ => rfl, ?_, _, comesTo_told _ (Lone.next_start performs) rfl⟩
    rw [Store.hasGroup_iff, there, Option.isSome_some]
  | none =>
    have performs : found.perform (c.clock 1) (groupCall cfg) =
        (.ok (), found.putGroup cfg.stream (found.streamOrNew cfg.stream) cfg.group (.startingAt .zero)) := by
      simp only [groupCall, Store.perform, created, there, Except.map, Store.settle]
    have left : s = found.putGroup .. := congrArg Prod.snd performs
    rw [left]
    refine ⟨fun missing => ?_, ?_, _, comesTo_told _ (Lone.next_start performs) rfl⟩
    · rw [Store.hasGroup_iff, there] at missing
      cases missing
    · rw [Store.HasGroup, Store.group?_putGroup, Option.isSome_some]

/-- **The replay**: from the log that any history has left, a lone run creates its group unless it
is there, and works on the entries that are pending for its identity, in order and each once. It
asks for them one at a time.

If one of them is the first that is not done, because its work or its acknowledgement fails, the
run ends with that failure. Those before it are acknowledged then; it and those behind it are
pending as before. If all are done, the run has asked once more than there were entries, nothing
is pending for it, and it listens.

Either way the cursor, the deliveries of other consumers and the rest of the log are as they
were. -/
theorem recovery_replays_own (cfg : ConsumerConfig) (me : String) (c : Circumstances) (cs : List TimedCall) :
    let found := Store.empty.afterAll cs
    let s := (found.perform (c.clock 1) (groupCall cfg)).2
    (found.HasGroup cfg.stream cfg.group → s = found) ∧
    ∃ st g ps, s.group? cfg.stream cfg.group = some (st, g) ∧
      ps.Pairwise (· < ·) ∧ (∀ id, id ∈ ps ↔ ∃ d, g.pending.get? id = some d ∧ d.owner = me) ∧
      (∀ done p rest e, ps = done ++ p :: rest → (∀ q ∈ done, c.failure? q = none) →
        c.failure? p = some e →
        ∃ turns g', Recovered g me done g' ∧ ComesTo cfg me c (.start cfg me found)
          ⟨s.putGroup cfg.stream st cfg.group g', turns, .stopped e, none⟩
          (recovery cfg me done ++ c.asked cfg p) ((done ++ [p]).map st.shown)) ∧
      ((∀ q ∈ ps, c.failure? q = none) →
        (recovery cfg me ps).countP LogCall.isReadPending = ps.length + 1 ∧
        ∃ turns g', Recovered g me ps g' ∧ (∀ id d, g'.pending.get? id = some d → d.owner ≠ me) ∧
          ComesTo cfg me c (.start cfg me found)
            ⟨s.putGroup cfg.stream st cfg.group g', turns, .listening, some (readCall cfg me)⟩
            (recovery cfg me ps ++ [readCall cfg me]) (ps.map st.shown)) := by
  intro found s
  obtain ⟨same, has, turns, begins⟩ := comesTo_created cfg me c found
  obtain ⟨⟨st, g⟩, there⟩ := Option.isSome_iff_exists.1 has
  have attended : g.Attended _ := (Store.attended_afterAll (cs ++ [⟨c.clock 1, groupCall cfg⟩]) cfg.stream
    cfg.group).group g (by rw [Store.afterAll_append]; exact Store.view_of_there there)
  have in_place : s.putGroup cfg.stream st cfg.group g = s := Store.putGroup_self there
  change ComesTo cfg me c _ ⟨s, _, _, _⟩ _ _ at begins
  rw [← in_place] at begins
  refine ⟨same, st, g, g.ownedBy me, there, g.ownedBy_increasing me, fun id => Group.mem_ownedBy, ?_, ?_⟩
  case refine_1 =>
    intro done p rest e own well fails
    obtain ⟨h, after, turns', replays, through⟩ := (Replays.start attended own).through cfg c s st 0 turns well
    obtain ⟨working, works⟩ := replays.works cfg c s st (0 + done.length) turns'
    have id : (st.shown p).id = p := st.id_shown p
    obtain ⟨stopped, stops⟩ := comesTo_of_failure cfg me
      (s.putGroup cfg.stream st cfg.group (h.see me)) working (st.shown p)
      (.replayed (0 + done.length)) (id.symm ▸ fails)
    rw [id] at stops
    refine ⟨stopped, h.see me, replays.recovered, ?_⟩
    have whole := ((begins.trans through).trans works).trans stops
    simpa [fail, stop, Phase.begins, recovery] using whole
  case refine_2 =>
    intro well
    have begun := Replays.start attended (List.append_nil (g.ownedBy me)).symm
    obtain ⟨h, after, turns', replays, through⟩ := begun.through cfg c s st 0 turns well
    obtain ⟨listening, ends⟩ := replays.ends cfg c s st (0 + (g.ownedBy me).length) turns'
    refine ⟨countP_recovery cfg _, listening, h.see me, replays.recovered, ?_, ?_⟩
    · intro id d hd owner
      rw [replays.recovered.pending, List.nil_append] at hd
      split at hd
      · cases hd
      · rename_i other
        exact other (Group.mem_ownedBy.2 ⟨d, hd, owner⟩)
    · have whole := (begins.trans through).trans ends
      simpa [recovery] using whole

/-- All works succeed, and one acknowledgement is refused. -/
def refusesFive : Circumstances where
  clock _ := (TimedCall.atMilli 10 .ping).clock
  work _ := .ok ⟨"", 1⟩
  refusal id := if id = ⟨5, 0⟩ then some (.connection "down") else none
  uncancelled _ := by simp

/-- Of two entries, with another consumer's between them, the first is trimmed and done, and the
acknowledgement of the second is refused. -/
theorem recovery_replays_own_refusesFive :
    let found := Store.empty.afterAll Store.threeConsumers
    let jobs := config "jobs" "workers"
    ∃ st g', ∃ turns, ComesTo jobs "ann" refusesFive (.start jobs "ann" found)
      ⟨found.putGroup "jobs" st "workers" g', turns, .stopped (.ack ⟨5, 0⟩ (.connection "down")), none⟩
      [replayCall jobs "ann" .zero, .ack "jobs" "workers" [⟨2, 0⟩], replayCall jobs "ann" ⟨2, 0⟩,
        .ack "jobs" "workers" [⟨5, 0⟩]]
      [Entry.trimmed ⟨2, 0⟩, ⟨⟨5, 0⟩, .empty⟩] ∧
    g'.pending.get? ⟨2, 0⟩ = none ∧
    g'.pending.get? ⟨4, 0⟩ = some ⟨"bob", (TimedCall.atMilli 7 .ping).clock.now, 2⟩ ∧
    g'.pending.get? ⟨5, 0⟩ = some ⟨"ann", (TimedCall.atMilli 6 .ping).clock.now, 1⟩ := by
  intro found jobs
  obtain ⟨same, st, g, ps, there, increasing, mine, failing, -⟩ :=
    recovery_replays_own jobs "ann" refusesFive Store.threeConsumers
  rw [same (by decide)] at there failing
  have shown : ((found.group? "jobs" "workers").map fun x => (x.2.ownedBy "ann", x.1.shown ⟨2, 0⟩,
      x.1.shown ⟨5, 0⟩)) = some ([⟨2, 0⟩, ⟨5, 0⟩], Entry.trimmed ⟨2, 0⟩, ⟨⟨5, 0⟩, .empty⟩) := by decide
  have pending : ((found.group? "jobs" "workers").map fun x => (x.2.pending.get? ⟨4, 0⟩,
      x.2.pending.get? ⟨5, 0⟩)) = some (some ⟨"bob", (TimedCall.atMilli 7 .ping).clock.now, 2⟩,
        some ⟨"ann", (TimedCall.atMilli 6 .ping).clock.now, 1⟩) := by decide
  change found.group? "jobs" "workers" = some (st, g) at there
  simp only [there, Option.map_some, Option.some.injEq, Prod.mk.injEq] at shown pending
  obtain ⟨own, first, second⟩ := shown
  have two : ps = [⟨2, 0⟩, ⟨5, 0⟩] := by
    rw [← own]
    exact increasing.eq_of_mem_iff (g.ownedBy_increasing "ann") fun id => (mine id).trans Group.mem_ownedBy.symm
  obtain ⟨turns, g', left, comes⟩ := failing [⟨2, 0⟩] ⟨5, 0⟩ [] _ two (by decide) rfl
  simp only [List.map_append, List.map_cons, List.map_nil, first, second] at comes
  refine ⟨st, g', turns, comes, ?_, ?_, ?_⟩
  · exact left.pending ⟨2, 0⟩
  · exact (left.pending ⟨4, 0⟩).trans pending.1
  · exact (left.pending ⟨5, 0⟩).trans pending.2

end Consumer

end StreamQueue
