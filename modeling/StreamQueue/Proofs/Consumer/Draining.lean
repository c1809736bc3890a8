import StreamQueue.Proofs.Consumer.Lone
import StreamQueue.Proofs.Publisher.Backlog

/-!
# A lone consumer drains its stream

A run that listens reads one new entry, works on it, acknowledges it if the work has succeeded,
and reads again. What it fails to do it leaves pending and does not come back to. While nobody
else appends or reads, the entries past the cursor are a list that loses its first entry with
every round, and the run stops moving when this list is empty.

`Drained` says what rounds for some entries have made of the group. One round is `Drained` for
its entry, and rounds add up.

## What is proved

* `comesTo_round` — one round of a lone run takes the first entry past the cursor.
* `Drained.cons` — a round and the rounds behind it make up one stretch.
* `drains_in_order` — a lone run works on all entries past the cursor, in order and each once, and
  what the group has left then is what has failed and what others hold.
-/

namespace StreamQueue

attribute [local instance] StreamId.linearOrder

/-- Past the first entry that is past an identifier are the others. -/
theorem Stream.after_of_cons {st : Stream} (increasing : st.entries.Pairwise fun a b => a.id < b.id)
    {a : StreamId} {e : Entry} {rest : List Entry} (first : st.after a = e :: rest) : st.after e.id = rest := by
  have past : a < e.id := by
    have he : e ∈ st.after a := first ▸ List.mem_cons_self
    exact of_decide_eq_true (List.mem_filter.1 he).2
  have sorted : (e :: rest).Pairwise fun a b => a.id < b.id := first ▸ increasing.sublist List.filter_sublist
  have narrow : st.after e.id = (st.after a).filter fun x => e.id < x.id := StreamId.filter_past past ..
  rw [narrow, first, List.filter_cons_of_neg (by simp)]
  exact List.filter_eq_self.2 fun x hx => decide_eq_true ((List.pairwise_cons.1 sorted).1 x hx)

/-- The entries past an identifier are those of the stream that is put in place. -/
theorem Store.rangeAfter_putGroup (s : Store) (a b : String) (st : Stream) (g : Group) (id : StreamId) :
    (s.putGroup a st b g).rangeAfter a id = st.after id := by
  rw [rangeAfter, entries, putGroup, putStream, Table.get?_insert, if_pos rfl]
  rfl

/-- What a publisher is told of the backlog if nothing happens while it asks. -/
theorem Publisher.backlog_quiet {cs : List TimedCall} (room : Store.empty.Roomy cs) {p : PublisherConfig}
    {group : String} {g : Group}
    (there : ((Store.empty.afterAll cs).view p.stream group).group = some g) {looks : Nat → Job.Turn}
    (quiet : ∀ i, (looks i).others = [] ∧ ¬ (looks i).late) :
    ((backlog p group).among looks none 0 (Store.empty.afterAll cs)).value =
      .ok (((Store.empty.afterAll cs).rangeAfter p.stream g.cursor).length + g.pending.size) := by
  have stays (i : Nat) : (Store.empty.afterAll cs).afterAll (looks i).others = Store.empty.afterAll cs := by
    rw [(quiet i).1]
    rfl
  obtain ⟨-, i, -, late⟩ | ⟨-, missing⟩ | ⟨g₁, g₂, c, first, last, value, -⟩ :=
    among_backlog p group looks (stays 0) (stays 1) (stays 2) (Store.rangeAfter_zero room) id
  · exact absurd late (quiet i).2
  · rw [there] at missing
    cases missing
  · obtain rfl := Option.some.inj (there.symm.trans first)
    obtain rfl := Option.some.inj (there.symm.trans last)
    exact value

namespace Consumer

variable {cfg : ConsumerConfig} {me : String} {c : Circumstances}

/-! ### What rounds make of a group -/

/-- What a group has become when a consumer has read some entries of it and has worked on them. -/
structure Drained (c : Circumstances) (me : String) (g : Group) (es : List Entry) (g' : Group) : Prop where
  /-- The cursor is at the last of them. -/
  cursor : g'.cursor = (es.getLast?.map (·.id)).getD g.cursor
  /-- Those that are done are not pending. -/
  done : ∀ e ∈ es, c.failure? e.id = none → g'.pending.get? e.id = none
  /-- The others are pending for the consumer, as they were delivered. -/
  left : ∀ e ∈ es, c.failure? e.id ≠ none → ∃ since, g'.pending.get? e.id = some ⟨me, since, 1⟩
  /-- What else was pending is as it was. -/
  others : ∀ id, id ∉ es.map (·.id) → g'.pending.get? id = g.pending.get? id

variable {g g₁ g' : Group} {e : Entry} {es : List Entry}

theorem Drained.nil (cursor : g'.cursor = g.cursor) (pending : g'.pending = g.pending) :
    Drained c me g [] g' where
  cursor := cursor
  done := by simp
  left := by simp
  others := by simp [pending]

/-- A round, and the rounds behind it. -/
theorem Drained.cons (first : Drained c me g [e] g₁) (later : Drained c me g₁ es g')
    (new : e.id ∉ es.map (·.id)) : Drained c me g (e :: es) g' where
  cursor := by
    rw [later.cursor, first.cursor]
    cases es with
    | nil => rfl
    | cons e' es => simp [List.getLast?_eq_some_getLast]
  done := by
    intro x hx well
    rcases List.mem_cons.1 hx with rfl | hx
    · rw [later.others _ new]
      exact first.done x List.mem_cons_self well
    · exact later.done x hx well
  left := by
    intro x hx fails
    rcases List.mem_cons.1 hx with rfl | hx
    · rw [later.others _ new]
      exact first.left x List.mem_cons_self fails
    · exact later.left x hx fails
  others := by
    intro id other
    rw [List.map_cons, List.mem_cons, not_or] at other
    rw [later.others id other.2]
    exact first.others id (by simpa using other.1)

/-- The entries that were not done. -/
def Circumstances.failures (c : Circumstances) (es : List Entry) : List StreamId :=
  (es.map (·.id)).filter fun id => (c.failure? id).isSome

/-- What is pending in the end is what has failed and what was pending before. -/
theorem Drained.perm_keys (drained : Drained c me g es g') (once : (es.map (·.id)).Nodup)
    (new : ∀ e ∈ es, g.pending.get? e.id = none) :
    g'.pending.keys.Perm (c.failures es ++ g.pending.keys) := by
  have unlisted (id : StreamId) (here : id ∈ es.map (·.id)) : id ∉ g.pending.keys := by
    obtain ⟨e, he, rfl⟩ := List.mem_map.1 here
    rw [Table.mem_keys, new e he]
    exact Bool.false_ne_true
  refine (List.perm_ext_iff_of_nodup (Table.nodup_keys _) ?_).2 fun id => ?_
  · refine List.nodup_append'.2 ⟨once.filter _, Table.nodup_keys _, ?_⟩
    exact fun id failed => unlisted id (List.mem_of_mem_filter failed)
  · rw [List.mem_append, Circumstances.failures, List.mem_filter]
    by_cases here : id ∈ es.map (·.id)
    · have old := unlisted id here
      obtain ⟨e, he, rfl⟩ := List.mem_map.1 here
      cases fate : c.failure? e.id with
      | none => simp [Table.mem_keys, drained.done e he fate, new e he]
      | some error =>
        obtain ⟨since, pending⟩ := drained.left e he (by simp [fate])
        simp [Table.mem_keys, pending, here]
    · simp [Table.mem_keys, drained.others id here, here]

theorem Drained.size_pending (drained : Drained c me g es g') (once : (es.map (·.id)).Nodup)
    (new : ∀ e ∈ es, g.pending.get? e.id = none) :
    g'.pending.size = (c.failures es).length + g.pending.size := by
  simpa [Table.keys, Table.size] using (drained.perm_keys once new).length_eq

/-! ### Rounds of a run -/

variable {s : Store} {st : Stream} {turns : List Turn} {rest : List Entry}

/-- The calls of a round for an entry. -/
def round (cfg : ConsumerConfig) (me : String) (c : Circumstances) (e : Entry) : List LogCall :=
  c.asked cfg e.id ++ [readCall cfg me]

theorem asked_of_well (well : c.failure? e.id = none) :
    c.asked cfg e.id = [.ack cfg.stream cfg.group [e.id]] := by
  obtain ⟨⟨outcome, worked⟩, -⟩ := work_eq_ok well
  simp only [Circumstances.asked, worked]

/-- An entry was delivered to the consumer and acknowledged. -/
theorem drained_of_well (now : Instant) (well : c.failure? e.id = none) :
    Drained c me g [e] ((g.receive now me [e]).acknowledgeAll [e.id]).2 where
  cursor := by rw [Group.acknowledgeAll_cursor, Group.receive_cursor]
  done := by simp [Group.get?_acknowledgeAll]
  left := by simp [well]
  others := by
    intro id other
    have apart : id ≠ e.id := by simpa using other
    simp [Group.get?_acknowledgeAll, Group.get?_receive, apart]

/-- An entry was delivered to the consumer, and that is all. -/
theorem drained_of_failure (now : Instant) (fails : c.failure? e.id ≠ none) :
    Drained c me g [e] (g.receive now me [e]) where
  cursor := g.receive_cursor now me [e]
  done := by simp [fails]
  left := by
    intro x hx _
    rw [List.mem_singleton.1 hx, Group.get?_receive, if_pos (by simp)]
    exact ⟨now, rfl⟩
  others := by
    intro id other
    rw [Group.get?_receive, if_neg other]

variable (cfg me c s turns)

/-- The read of a lone run is given the first entry past the cursor. -/
theorem comesTo_delivered (first : st.after g.cursor = e :: rest) :
    ∃ turns' now, ComesTo cfg me c
      ⟨s.putGroup cfg.stream st cfg.group g, turns, .listening, some (readCall cfg me)⟩
      ⟨s.putGroup cfg.stream st cfg.group (g.receive now me [e]), turns', .working e (.fresh []), none⟩
      [] [e] := by
  have answer := s.perform_readNew cfg.stream cfg.group st g (c.clock turns.length) me 1 cfg.readBlock
  rw [first] at answer
  refine ⟨_, (c.clock turns.length).now, comesTo_told (.delivered (.ok [e])) ?_ rfl⟩
  exact Lone.next_answered trivial rfl answer rfl (by simp)

/-- **One round** of a lone run takes the first entry past the cursor. -/
theorem comesTo_round (first : st.after g.cursor = e :: rest) :
    ∃ turns' g', Drained c me g [e] g' ∧ ComesTo cfg me c
      ⟨s.putGroup cfg.stream st cfg.group g, turns, .listening, some (readCall cfg me)⟩
      ⟨s.putGroup cfg.stream st cfg.group g', turns', .listening, some (readCall cfg me)⟩
      (round cfg me c e) [e] := by
  obtain ⟨working, now, delivered⟩ := comesTo_delivered cfg me c s turns first
  cases fate : c.failure? e.id with
  | none =>
    obtain ⟨turns', does⟩ := comesTo_of_well cfg me s st (g.receive now me [e]) working e (.fresh []) fate
    refine ⟨turns', _, drained_of_well now fate, ?_⟩
    rw [round, asked_of_well fate]
    exact delivered.trans does
  | some error =>
    obtain ⟨turns', does⟩ := comesTo_of_failure cfg me
      (s.putGroup cfg.stream st cfg.group (g.receive now me [e])) working e (.fresh []) fate
    exact ⟨turns', _, drained_of_failure now (by simp [fate]), delivered.trans does⟩

/-- The read of a lone run finds nothing, and stays out. -/
theorem comesTo_waiting (nothing : st.after g.cursor = []) :
    ComesTo cfg me c ⟨s.putGroup cfg.stream st cfg.group g, turns, .listening, some (readCall cfg me)⟩
      ⟨s.putGroup cfg.stream st cfg.group (g.see me), turns, .listening, none⟩ [] [] where
  reaches := by
    refine .single ?_
    simp only [Lone.next, Option.bind_some, Circumstances.refused, Lone.answered, readCall,
      Store.perform_readNew, Signal.ofResult?, nothing, List.take_nil]
    rfl
  calls_eq := (List.append_nil _).symm
  undertaken_eq := (List.append_nil _).symm

/-- **All rounds** of a lone run take the entries past the cursor, until there are none. -/
theorem comesTo_drained (increasing : st.entries.Pairwise fun a b => a.id < b.id)
    (new : st.after g.cursor = es) :
    ∃ turns' g', Drained c me g es g' ∧ st.after g'.cursor = [] ∧ ComesTo cfg me c
      ⟨s.putGroup cfg.stream st cfg.group g, turns, .listening, some (readCall cfg me)⟩
      ⟨s.putGroup cfg.stream st cfg.group g', turns', .listening, none⟩
      (es.flatMap (round cfg me c)) es := by
  induction es generalizing g turns with
  | nil => exact ⟨turns, g.see me, .nil rfl rfl, new, comesTo_waiting cfg me c s turns new⟩
  | cons e rest ih =>
    obtain ⟨again, g₁, one, comes⟩ := comesTo_round cfg me c s turns new
    have behind : st.after g₁.cursor = rest := by
      rw [one.cursor]
      exact Stream.after_of_cons increasing new
    have apart : e.id ∉ rest.map (·.id) := by
      have sorted : (e :: rest).Pairwise fun a b => a.id < b.id :=
        new ▸ increasing.sublist List.filter_sublist
      intro same
      obtain ⟨x, hx, is⟩ := List.mem_map.1 same
      exact absurd is (ne_of_gt ((List.pairwise_cons.1 sorted).1 x hx))
    obtain ⟨turns', g', all, nothing, goes_on⟩ := ih again behind
    exact ⟨turns', g', one.cons all apart, nothing, comes.trans goes_on⟩

/-- **Draining**: take any log that a history with room has left, in which nothing is pending for a
consumer, and let the consumer listen alone until its read finds nothing. It works on the retained
entries past the cursor of its group, in the order of their identifiers and each once. The cursor
comes to the last of them. Those whose work and acknowledgement have succeeded are not pending,
the others are pending for the consumer, delivered once. What was pending before is as it was,
and so is everything else in the log. A publisher that asks for the backlog then is told the
number of failed entries and of those that others hold. -/
theorem drains_in_order (cfg : ConsumerConfig) (me : String) (c : Circumstances) {cs : List TimedCall}
    (room : Store.empty.Roomy cs) {st : Stream} {g : Group}
    (there : (Store.empty.afterAll cs).group? cfg.stream cfg.group = some (st, g))
    (free : ∀ id d, g.pending.get? id = some d → d.owner ≠ me) (turns : List Turn) :
    let s := Store.empty.afterAll cs
    let new := st.entries.filter fun e => g.cursor < e.id
    (new.map (·.id)).Pairwise (· < ·) ∧ ∃ turns' g',
      ComesTo cfg me c ⟨s, turns, .listening, some (readCall cfg me)⟩
        ⟨s.putGroup cfg.stream st cfg.group g', turns', .listening, none⟩
        (new.flatMap (round cfg me c)) new ∧
      Drained c me g new g' ∧
      (∀ id d, g.pending.get? id = some d → g'.pending.get? id = some d) ∧
      ∀ (p : PublisherConfig) (looks : Nat → Job.Turn), p.stream = cfg.stream →
        (∀ i, (looks i).others = [] ∧ ¬ (looks i).late) →
        ((Publisher.backlog p cfg.group).among looks none 0
          (s.putGroup cfg.stream st cfg.group g')).value =
          .ok ((c.failures new).length + (g.pending.pairs.filter fun x => x.2.owner ≠ me).length) := by
  intro s new
  have divided := Store.divided_afterAll room cfg.stream cfg.group
  have increasing : st.entries.Pairwise fun a b => a.id < b.id := Store.increasing_of_there room there
  have sorted : (new.map (·.id)).Pairwise (· < ·) :=
    List.pairwise_map.2 (increasing.sublist List.filter_sublist)
  have fresh (e : Entry) (he : e ∈ new) : g.pending.get? e.id = none := by
    have past : g.cursor < e.id := of_decide_eq_true (List.mem_filter.1 he).2
    refine Option.eq_none_iff_forall_ne_some.2 fun d hd => ?_
    exact absurd past (not_lt.2 (divided.behind g (Store.view_of_there there) e.id
      (Table.mem_keys_iff.2 ⟨d, hd⟩)))
  obtain ⟨turns', g', drained, nothing, comes⟩ := comesTo_drained cfg me c s turns increasing
    (rfl : st.after g.cursor = new)
  rw [Store.putGroup_self there] at comes
  refine ⟨sorted, turns', g', comes, drained, ?_, ?_⟩
  · intro id d hd
    rw [← hd]
    refine drained.others id fun here => ?_
    obtain ⟨e, he, rfl⟩ := List.mem_map.1 here
    rw [fresh e he] at hd
    cases hd
  · intro p looks named quiet
    obtain ⟨ds, left, roomy⟩ := Lone.roomy_of_reaches comes.reaches
    have place := Store.view_of_there (Store.group?_putGroup s cfg.stream cfg.group st g')
    have past : ((s.putGroup cfg.stream st cfg.group g').rangeAfter p.stream g'.cursor).length = 0 := by
      rw [named, Store.rangeAfter_putGroup, nothing, List.length_nil]
    have after : s.putGroup cfg.stream st cfg.group g' = Store.empty.afterAll (cs ++ ds) :=
      left.trans (Store.afterAll_append ..).symm
    rw [after, ← named] at place
    rw [after] at past ⊢
    have once : (new.map (·.id)).Nodup := sorted.imp fun h => ne_of_lt h
    have size : g'.pending.size = (c.failures new).length + g.pending.size :=
      drained.size_pending once fresh
    have held : (g.pending.pairs.filter fun x => x.2.owner ≠ me) = g.pending.pairs :=
      List.filter_eq_self.2 fun x hx => decide_eq_true (free x.1 x.2 (Table.mem_pairs_iff.1 hx))
    rw [Publisher.backlog_quiet (Store.roomy_append.2 ⟨room, roomy⟩) place quiet, past, size, held,
      Nat.zero_add, Table.size]

/-- One entry is pending with another consumer, and three are new. -/
def threeNew : List TimedCall := [
  .atMilli 0 (.createGroup "jobs" "workers" .zero), .atMilli 1 (.append "jobs" [] 9),
  .atMilli 2 (.append "jobs" [] 9), .atMilli 3 (.append "jobs" [] 9), .atMilli 4 (.append "jobs" [] 9),
  .atMilli 5 (.readNew "jobs" "workers" "bob" 1 none)]

/-- The work for one entry fails. -/
def failsThree : Circumstances where
  clock _ := (TimedCall.atMilli 6 .ping).clock
  work id := if id = ⟨3, 0⟩ then .error .generatorLost else .ok ⟨"", 1⟩
  refusal _ := none
  uncancelled id := by split <;> simp

/-- Three entries are worked on, one of them stays pending, and the backlog is two. -/
theorem drains_in_order_failsThree :
    let s := Store.empty.afterAll threeNew
    let jobs := config "jobs" "workers"
    let quiet : Nat → Job.Turn := fun _ => ⟨[], (TimedCall.atMilli 7 .ping).clock, false⟩
    Store.empty.Roomy threeNew ∧ ∃ st turns g',
      ComesTo jobs "ann" failsThree ⟨s, [], .listening, some (readCall jobs "ann")⟩
        ⟨s.putGroup "jobs" st "workers" g', turns, .listening, none⟩
        [.ack "jobs" "workers" [⟨2, 0⟩], readCall jobs "ann", readCall jobs "ann",
          .ack "jobs" "workers" [⟨4, 0⟩], readCall jobs "ann"]
        [⟨⟨2, 0⟩, .empty⟩, ⟨⟨3, 0⟩, .empty⟩, ⟨⟨4, 0⟩, .empty⟩] ∧
      g'.cursor = ⟨4, 0⟩ ∧ g'.pending.get? ⟨2, 0⟩ = none ∧
      (∃ since, g'.pending.get? ⟨3, 0⟩ = some ⟨"ann", since, 1⟩) ∧
      ((Publisher.backlog (Publisher.config "jobs") "workers").among quiet none 0
        (s.putGroup "jobs" st "workers" g')).value = .ok 2 := by
  intro s jobs quiet
  have room : Store.empty.Roomy threeNew := by decide
  obtain ⟨⟨st, g⟩, there⟩ : ∃ found, s.group? "jobs" "workers" = some found :=
    Option.isSome_iff_exists.1 (by decide)
  have looks : ((s.group? "jobs" "workers").map fun x => (x.2.cursor, x.1.entries, x.2.pending.pairs)) =
      some (⟨1, 0⟩, [⟨⟨1, 0⟩, .empty⟩, ⟨⟨2, 0⟩, .empty⟩, ⟨⟨3, 0⟩, .empty⟩, ⟨⟨4, 0⟩, .empty⟩],
        [(⟨1, 0⟩, ⟨"bob", (TimedCall.atMilli 5 .ping).clock.now, 1⟩)]) := by decide
  simp only [there, Option.map_some, Option.some.injEq, Prod.mk.injEq] at looks
  obtain ⟨cursor, entries, pairs⟩ := looks
  have free (id : StreamId) (d : Delivery) (hd : g.pending.get? id = some d) : d.owner ≠ "ann" := by
    have listed := Table.mem_pairs_iff.2 hd
    rw [pairs, List.mem_singleton] at listed
    obtain ⟨-, rfl⟩ := Prod.mk.inj listed
    decide
  obtain ⟨-, turns, g', comes, drained, -, backlog⟩ :=
    drains_in_order jobs "ann" failsThree room there free []
  have new : (st.entries.filter fun e => g.cursor < e.id) =
      [⟨⟨2, 0⟩, .empty⟩, ⟨⟨3, 0⟩, .empty⟩, ⟨⟨4, 0⟩, .empty⟩] := by
    rw [cursor, entries]
    decide
  have counted := backlog (Publisher.config "jobs") quiet rfl fun _ => ⟨rfl, Bool.false_ne_true⟩
  rw [new] at comes drained counted
  rw [pairs] at counted
  exact ⟨room, st, turns, g', comes, drained.cursor, drained.done _ List.mem_cons_self rfl,
    drained.left ⟨⟨3, 0⟩, .empty⟩ (by simp) (by decide), counted⟩

end Consumer

end StreamQueue
