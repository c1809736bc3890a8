import StreamQueue.Proofs.Lists
import StreamQueue.Proofs.Log.FirstDelivery

/-!
# Conservation of deliveries

A read for new entries puts what it delivers on the pending list of the group. From there an
entry goes in one of two ways: an acknowledgement counts it, or a claim finds it idle and
already trimmed, and drops it. To be claimed by another consumer changes the owner only.

The balance of a history sets the first deliveries against these three: what is pending, what
was counted, what was dropped. It is a permutation of lists, so nothing is lost, nothing is
doubled, and the numbers agree. That a read never delivers what was delivered before is what
keeps an entry from being put on the list twice; the order of first deliveries says so.

## What is proved

* `Act.balanced` — one act keeps the balance.
* `Store.balance_afterAll` — every history that had room is balanced.
* `Store.conservation` — every entry delivered is pending with one owner, or was counted once,
  or was dropped once, and no acknowledgement counts an entry again.
-/

namespace StreamQueue

attribute [local instance] StreamId.linearOrder

/-! ### The three ways to or from the pending list -/

/-- What is delivered for the first time is added to what is pending. -/
theorem Group.keys_receive {g : Group} {es : List Entry} (now : Instant) (consumer : String)
    (nodup : (es.map (·.id)).Nodup) (fresh : ∀ id ∈ g.pending.keys, id ∉ es.map (·.id)) :
    (g.pending.keys ++ es.map (·.id)).Perm (g.receive now consumer es).pending.keys := by
  refine perm_append_of_mem_iff (Table.nodup_keys _) (Table.nodup_keys _) nodup fresh fun id => ?_
  rw [Table.mem_keys, Table.mem_keys, get?_receive]
  by_cases h : id ∈ es.map (·.id) <;> simp [h]

/-- What an acknowledgement counts is taken from what is pending. -/
theorem Group.keys_acknowledgeAll (g : Group) (ids : List StreamId) :
    ((g.acknowledgeAll ids).2.pending.keys ++ g.pending.keys.filter (· ∈ ids)).Perm g.pending.keys := by
  refine perm_append_of_mem_iff (Table.nodup_keys _) (Table.nodup_keys _)
    ((Table.nodup_keys _).filter _) (fun id left counted => ?_) fun id => ?_
  · rw [Table.mem_keys, get?_acknowledgeAll] at left
    rw [List.mem_filter, decide_eq_true_eq] at counted
    rw [if_pos counted.2] at left
    exact Bool.noConfusion left
  · rw [List.mem_filter, Table.mem_keys, Table.mem_keys, get?_acknowledgeAll]
    by_cases h : id ∈ ids <;> simp [h]

theorem Stream.mem_lapsed {s : Stream} {g : Group} {now : Instant} {minIdle : Span} {ids : List StreamId}
    {id : StreamId} : id ∈ (g.pending.pairs.filter fun p => p.1 ∈ ids ∧
      minIdle ≤ now.since p.2.since ∧ s.find? p.1 = none).map (·.1) ↔
        id ∈ ids ∧ s.Lapsed now minIdle g id := by
  simp only [Lapsed, List.mem_map, List.mem_filter, decide_eq_true_eq, Prod.exists, exists_and_right,
    exists_eq_right, Table.mem_pairs_iff]
  constructor
  · rintro ⟨d, hd, hid, rest⟩
    exact ⟨hid, d, hd, rest⟩
  · rintro ⟨hid, d, hd, rest⟩
    exact ⟨d, hd, hid, rest⟩

/-- What a claim drops is taken from what is pending. -/
theorem Stream.keys_claimAll (s : Stream) (g : Group) (now : Instant) (consumer : String)
    (minIdle : Span) (ids : List StreamId) :
    ((s.claimAll now consumer minIdle g ids).2.pending.keys ++
      (g.pending.pairs.filter fun p => p.1 ∈ ids ∧ minIdle ≤ now.since p.2.since ∧
        s.find? p.1 = none).map (·.1)).Perm g.pending.keys := by
  refine perm_append_of_mem_iff (Table.nodup_keys _) (Table.nodup_keys _) ?_ (fun id left gone => ?_)
    fun id => ?_
  · exact (Table.nodup_keys g.pending).sublist (List.filter_sublist.map _)
  · rw [Table.mem_keys, isSome_get?_claimAll] at left
    exact left.2 (mem_lapsed.1 gone)
  · rw [mem_lapsed, Table.mem_keys, Table.mem_keys, isSome_get?_claimAll]
    have pending : s.Lapsed now minIdle g id → (g.pending.get? id).isSome := by
      rintro ⟨d, hd, -⟩
      rw [hd]
      rfl
    by_cases h : id ∈ ids ∧ s.Lapsed now minIdle g id
    · simp [h, pending h.2]
    · simp [h]

/-! ### One act -/

/-- What was pending or is delivered now is pending, counted or dropped afterwards. -/
def Act.Balanced (a : Act) (stream group : String) : Prop :=
  ((a.left.pendingOf stream group).keys ++ a.counted stream group ++ a.dropped stream group).Perm
    ((a.found.pendingOf stream group).keys ++ (a.delivered stream group).map (·.id))

namespace Act

variable {a : Act} {stream group : String}

theorem balanced_idle (counted : a.counted stream group = []) (dropped : a.dropped stream group = [])
    (delivered : a.delivered stream group = [])
    (same : (a.left.view stream group).pending = (a.found.view stream group).pending) :
    a.Balanced stream group := by
  rw [Balanced, Store.pendingOf_eq, Store.pendingOf_eq, same, counted, dropped, delivered]
  simp

variable {s : Store} {clock : Clock} {consumer : String} {g : Group}

theorem balanced_readNew {count : Nat} {block : Option Span}
    (there : (s.view stream group).group = some g) (inOrder : (s.view stream group).InOrder)
    (behind : ∀ id ∈ g.pending.keys, id ≤ g.cursor) :
    Balanced ⟨s, clock, .readNew stream group consumer count block⟩ stream group := by
  have left := left_view ⟨s, clock, .readNew stream group consumer count block⟩ stream group
  rw [View.step, if_pos ⟨rfl, rfl⟩, View.adjust, there] at left
  have delivered := delivered_eq ⟨s, clock, .readNew stream group consumer count block⟩ stream group
  rw [View.delivered, if_pos ⟨rfl, rfl⟩] at delivered
  rw [Balanced, Store.pendingOf_eq, Store.pendingOf_eq, left, delivered, View.pending, View.pending, there]
  have nodup : (((s.view stream group).fresh count).map (·.id)).Nodup :=
    ((inOrder.fresh count).imp fun h => ne_of_lt h).map _ fun _ _ => id
  have new (id : StreamId) (hid : id ∈ g.pending.keys) :
      id ∉ ((s.view stream group).fresh count).map (·.id) := by
    rintro hmem
    obtain ⟨e, he, rfl⟩ := List.mem_map.1 hmem
    exact absurd (View.lt_of_mem_fresh there he) (not_lt.2 (behind e.id hid))
  simpa [counted, dropped] using (Group.keys_receive clock.now consumer nodup new).symm

theorem balanced_claim {minIdle : Span} {ids : List StreamId}
    (there : (s.view stream group).group = some g) :
    Balanced ⟨s, clock, .claim stream group consumer minIdle ids⟩ stream group := by
  have left := left_view ⟨s, clock, .claim stream group consumer minIdle ids⟩ stream group
  rw [View.step, if_pos ⟨rfl, rfl⟩, View.adjust, there] at left
  have gone : dropped stream group ⟨s, clock, .claim stream group consumer minIdle ids⟩ = _ :=
    if_pos ⟨rfl, rfl⟩
  rw [Balanced, gone, Store.pendingOf_eq, Store.pendingOf_eq, left, View.pending, View.pending, there]
  have same (id : StreamId) : (s.streamOrNew stream).find? id = (s.view stream group).stream.find? id := rfl
  simpa [counted, delivered, LogCall.delivered, same] using
    (s.view stream group).stream.keys_claimAll (g.see consumer) clock.now consumer minIdle ids

theorem balanced_ack {ids : List StreamId} (there : (s.view stream group).group = some g) :
    Balanced ⟨s, clock, .ack stream group ids⟩ stream group := by
  have left := left_view ⟨s, clock, .ack stream group ids⟩ stream group
  rw [View.step, if_pos ⟨rfl, rfl⟩, View.adjust, there] at left
  have found : counted stream group ⟨s, clock, .ack stream group ids⟩ = _ := if_pos ⟨rfl, rfl⟩
  rw [Balanced, found, Store.pendingOf_eq, Store.pendingOf_eq, left, View.pending, View.pending, there]
  simpa [dropped, delivered, LogCall.delivered] using g.keys_acknowledgeAll ids

/-- Without the group there is nothing to balance. -/
theorem balanced_absent (absent : (a.found.view stream group).group = none) : a.Balanced stream group := by
  have none_pending : a.found.pendingOf stream group = Table.empty := by
    rw [Store.pendingOf_eq, View.pending, absent]
  refine balanced_idle ?_ ?_ ?_ ?_
  · rw [counted]
    split
    · split
      · rw [none_pending]
        rfl
      · rfl
    · rfl
  · rw [dropped]
    split
    · split
      · rw [none_pending]
        rfl
      · rfl
    · rfl
  · rw [delivered_eq, View.delivered.eq_def]
    split
    · split
      · rw [View.fresh, absent]
      · rfl
    · rfl
  · rw [left_view]
    cases a.call <;> simp only [View.step] <;> (try split) <;>
      simp [View.pending, View.adjust, View.push, absent]

/-- **One act** keeps the balance, if a read for new entries finds the stream in order and
nothing pending past the cursor. -/
theorem balanced (sound : ∀ consumer count block, a.call = .readNew stream group consumer count block →
      (a.found.view stream group).InOrder ∧
      ∀ id ∈ (a.found.pendingOf stream group).keys, ∀ c ∈ a.found.cursor? stream group, id ≤ c) :
    a.Balanced stream group := by
  cases there : (a.found.view stream group).group with
  | none => exact balanced_absent there
  | some g =>
    rw [Store.pendingOf_eq, Store.cursor?_eq, View.pending, there] at sound
    have left := a.left_view stream group
    obtain ⟨s, clock, c⟩ := a
    cases c with
    | readNew x y consumer count block =>
      by_cases here : x = stream ∧ y = group
      · obtain ⟨rfl, rfl⟩ := here
        obtain ⟨inOrder, behind⟩ := sound consumer count block rfl
        exact balanced_readNew there inOrder fun id hid => behind id hid _ rfl
      · rw [View.step, if_neg here] at left
        refine balanced_idle rfl rfl ?_ (by rw [left])
        rw [delivered_eq, View.delivered, if_neg here]
    | claim x y consumer minIdle ids =>
      by_cases here : x = stream ∧ y = group
      · obtain ⟨rfl, rfl⟩ := here
        exact balanced_claim there
      · rw [View.step, if_neg here] at left
        exact balanced_idle rfl (if_neg here) rfl (by rw [left])
    | ack x y ids =>
      by_cases here : x = stream ∧ y = group
      · obtain ⟨rfl, rfl⟩ := here
        exact balanced_ack there
      · rw [View.step, if_neg here] at left
        exact balanced_idle (if_neg here) rfl rfl (by rw [left])
    | append x fields maxLen =>
      refine balanced_idle rfl rfl rfl ?_
      rw [left, View.step]
      split <;> rfl
    | createGroup x y start =>
      refine balanced_idle rfl rfl rfl ?_
      rw [left, View.step]
      split <;> simp [View.pending, there]
    | readPending x y consumer after count =>
      refine balanced_idle rfl rfl rfl ?_
      rw [left, View.step]
      split <;> simp [View.pending, View.adjust, there]
    | ping | pendingEntries | pendingCount | len | rangeAfter | groups =>
      exact balanced_idle rfl rfl rfl (by rw [left]; rfl)

/-- What is pending stays so until an acknowledgement counts it or a claim drops it. -/
theorem pending_left {id : StreamId} (pending : id ∈ (a.found.pendingOf stream group).keys) :
    id ∈ (a.left.pendingOf stream group).keys ∨ id ∈ a.counted stream group ∨
      id ∈ a.dropped stream group := by
  cases there : (a.found.view stream group).group with
  | none =>
    rw [Store.pendingOf_eq, View.pending, there] at pending
    exact absurd pending List.not_mem_nil
  | some g =>
    by_cases read : ∃ consumer count block, a.call = .readNew stream group consumer count block
    · -- A read for new entries takes nothing away, whatever order the stream is in.
      obtain ⟨consumer, count, block, call⟩ := read
      refine .inl ?_
      rw [Store.pendingOf_eq, View.pending, there, Table.mem_keys] at pending
      rw [Store.pendingOf_eq, left_view, call, View.step, if_pos ⟨rfl, rfl⟩, View.adjust, there,
        View.pending, Table.mem_keys]
      simp only [Option.map_some, Group.get?_receive]
      split
      · rfl
      · exact pending
    · have all := (balanced fun consumer count block call => absurd ⟨consumer, count, block, call⟩ read).mem_iff.2
        (List.mem_append_left _ pending)
      simpa [or_assoc] using all

/-- What a call on a group answers with is pending behind it. -/
theorem pending_of_answered {e : Entry} (he : e ∈ a.answered stream group) :
    e.id ∈ (a.left.pendingOf stream group).keys := by
  rw [answered_eq] at he
  rw [Store.pendingOf_eq, left_view]
  cases there : (a.found.view stream group).group with
  | none =>
    unfold View.answered at he
    split at he <;> first | (split at he <;> simp [View.fresh, there] at he) | simp at he
  | some g =>
    obtain ⟨s, clock, c⟩ := a
    cases c with
    | readNew x y consumer count block =>
      rw [View.answered] at he
      split at he
      · rename_i here
        rw [View.step, if_pos here, View.adjust, there, View.pending, Table.mem_keys]
        simp only [Option.map_some, Group.get?_receive, if_pos (List.mem_map_of_mem he)]
        rfl
      · exact absurd he List.not_mem_nil
    | readPending x y consumer after count =>
      rw [View.answered] at he
      split at he
      · rename_i here
        rw [there] at he
        obtain ⟨id, hid, rfl⟩ := List.mem_map.1 he
        rw [View.step, if_pos here, View.adjust, there, Stream.id_shown]
        obtain ⟨p, hp, rfl⟩ := List.mem_map.1 (List.mem_of_mem_filter (List.mem_of_mem_take hid))
        exact List.mem_map_of_mem (List.mem_of_mem_filter hp)
      · exact absurd he List.not_mem_nil
    | claim x y consumer minIdle ids =>
      rw [View.answered] at he
      split at he
      · rename_i here
        rw [there] at he
        rw [View.step, if_pos here, View.adjust, there, View.pending, Table.mem_keys]
        exact Stream.isSome_get?_of_mem_claimAll _ _ _ _ _ he
      · exact absurd he List.not_mem_nil
    | _ => exact absurd he List.not_mem_nil

/-- What a claim drops is no longer in the stream. -/
theorem notMem_retained_of_dropped (inOrder : (a.found.view stream group).InOrder) {id : StreamId}
    (gone : id ∈ a.dropped stream group) : id ∉ a.found.retained stream := by
  rw [dropped.eq_def] at gone
  split at gone
  · split at gone
    · obtain ⟨p, hp, rfl⟩ := List.mem_map.1 gone
      have missing := (of_decide_eq_true (List.mem_filter.1 hp).2).2.2
      rw [Store.retained_eq _ stream group]
      exact (Stream.findIn_eq_none_iff inOrder.increasing).1 missing
    · simp at gone
  · simp at gone

/-- An acknowledgement answers how many it has counted. -/
theorem acknowledged_eq_length (a : Act) (stream group : String) :
    a.acknowledged stream group = (a.counted stream group).length := by
  rw [acknowledged_eq]
  obtain ⟨s, clock, c⟩ := a
  cases c with
  | ack x y ids =>
    rw [View.acknowledged]
    by_cases here : x = stream ∧ y = group
    · have found : counted stream group ⟨s, clock, .ack x y ids⟩ = _ := if_pos here
      rw [if_pos here, found, Store.pendingOf_eq, View.pending]
      cases (s.view stream group).group with
      | none => rfl
      | some g => exact g.acknowledgeAll_fst ids
    · have nothing : counted stream group ⟨s, clock, .ack x y ids⟩ = [] := if_neg here
      rw [if_neg here, nothing]
      rfl
  | _ => rfl

end Act

/-! ### Every history -/

namespace Store

variable (stream group : String)

theorem length_owners (s : Store) (id : StreamId) :
    (s.owners stream group id).length = (s.pendingOf stream group).keys.count id := by
  rw [owners, List.length_map, Table.keys, List.count_eq_countP, List.countP_map,
    List.countP_eq_length_filter]
  rfl

theorem pendingCount_eq (s : Store) :
    (s.pendingCount stream group).toOption.getD 0 = (s.pendingOf stream group).keys.length := by
  rw [pendingCount, groupOr_eq, pendingOf_eq, View.pending, Table.keys, List.length_map]
  cases (s.view stream group).group <;> rfl

/-- Every history that had room is balanced. -/
theorem balance_afterAll {cs : List TimedCall} (room : empty.Roomy cs) :
    (((empty.afterAll cs).pendingOf stream group).keys ++ (empty.history cs).counted stream group ++
      (empty.history cs).dropped stream group).Perm ((empty.history cs).delivered stream group) := by
  refine (history_induction (P := fun h s => (s.view stream group).InOrder ∧
      ((s.view stream group).ledger stream group h).Sound ∧
      ((s.pendingOf stream group).keys ++ h.counted stream group ++ h.dropped stream group).Perm
        (h.delivered stream group))
    ⟨inOrder_empty stream group, sound_empty stream group, List.Perm.refl _⟩
    (fun h a ⟨inOrder, sound, balance⟩ fits => ?_) cs room).2.2
  refine ⟨inOrder_left fits inOrder, a.sound_ledger h fits inOrder sound, ?_⟩
  -- What is pending was delivered before, and so it is not past the cursor.
  have behind : ∀ id ∈ (a.found.pendingOf stream group).keys,
      ∀ c ∈ a.found.cursor? stream group, id ≤ c := by
    intro id hid c hc
    rw [cursor?_eq] at hc
    have delivered : id ∈ h.delivered stream group :=
      balance.mem_iff.1 (List.mem_append_left _ (List.mem_append_left _ hid))
    exact sound.le_cursor hc delivered
  have step := List.perm_iff_count.1 (a.balanced fun _ _ _ _ => ⟨inOrder, behind⟩)
  rw [List.perm_iff_count] at balance ⊢
  intro id
  have before := balance id
  have now := step id
  simp only [History.counted, History.dropped, History.delivered, List.flatMap_append, List.flatMap_cons,
    List.flatMap_nil, List.append_nil, List.count_append] at before now ⊢
  omega

/-- **Conservation**: in every history that had room, every entry delivered to a group is in
exactly one of three places. It is pending with one owner, or an acknowledgement has counted it
once, or a claim that found it idle and trimmed has dropped it once. So the number of entries
delivered is the sum of what acknowledgements have answered, of the entries dropped and of the
entries pending; and no entry is counted by two acknowledgements or twice by one. -/
theorem conservation {cs : List TimedCall} (room : empty.Roomy cs) :
    ((empty.history cs).delivered stream group).Nodup ∧
    (∀ id ∈ (empty.history cs).delivered stream group,
      ((empty.afterAll cs).owners stream group id).length +
        ((empty.history cs).counted stream group).count id +
        ((empty.history cs).dropped stream group).count id = 1) ∧
    ((empty.history cs).delivered stream group).length =
      (empty.history cs).acknowledged stream group + ((empty.history cs).dropped stream group).length +
        ((empty.afterAll cs).pendingCount stream group).toOption.getD 0 ∧
    ((empty.history cs).counted stream group).Nodup ∧
    ∀ a ∈ empty.history cs, a.acknowledged stream group = (a.counted stream group).length ∧
      ∀ id ∈ a.dropped stream group, id ∉ a.found.retained stream := by
  have balance := balance_afterAll stream group room
  have nodup : ((empty.history cs).delivered stream group).Nodup :=
    (sound_afterAll stream group room).increasing.imp fun h => ne_of_lt h
  refine ⟨nodup, fun id hid => ?_, ?_, ?_, fun a ha => ⟨a.acknowledged_eq_length stream group,
    fun id gone => a.notMem_retained_of_dropped (inOrder_found room ha stream group) gone⟩⟩
  · have one := balance.count_eq id
    rw [nodup.count, if_pos hid, List.count_append, List.count_append] at one
    rw [length_owners, one]
  · have total := balance.length_eq
    have acknowledged : (empty.history cs).acknowledged stream group =
        ((empty.history cs).counted stream group).length := by
      simp only [History.acknowledged, History.counted, List.length_flatMap, Act.acknowledged_eq_length]
    rw [List.length_append, List.length_append] at total
    rw [pendingCount_eq, acknowledged]
    omega
  · have all := balance.nodup_iff.2 nodup
    exact (all.of_append_left).of_append_right

/-- An entry is dropped, one is acknowledged again and again, and one stays pending. -/
def threeFates : List TimedCall := [
  .atMilli 0 (.createGroup "jobs" "workers" .zero),
  .atMilli 1 (.append "jobs" [] 2), .atMilli 2 (.append "jobs" [] 2),
  .atMilli 3 (.readNew "jobs" "workers" "ann" 2 none), .atMilli 4 (.append "jobs" [] 2),
  .atMilli 9 (.claim "jobs" "workers" "bob" (.ofMillis 5) [⟨1, 0⟩, ⟨2, 0⟩, ⟨7, 0⟩]),
  .atMilli 10 (.readNew "jobs" "workers" "bob" 1 none),
  .atMilli 11 (.ack "jobs" "workers" [⟨2, 0⟩, ⟨1, 0⟩, ⟨2, 0⟩]),
  .atMilli 12 (.ack "jobs" "workers" [⟨2, 0⟩])]

theorem conservation_threeFates :
    empty.Roomy threeFates ∧
    (empty.history threeFates).delivered "jobs" "workers" = [⟨1, 0⟩, ⟨2, 0⟩, ⟨4, 0⟩] ∧
    (empty.history threeFates).dropped "jobs" "workers" = [⟨1, 0⟩] ∧
    (empty.history threeFates).counted "jobs" "workers" = [⟨2, 0⟩] ∧
    (empty.afterAll threeFates).owners "jobs" "workers" ⟨4, 0⟩ = ["bob"] ∧
    [⟨1, 0⟩, ⟨2, 0⟩, (⟨4, 0⟩ : StreamId)].length =
      (empty.history threeFates).acknowledged "jobs" "workers" + [(⟨1, 0⟩ : StreamId)].length +
        ((empty.afterAll threeFates).pendingCount "jobs" "workers").toOption.getD 0 := by
  have room : empty.Roomy threeFates := by decide
  refine ⟨room, by decide, by decide, by decide, by decide, ?_⟩
  exact (conservation "jobs" "workers" room).2.2.1

end Store

end StreamQueue
