import StreamQueue.Proofs.Log.Order

/-!
# What a call does to a group

Four operations change the cursor or the pending list of a group: a read for new entries,
an acknowledgement, a claim, and the creation of the group. Each has its law here, for
any state of the group and any list of identifiers.

## What is proved

* `Group.get?_receive`, `Group.get?_acknowledgeAll`, `Stream.isSome_get?_claimAll` — what
  is pending afterwards.
* `Stream.turned_claimAll` — what a claim makes of a delivery, by how often it gives the entry
  out.
* `Group.old_or_received`, `Stream.old_or_claimed` — where a delivery that is pending comes from.
* `Group.acknowledgeAll_fst` — an acknowledgement counts the pending ones among its
  identifiers, each once.
* `View.mem_fresh_iff` — a read for new entries is given what lies between the old cursor
  and the new one.
-/

namespace StreamQueue

attribute [local instance] StreamId.linearOrder

namespace Group

variable (g : Group) (now : Instant) (consumer : String)

@[simp] theorem see_cursor : (g.see consumer).cursor = g.cursor := rfl
@[simp] theorem see_pending : (g.see consumer).pending = g.pending := rfl

/-- To see a known consumer changes nothing. -/
theorem see_eq_self {g : Group} {consumer : String} (known : consumer ∈ g.consumers) : g.see consumer = g := by
  rw [see, List.insert_of_mem known]

@[simp] theorem startingAt_cursor (start : StreamId) : (startingAt start).cursor = start := rfl
@[simp] theorem startingAt_pending (start : StreamId) : (startingAt start).pending = Table.empty := rfl

/-! ### Reading new entries -/

private theorem foldl_deliver_cursor (es : List Entry) :
    (es.foldl (fun g e => g.deliver now consumer e) g).cursor =
      (es.getLast?.map (·.id)).getD g.cursor := by
  induction es generalizing g with
  | nil => rfl
  | cons e es ih =>
    rw [List.foldl_cons, ih]
    cases es with
    | nil => rfl
    | cons e' es => simp [List.getLast?_eq_some_getLast]

private theorem get?_foldl_deliver (es : List Entry) (id : StreamId) :
    (es.foldl (fun g e => g.deliver now consumer e) g).pending.get? id =
      if id ∈ es.map (·.id) then some ⟨consumer, now, 1⟩ else g.pending.get? id := by
  induction es generalizing g with
  | nil => simp
  | cons e es ih =>
    rw [List.foldl_cons, ih, deliver, Table.get?_insert]
    by_cases later : id ∈ es.map (·.id)
    · rw [if_pos later, List.map_cons, if_pos (List.mem_cons_of_mem _ later)]
    · by_cases first : id = e.id <;> simp [later, first]

/-- The cursor goes to the last entry that is delivered. -/
theorem receive_cursor (es : List Entry) :
    (g.receive now consumer es).cursor = (es.getLast?.map (·.id)).getD g.cursor :=
  foldl_deliver_cursor (g.see consumer) now consumer es

/-- The entries that are delivered become pending for the consumer. -/
theorem get?_receive (es : List Entry) (id : StreamId) :
    (g.receive now consumer es).pending.get? id =
      if id ∈ es.map (·.id) then some ⟨consumer, now, 1⟩ else g.pending.get? id :=
  get?_foldl_deliver (g.see consumer) now consumer es id

variable {g now consumer} in
/-- What is pending after a read was pending before, or is an entry that the read delivers. -/
theorem old_or_received {es : List Entry} {id : StreamId} {d : Delivery}
    (hd : (g.receive now consumer es).pending.get? id = some d) :
    g.pending.get? id = some d ∨ id ∈ es.map (·.id) ∧ d = ⟨consumer, now, 1⟩ := by
  rw [get?_receive] at hd
  split at hd
  · rename_i given
    exact .inr ⟨given, (Option.some.inj hd).symm⟩
  · exact .inl hd

theorem see_consumers :
    g.consumers ⊆ (g.see consumer).consumers ∧ consumer ∈ (g.see consumer).consumers :=
  ⟨fun _ hm => List.mem_insert_of_mem hm, List.mem_insert_self⟩

theorem receive_consumers (es : List Entry) :
    (g.receive now consumer es).consumers = (g.see consumer).consumers := by
  have kept (h : Group) : (es.foldl (fun g e => g.deliver now consumer e) h).consumers = h.consumers := by
    induction es generalizing h with
    | nil => rfl
    | cons e es ih => exact ih _
  exact kept _

/-! ### Acknowledging -/

theorem acknowledge_snd_cursor (id : StreamId) : (g.acknowledge id).2.cursor = g.cursor := by
  rw [acknowledge]
  split <;> rfl

theorem acknowledge_fst (id : StreamId) : (g.acknowledge id).1 = g.pending.contains id := by
  rw [acknowledge]
  split
  · rename_i h
    exact h.symm
  · rename_i h
    exact (Bool.eq_false_iff.2 h).symm

theorem get?_acknowledge (id other : StreamId) :
    (g.acknowledge id).2.pending.get? other = if other = id then none else g.pending.get? other := by
  rw [acknowledge]
  split
  · exact Table.get?_erase ..
  · rename_i missing
    rw [Table.contains, Bool.not_eq_true, Option.isSome_eq_false_iff, Option.isNone_iff_eq_none] at missing
    split
    · rename_i same
      rw [same, missing]
    · rfl

theorem acknowledgeAll_cursor (ids : List StreamId) : (g.acknowledgeAll ids).2.cursor = g.cursor := by
  induction ids generalizing g with
  | nil => rfl
  | cons id ids ih => exact (ih _).trans (g.acknowledge_snd_cursor id)

/-- The identifiers that are acknowledged are no longer pending, and the others as before. -/
theorem get?_acknowledgeAll (ids : List StreamId) (id : StreamId) :
    (g.acknowledgeAll ids).2.pending.get? id = if id ∈ ids then none else g.pending.get? id := by
  induction ids generalizing g with
  | nil => rfl
  | cons first ids ih =>
    change ((g.acknowledge first).2.acknowledgeAll ids).2.pending.get? id = _
    rw [ih, get?_acknowledge]
    by_cases h : id = first <;> simp [h]

theorem acknowledgeAll_consumers (ids : List StreamId) :
    (g.acknowledgeAll ids).2.consumers = g.consumers := by
  induction ids generalizing g with
  | nil => rfl
  | cons id ids ih =>
    refine (ih (g.acknowledge id).2).trans ?_
    rw [acknowledge]
    split <;> rfl

/-- An acknowledgement counts the pending ones among its identifiers, each once. -/
theorem acknowledgeAll_fst (ids : List StreamId) :
    (g.acknowledgeAll ids).1 = (g.pending.keys.filter (· ∈ ids)).length := by
  induction ids generalizing g with
  | nil => simp [acknowledgeAll]
  | cons id ids ih =>
    have rest : ((g.acknowledge id).2.pending.keys.filter (· ∈ ids)).Perm
        ((g.pending.keys.filter (· ∈ id :: ids)).filter (· ≠ id)) := by
      refine (List.perm_ext_iff_of_nodup ((Table.nodup_keys _).filter _)
        (((Table.nodup_keys _).filter _).filter _)).2 fun other => ?_
      simp only [List.mem_filter, decide_eq_true_eq, Table.mem_keys_iff, get?_acknowledge,
        List.mem_cons]
      by_cases h : other = id <;> simp [h]
    have one : ((g.pending.keys.filter (· ∈ id :: ids)).countP (· = id)) =
        (g.pending.contains id).toNat := by
      rw [Table.contains, ← Table.count_keys, List.countP_filter, List.count_eq_countP]
      refine List.countP_congr fun other _ => ?_
      simp only [decide_eq_true_eq, Bool.and_eq_true, beq_iff_eq]
      exact ⟨fun h => h.1, fun h => ⟨h, h ▸ List.mem_cons_self⟩⟩
    change ((g.acknowledge id).2.acknowledgeAll ids).1 + (g.acknowledge id).1.toNat = _
    rw [ih, rest.length_eq, acknowledge_fst, ← one, ← List.countP_eq_length_filter, Nat.add_comm]
    simpa using (List.length_eq_countP_add_countP (fun a => decide (a = id))
      (l := g.pending.keys.filter (· ∈ id :: ids))).symm

end Group

/-! ### Claiming -/

namespace Stream

variable (s : Stream) (now : Instant) (consumer : String) (minIdle : Span) (g : Group)

/-- What becomes of a delivery at its turn in a claim. -/
def atTurn (id : StreamId) (d : Delivery) : Option Delivery :=
  if now.since d.since < minIdle then some d
  else (s.find? id).map fun _ => ⟨consumer, now, d.count + 1⟩

/-- An entry is pending, idle for long enough, and no longer retained: a claim forgets it. -/
def Lapsed (id : StreamId) : Prop :=
  ∃ d, g.pending.get? id = some d ∧ minIdle ≤ now.since d.since ∧ s.find? id = none

theorem atTurn_eq_none_iff {id : StreamId} {d : Delivery} :
    s.atTurn now consumer minIdle id d = none ↔ minIdle ≤ now.since d.since ∧ s.find? id = none := by
  simp only [atTurn, Span.le_def, Span.lt_def]
  split
  · simp only [reduceCtorEq, false_iff]
    omega
  · simp only [Option.map_eq_none_iff]
    exact ⟨fun h => ⟨by omega, h⟩, fun h => h.2⟩

theorem claimOne_cursor (id : StreamId) :
    (s.claimOne now consumer minIdle g id).2.cursor = g.cursor := by
  unfold claimOne
  split
  · rfl
  · split
    · rfl
    · split <;> rfl

theorem get?_claimOne (id other : StreamId) :
    (s.claimOne now consumer minIdle g id).2.pending.get? other =
      if other = id then (g.pending.get? id).bind (s.atTurn now consumer minIdle id)
      else g.pending.get? other := by
  unfold claimOne atTurn
  cases hd : g.pending.get? id with
  | none => by_cases h : other = id <;> simp [h, hd]
  | some d =>
    by_cases early : now.since d.since < minIdle
    · by_cases h : other = id <;> simp [early, h, hd]
    · cases s.find? id with
      | some e => by_cases h : other = id <;> simp [early, h, Table.get?_insert]
      | none => by_cases h : other = id <;> simp [early, h, Table.get?_erase]

theorem claimAll_cursor (ids : List StreamId) :
    (s.claimAll now consumer minIdle g ids).2.cursor = g.cursor := by
  induction ids generalizing g with
  | nil => rfl
  | cons id ids ih => exact (ih _).trans (s.claimOne_cursor now consumer minIdle g id)

theorem isSome_get?_claimOne (id other : StreamId) :
    ((s.claimOne now consumer minIdle g id).2.pending.get? other).isSome ↔
      (g.pending.get? other).isSome ∧ ¬ (other = id ∧ s.Lapsed now minIdle g other) := by
  rw [get?_claimOne]
  by_cases h : other = id
  · subst h
    cases hd : g.pending.get? other with
    | none => simp
    | some d => simp [Lapsed, hd, Option.isSome_iff_ne_none, atTurn_eq_none_iff]
  · simp [h]

/-- An entry that has had its turn is not one to be forgotten any more. -/
theorem lapsed_claimOne (id other : StreamId) :
    s.Lapsed now minIdle (s.claimOne now consumer minIdle g id).2 other ↔
      other ≠ id ∧ s.Lapsed now minIdle g other := by
  simp only [Lapsed, get?_claimOne]
  by_cases h : other = id
  · subst h
    simp only [if_true, ne_eq, not_true_eq_false, false_and, iff_false]
    rintro ⟨d', hd', idle, gone⟩
    obtain ⟨d, -, hd⟩ := Option.bind_eq_some_iff.1 hd'
    simp only [atTurn, gone, Option.map_none] at hd
    split at hd
    · rename_i early
      obtain rfl := Option.some.inj hd
      exact absurd idle (Nat.not_le.2 early)
    · exact absurd hd (by simp)
  · simp [h]

/-- A claim forgets those of its entries that have lapsed, and no other. -/
theorem isSome_get?_claimAll (ids : List StreamId) (id : StreamId) :
    ((s.claimAll now consumer minIdle g ids).2.pending.get? id).isSome ↔
      (g.pending.get? id).isSome ∧ ¬ (id ∈ ids ∧ s.Lapsed now minIdle g id) := by
  induction ids generalizing g with
  | nil => simp [claimAll]
  | cons first ids ih =>
    change ((s.claimAll now consumer minIdle (s.claimOne now consumer minIdle g first).2
      ids).2.pending.get? id).isSome ↔ _
    rw [ih, isSome_get?_claimOne, lapsed_claimOne, List.mem_cons]
    by_cases h : id = first
    · subst h
      simp
    · simp [h]

theorem id_eq_of_findIn {id : StreamId} {e : Entry} {l : List Entry} (h : findIn id l = some e) :
    e.id = id := by
  induction l with
  | nil => simp [findIn] at h
  | cons a rest ih =>
    rw [findIn] at h
    split at h
    · exact ih h
    · rename_i notBefore
      split at h
      · exact absurd h (by simp)
      · rename_i notPast
        obtain rfl := Option.some.inj h
        exact le_antisymm (not_lt.1 notPast) (not_lt.1 notBefore)

theorem id_shown (id : StreamId) : (s.shown id).id = id := by
  unfold shown
  cases h : s.find? id with
  | none => rfl
  | some e => exact id_eq_of_findIn h

/-- What a turn of a claim gives out is retained, and pending. -/
theorem claimOne_fst {id : StreamId} {e : Entry} (h : (s.claimOne now consumer minIdle g id).1 = some e) :
    e.id = id ∧ s.find? e.id = some e ∧
      ((s.claimOne now consumer minIdle g id).2.pending.get? e.id).isSome := by
  unfold claimOne at h ⊢
  cases hd : g.pending.get? id with
  | none => simp [hd] at h
  | some d =>
    by_cases early : now.since d.since < minIdle
    · simp [hd, early] at h
    · cases found : s.find? id with
      | none => simp [hd, early, found] at h
      | some e' =>
        obtain rfl : e' = e := by simpa [hd, early, found] using h
        have same : e'.id = id := id_eq_of_findIn found
        subst same
        simp [early, found, Table.get?_insert]

/-- What a claim gives out is pending. -/
theorem isSome_get?_of_mem_claimAll {ids : List StreamId} {e : Entry}
    (h : e ∈ (s.claimAll now consumer minIdle g ids).1) :
    ((s.claimAll now consumer minIdle g ids).2.pending.get? e.id).isSome := by
  induction ids generalizing g with
  | nil => simp [claimAll] at h
  | cons id ids ih =>
    rcases List.mem_append.1 h with first | later
    · obtain ⟨-, found, pending⟩ := s.claimOne_fst now consumer minIdle g (Option.mem_toList.1 first)
      refine (s.isSome_get?_claimAll now consumer minIdle _ ids e.id).2 ⟨pending, ?_⟩
      rintro ⟨-, d, -, -, missing⟩
      rw [found] at missing
      exact absurd missing (by simp)
    · exact ih _ later

/-- What a claim that gives an entry out so many times makes of its delivery. If it gives it
out, the delivery is the consumer's from now on and has counted every time; if not, the
delivery stays as it was or is forgotten. To give an entry out again within a claim takes a
claim that does not ask for any time to have passed. -/
def Turned (id : StreamId) (before after : Option Delivery) (times : Nat) : Prop :=
  times = 0 ∧ (after = before ∨ after = none ∧ s.find? id = none) ∨
    ∃ d, before = some d ∧ 0 < times ∧ minIdle ≤ now.since d.since ∧
      after = some ⟨consumer, now, d.count + times⟩ ∧ (1 < times → minIdle = Span.zero)

theorem turned_claimOne (id : StreamId) :
    s.Turned now consumer minIdle id (g.pending.get? id)
      ((s.claimOne now consumer minIdle g id).2.pending.get? id)
      (s.claimOne now consumer minIdle g id).1.toList.length := by
  rw [get?_claimOne, if_pos rfl]
  unfold claimOne atTurn
  cases hd : g.pending.get? id with
  | none => exact .inl ⟨rfl, .inl rfl⟩
  | some d =>
    by_cases early : now.since d.since < minIdle
    · exact .inl ⟨by simp [early], .inl (by simp [early])⟩
    · have idle : minIdle ≤ now.since d.since := by
        rw [Span.lt_def] at early
        exact Nat.not_lt.1 early
      cases found : s.find? id with
      | none => exact .inl ⟨by simp [early], .inr ⟨by simp [early], found⟩⟩
      | some e => exact .inr ⟨d, rfl, by simp [early], idle, by simp [early], by simp [early]⟩

theorem Turned.trans {id : StreamId} {before between after : Option Delivery} {m n : Nat}
    (first : s.Turned now consumer minIdle id before between m)
    (second : s.Turned now consumer minIdle id between after n)
    (kept : 0 < m → s.find? id ≠ none) : s.Turned now consumer minIdle id before after (m + n) := by
  obtain ⟨rfl, same | ⟨gone, missing⟩⟩ | ⟨d, was, some, idle, is, again⟩ := first
  · rw [Nat.zero_add, ← same]
    exact second
  · obtain ⟨rfl, same | gone'⟩ | ⟨d, was, -⟩ := second
    · exact .inl ⟨rfl, .inr ⟨same.trans gone, missing⟩⟩
    · exact .inl ⟨rfl, .inr gone'⟩
    · exact absurd (gone.symm.trans was) (by simp)
  · obtain ⟨rfl, same | ⟨-, missing⟩⟩ | ⟨d', was', some', idle', is', -⟩ := second
    · exact .inr ⟨d, was, some, idle, same.trans is, again⟩
    · exact absurd missing (kept some)
    · obtain rfl := Option.some.inj (is.symm.trans was')
      -- The second time no time has passed since the first.
      have atOnce : minIdle = Span.zero := by
        simp only [Span.le_def, Instant.since, Nat.sub_self, Nat.le_zero] at idle'
        rw [← Span.mk.injEq] at idle'
        exact idle'
      refine .inr ⟨d, was, by omega, idle, ?_, fun _ => atOnce⟩
      rw [is', Nat.add_assoc]

/-- What a claim makes of each delivery. -/
theorem turned_claimAll (ids : List StreamId) (id : StreamId) :
    s.Turned now consumer minIdle id (g.pending.get? id)
      ((s.claimAll now consumer minIdle g ids).2.pending.get? id)
      ((s.claimAll now consumer minIdle g ids).1.countP (·.id = id)) := by
  induction ids generalizing g with
  | nil => exact .inl ⟨rfl, .inl rfl⟩
  | cons first ids ih =>
    change s.Turned now consumer minIdle id _
      ((s.claimAll now consumer minIdle (s.claimOne now consumer minIdle g first).2 ids).2.pending.get? id)
      (((s.claimOne now consumer minIdle g first).1.toList ++
        (s.claimAll now consumer minIdle (s.claimOne now consumer minIdle g first).2 ids).1).countP _)
    rw [List.countP_append]
    have given {e : Entry} (he : e ∈ (s.claimOne now consumer minIdle g first).1.toList) :=
      s.claimOne_fst now consumer minIdle g (Option.mem_toList.1 he)
    by_cases here : first = id
    · subst here
      have all : (s.claimOne now consumer minIdle g first).1.toList.countP (·.id = first) =
          (s.claimOne now consumer minIdle g first).1.toList.length :=
        List.countP_eq_length.2 fun e he => decide_eq_true (given he).1
      rw [all]
      refine (s.turned_claimOne now consumer minIdle g first).trans _ _ _ _ (ih _) fun some => ?_
      obtain ⟨e, he⟩ := List.exists_mem_of_length_pos some
      rw [← (given he).1, (given he).2.1]
      exact Option.some_ne_none e
    · have none : (s.claimOne now consumer minIdle g first).1.toList.countP (·.id = id) = 0 :=
        List.countP_eq_zero.2 fun e he same => here ((given he).1.symm.trans (of_decide_eq_true same))
      rw [none, Nat.zero_add]
      have apart := s.get?_claimOne now consumer minIdle g first id
      rw [if_neg (Ne.symm here)] at apart
      rw [← apart]
      exact ih _

variable {s now consumer minIdle g} in
/-- What is pending after a claim was pending before, and is as it was or was handed out by the claim. -/
theorem old_or_claimed {ids : List StreamId} {id : StreamId} {d : Delivery}
    (hd : (s.claimAll now consumer minIdle g ids).2.pending.get? id = some d) :
    g.pending.get? id = some d ∨
      (g.pending.get? id).isSome ∧ 1 ≤ d.count ∧ d.owner = consumer ∧ d.since = now := by
  obtain ⟨-, same | ⟨gone, -⟩⟩ | ⟨before, was, some, -, is, -⟩ :=
    s.turned_claimAll now consumer minIdle g ids id
  · exact .inl (same.symm.trans hd)
  · exact absurd (gone.symm.trans hd) (by simp)
  · obtain rfl := Option.some.inj (is.symm.trans hd)
    exact .inr ⟨by rw [was, Option.isSome_some], Nat.le_add_left_of_le some, rfl, rfl⟩

theorem claimAll_consumers (ids : List StreamId) :
    (s.claimAll now consumer minIdle g ids).2.consumers = g.consumers := by
  have one (g : Group) (id : StreamId) :
      (s.claimOne now consumer minIdle g id).2.consumers = g.consumers := by
    unfold claimOne
    split
    · rfl
    · split
      · rfl
      · split <;> rfl
  induction ids generalizing g with
  | nil => rfl
  | cons id ids ih => exact (ih _).trans (one g id)

end Stream

/-! ### What a read for new entries is given -/

namespace View

variable {v : View} {g : Group} {count : Nat} {e : Entry}

theorem fresh_eq (hg : v.group = some g) (count : Nat) :
    v.fresh count = (v.entries.filter fun e => g.cursor < e.id).take count := by
  rw [fresh, hg]
  rfl

theorem mem_of_mem_fresh (he : e ∈ v.fresh count) : e ∈ v.entries := by
  cases hg : v.group with
  | none => simp [fresh, hg] at he
  | some g =>
    rw [fresh_eq hg] at he
    exact List.mem_of_mem_filter (List.mem_of_mem_take he)

theorem lt_of_mem_fresh (hg : v.group = some g) (he : e ∈ v.fresh count) : g.cursor < e.id := by
  rw [fresh_eq hg] at he
  simpa using (List.mem_filter.1 (List.mem_of_mem_take he)).2

theorem InOrder.fresh (h : v.InOrder) (count : Nat) :
    (v.fresh count).Pairwise fun a b => a.id < b.id := by
  cases hg : v.group with
  | none => simp [View.fresh, hg]
  | some g =>
    rw [fresh_eq hg]
    exact h.increasing.sublist ((List.take_sublist _ _).trans List.filter_sublist)

variable (now : Instant) (consumer : String)

/-- The new cursor is the last entry that is given, or the old cursor if there is none. -/
theorem receive_cursor_eq (count : Nat) :
    (g.receive now consumer (v.fresh count)).cursor = g.cursor ∧ v.fresh count = [] ∨
      ∃ before last, v.fresh count = before ++ [last] ∧
        (g.receive now consumer (v.fresh count)).cursor = last.id := by
  rw [Group.receive_cursor]
  rcases List.eq_nil_or_concat (v.fresh count) with nothing | ⟨before, last, given⟩
  · left
    simp [nothing]
  · right
    rw [List.concat_eq_append] at given
    exact ⟨before, last, given, by simp [given]⟩

theorem le_cursor_of_mem_fresh (h : v.InOrder) (he : e ∈ v.fresh count) :
    e.id ≤ (g.receive now consumer (v.fresh count)).cursor := by
  rcases receive_cursor_eq (g := g) (v := v) now consumer count with
    ⟨-, nothing⟩ | ⟨before, last, given, cursor⟩
  · simp [nothing] at he
  · have increasing := h.fresh count
    rw [cursor]
    rw [given] at he increasing
    rcases List.mem_append.1 he with he | he
    · exact le_of_lt ((List.pairwise_append.1 increasing).2.2 e he last (by simp))
    · rw [List.mem_singleton.1 he]

/-- The cursor never goes back. -/
theorem cursor_le_receive (hg : v.group = some g) (count : Nat) :
    g.cursor ≤ (g.receive now consumer (v.fresh count)).cursor := by
  rcases receive_cursor_eq (g := g) (v := v) now consumer count with
    ⟨same, -⟩ | ⟨before, last, given, cursor⟩
  · exact le_of_eq same.symm
  · rw [cursor]
    exact le_of_lt (lt_of_mem_fresh hg (given ▸ List.mem_append_right _ (by simp)))

/-- The cursor jumps over no retained entry: what it passes is given. -/
theorem mem_fresh_of_le_cursor (h : v.InOrder) (hg : v.group = some g) (he : e ∈ v.entries)
    (past : g.cursor < e.id) (passed : e.id ≤ (g.receive now consumer (v.fresh count)).cursor) :
    e ∈ v.fresh count := by
  have unread : e ∈ (v.entries.filter fun e => g.cursor < e.id) := by simp [he, past]
  have increasing := h.increasing.sublist (List.filter_sublist (p := fun e => g.cursor < e.id))
  rw [← List.take_append_drop count (v.entries.filter fun e => g.cursor < e.id),
    ← fresh_eq hg] at unread increasing
  rcases List.mem_append.1 unread with given | left
  · exact given
  · rcases receive_cursor_eq (g := g) (v := v) now consumer count with
      ⟨same, -⟩ | ⟨before, last, given, cursor⟩
    · rw [same] at passed
      exact absurd past (not_lt.2 passed)
    · have beyond := (List.pairwise_append.1 increasing).2.2 last (given ▸ by simp) e left
      rw [cursor] at passed
      exact absurd beyond (not_lt.2 passed)

/-- A read is given the retained entries between the old cursor and the new one. -/
theorem mem_fresh_iff (h : v.InOrder) (hg : v.group = some g) (count : Nat) (id : StreamId) :
    id ∈ (v.fresh count).map (·.id) ↔
      id ∈ v.entries.map (·.id) ∧ g.cursor < id ∧
        id ≤ (g.receive now consumer (v.fresh count)).cursor := by
  simp only [List.mem_map]
  constructor
  · rintro ⟨e, he, rfl⟩
    exact ⟨⟨e, mem_of_mem_fresh he, rfl⟩, lt_of_mem_fresh hg he, le_cursor_of_mem_fresh now consumer h he⟩
  · rintro ⟨⟨e, he, rfl⟩, past, passed⟩
    exact ⟨e, mem_fresh_of_le_cursor now consumer h hg he past passed, rfl⟩

/-- The new cursor is the old one or that of a retained entry. -/
theorem receive_cursor_le (h : v.InOrder) (count : Nat) :
    (g.receive now consumer (v.fresh count)).cursor = g.cursor ∨
      (g.receive now consumer (v.fresh count)).cursor ≤ v.lastId := by
  rcases receive_cursor_eq (g := g) (v := v) now consumer count with
    ⟨same, -⟩ | ⟨before, last, given, cursor⟩
  · exact .inl same
  · exact .inr (cursor ▸ h.le_lastId last (mem_of_mem_fresh (given ▸ List.mem_append_right _ (by simp))))

end View

/-! ### Calls on a group in its place -/

namespace Store

variable (s : Store) (a b : String) (st : Stream) (g : Group) (clock : Clock)

section There

variable {s a b st g}

theorem groupOr_of_there (there : s.group? a b = some (st, g)) : s.groupOr a b = .ok (st, g) := by
  rw [groupOr, there]

theorem view_of_there (there : s.group? a b = some (st, g)) : (s.view a b).group = some g := by
  rw [group?_eq] at there
  obtain ⟨g', is, same⟩ := Option.map_eq_some_iff.1 there
  rw [is]
  exact congrArg (some ·.2) same

/-- The entries of a stream are in order after every history that had room. -/
theorem increasing_of_there {cs : List TimedCall} (room : empty.Roomy cs)
    (there : (empty.afterAll cs).group? a b = some (st, g)) :
    st.entries.Pairwise fun x y => x.id < y.id := by
  have entries : st.entries = ((empty.afterAll cs).view a b).entries := by
    rw [← entries_eq, Store.entries, (group?_eq_some.1 there).1]
  rw [entries]
  exact (inOrder_afterAll room a b).increasing

end There

theorem groupOr_putGroup :
    (s.putGroup a st b g).groupOr a b = .ok ({ st with groups := st.groups.insert b g }, g) :=
  groupOr_of_there (group?_putGroup s a b st g)

theorem perform_readNew (consumer : String) (count : Nat) (block : Option Span) :
    (s.putGroup a st b g).perform clock (.readNew a b consumer count block) =
      (.ok ((st.after g.cursor).take count),
        s.putGroup a st b (g.receive clock.now consumer ((st.after g.cursor).take count))) := by
  simp only [perform, deliver, groupOr_putGroup]
  exact congrArg (Prod.mk _) (s.putGroup_putGroup a b st g _)

theorem perform_readPending (consumer : String) (after : StreamId) (count : Nat) :
    (s.putGroup a st b g).perform clock (.readPending a b consumer after count) =
      (.ok ((((g.ownedBy consumer).filter fun id => after < id).take count).map st.shown),
        s.putGroup a st b (g.see consumer)) := by
  simp only [perform, replay, groupOr_putGroup]
  exact congrArg (Prod.mk _) (s.putGroup_putGroup a b st g _)

theorem perform_pendingEntries (minIdle : Span) (after : StreamId) (count : Nat) :
    (s.putGroup a st b g).perform clock (.pendingEntries a b minIdle after count) =
      (.ok (((g.idle clock.now minIdle).filter fun p => after < p.id).take count),
        s.putGroup a st b g) := by
  simp only [perform, pendingEntries, groupOr_putGroup]
  rfl

theorem perform_claim (consumer : String) (minIdle : Span) (ids : List StreamId) :
    (s.putGroup a st b g).perform clock (.claim a b consumer minIdle ids) =
      (.ok (st.claimAll clock.now consumer minIdle (g.see consumer) ids).1,
        s.putGroup a st b (st.claimAll clock.now consumer minIdle (g.see consumer) ids).2) := by
  simp only [perform, claim, groupOr_putGroup]
  rw [← Stream.claimAll_congr (s := { st with groups := st.groups.insert b g }) (t := st) rfl]
  exact congrArg (Prod.mk _) (s.putGroup_putGroup a b st g _)

theorem perform_ack (ids : List StreamId) :
    (s.putGroup a st b g).perform clock (.ack a b ids) =
      (.ok (g.acknowledgeAll ids).1, s.putGroup a st b (g.acknowledgeAll ids).2) := by
  simp only [perform, ack, group?_putGroup]
  exact congrArg (Prod.mk _) (s.putGroup_putGroup a b st g _)

end Store

end StreamQueue
