import StreamQueue.Proofs.Log.Claim

/-!
# Entries that are stuck

An entry is stuck for a consumer when it is pending with somebody else and has waited for long
enough. The list of deliveries does not tell the consumer's own from the others', and it comes in
pages: each begins past an identifier and has so many rows at most. Pages that begin where the
last one has ended miss nothing and show nothing twice, so what is stuck past an identifier is
what is stuck among the rows of the page and what is stuck past its last row.

All entries that are stuck wait for a claim. A claim that names some of them, each once, gives out
those that are retained and forgets the others.

## What is proved

* `Group.stuck_past_page` — a page, and what is past its last row.
* `Stream.reclaimed_claimAll` — a claim of entries that are stuck.
-/

namespace StreamQueue

attribute [local instance] StreamId.linearOrder

namespace Group

variable (g : Group) (now : Instant) (minIdle : Span) (me : String)

/-- The entries that are pending with others than a consumer and have waited for long enough, in
the order of their identifiers. -/
def stuck : List StreamId :=
  (g.pending.pairs.filter fun p => minIdle ≤ now.since p.2.since ∧ p.2.owner ≠ me).map (·.1)

/-- The rows of a list of deliveries that are not a consumer's. -/
def foreign (rows : List PendingEntry) : List StreamId := (rows.filter fun p => p.consumer != me).map (·.id)

/-- So many rows at most of the list of deliveries that have waited for long enough, past an
identifier. -/
def page (after : StreamId) (count : Nat) : List PendingEntry :=
  ((g.idle now minIdle).filter fun p => after < p.id).take count

variable {g now minIdle me}

theorem mem_stuck {id : StreamId} : id ∈ g.stuck now minIdle me ↔
    ∃ d, g.pending.get? id = some d ∧ minIdle ≤ now.since d.since ∧ d.owner ≠ me := by
  simp only [stuck, List.mem_map, List.mem_filter, decide_eq_true_eq, Prod.exists, exists_and_right,
    exists_eq_right, Table.mem_pairs_iff]

theorem stuck_increasing : (g.stuck now minIdle me).Pairwise (· < ·) :=
  List.pairwise_map.2 (g.pending.increasing.sublist List.filter_sublist)

/-- What is stuck past an identifier is what is not the consumer's in the list of deliveries. -/
theorem stuck_past (after : StreamId) : (g.stuck now minIdle me).filter (fun id => after < id) =
    foreign me ((g.idle now minIdle).filter fun p => after < p.id) := by
  simp only [stuck, foreign, idle, List.filter_map, List.map_map, List.filter_filter]
  refine congrArg _ (List.filter_congr fun p _ => ?_)
  rw [Bool.eq_iff_iff]
  simp only [Function.comp_def, listing, Bool.and_eq_true, decide_eq_true_eq, bne_iff_ne]
  constructor
  · rintro ⟨past, waits, other⟩
    exact ⟨other, past, waits⟩
  · rintro ⟨other, past, waits⟩
    exact ⟨past, waits, other⟩

variable {after : StreamId} {count : Nat} {final : PendingEntry}

/-- **A page**: what is stuck past an identifier is what is stuck among the rows of a page and what
is stuck past its last row. -/
theorem stuck_past_page (me : String)
    (last : (g.page now minIdle after count).getLast? = some final) :
    (g.stuck now minIdle me).filter (fun id => after < id) =
      foreign me (g.page now minIdle after count) ++
        (g.stuck now minIdle me).filter fun id => final.id < id := by
  rw [stuck_past, stuck_past, past_page (g.idle_increasing now minIdle) last, foreign, List.filter_append,
    List.map_append]
  rfl

/-- Nothing is stuck past the last row of a page that is not full. -/
theorem stuck_past_short (me : String)
    (last : (g.page now minIdle after count).getLast? = some final)
    (short : (g.page now minIdle after count).length < count) :
    ((g.stuck now minIdle me).filter fun id => final.id < id) = [] := by
  have rows := past_page (g.idle_increasing now minIdle) last
  rw [page, List.length_take] at short
  rw [List.take_of_length_le (by omega)] at rows
  rw [stuck_past, List.self_eq_append_right.1 rows]
  rfl

/-- Nothing is stuck past an identifier when a page that begins there is empty. -/
theorem stuck_past_nil (me : String) (positive : 0 < count)
    (empty : g.page now minIdle after count = []) :
    ((g.stuck now minIdle me).filter fun id => after < id) = [] := by
  rw [stuck_past]
  rcases List.take_eq_nil_iff.1 empty with zero | nothing
  · omega
  · rw [nothing]
    rfl

/-- Past the last row of a page there are fewer deliveries than past the identifier at which the
page begins. -/
theorem keys_past_page_lt (last : (g.page now minIdle after count).getLast? = some final) :
    (g.pending.keys.filter fun id => final.id < id).length <
      (g.pending.keys.filter fun id => after < id).length := by
  obtain ⟨row, past⟩ := List.mem_filter.1 (List.mem_of_mem_take (List.mem_of_getLast? last))
  obtain ⟨pair, pending, rfl⟩ := List.mem_map.1 (List.mem_of_mem_filter row)
  have past : after < pair.1 := of_decide_eq_true past
  show (g.pending.keys.filter fun id => pair.1 < id).length < _
  rw [StreamId.filter_past past, List.length_filter_lt_length_iff_exists]
  exact ⟨pair.1, List.mem_filter.2 ⟨List.mem_map_of_mem pending, decide_eq_true past⟩, by simp⟩

end Group

/-! ### A claim of some entries -/

namespace Stream

/-- What a group has become when a consumer has claimed some entries that were stuck: the retained
ones are its own, with one delivery more, the trimmed ones are forgotten, and the rest is as it
was. -/
structure Reclaimed (g : Group) (retained : List StreamId) (me : String) (now : Instant)
    (ids : List StreamId) (g' : Group) : Prop where
  cursor : g'.cursor = g.cursor
  given : ∀ id ∈ ids, id ∈ retained → ∃ d, g.pending.get? id = some d ∧
    g'.pending.get? id = some ⟨me, now, d.count + 1⟩
  forgotten : ∀ id ∈ ids, id ∉ retained → g'.pending.get? id = none
  others : ∀ id, id ∉ ids → g'.pending.get? id = g.pending.get? id

variable {s : Stream} {now : Instant} {me : String} {minIdle : Span} {g : Group} {ids : List StreamId}

/-- To look entries up in order is to pick them from the stream. -/
theorem filterMap_find? (increasing : s.entries.Pairwise fun a b => a.id < b.id)
    (sorted : ids.Pairwise (· < ·)) : ids.filterMap s.find? = s.entries.filter fun e => e.id ∈ ids := by
  have order : Std.Irrefl fun a b : Entry => a.id < b.id := ⟨fun e => lt_irrefl e.id⟩
  have antisymm : Std.Antisymm fun a b : Entry => a.id < b.id := ⟨fun a b h h' => absurd h' (lt_asymm h)⟩
  refine List.Pairwise.eq_of_mem_iff (List.pairwise_filterMap.2 ?_) (increasing.sublist List.filter_sublist) ?_
  · refine sorted.imp fun {a b} before e he e' he' => ?_
    rw [id_eq_of_findIn he, id_eq_of_findIn he']
    exact before
  · intro e
    simp only [List.mem_filterMap, find?, findIn_eq_some_iff increasing, List.mem_filter, decide_eq_true_eq]
    constructor
    · rintro ⟨id, hid, he, rfl⟩
      exact ⟨he, hid⟩
    · rintro ⟨he, hid⟩
      exact ⟨e.id, hid, he, rfl⟩

/-- **A claim of entries that are stuck** gives out those of them that are retained, in order. -/
theorem reclaimed_claimAll (increasing : s.entries.Pairwise fun a b => a.id < b.id)
    (sorted : ids.Pairwise (· < ·)) (stuck : ∀ id ∈ ids, id ∈ g.stuck now minIdle me) :
    (s.claimAll now me minIdle g ids).1 = s.entries.filter (fun e => e.id ∈ ids) ∧
      Reclaimed g (s.entries.map (·.id)) me now ids (s.claimAll now me minIdle g ids).2 := by
  have once : ids.Nodup := sorted.imp fun h => ne_of_lt h
  have waits : ∀ id ∈ ids, g.Waits now minIdle id := by
    intro id named
    obtain ⟨d, pending, idle, -⟩ := Group.mem_stuck.1 (stuck id named)
    exact ⟨d, pending, idle⟩
  have turns : g.turns now minIdle ids = ids := Group.turns_of_once once waits
  have claimed : Claimed s.entries now me minIdle ids g (s.claimAll now me minIdle g ids).1
    (s.claimAll now me minIdle g ids).2 := claimed_claimAll increasing ids
  refine ⟨?_, claimed.cursor, ?given, fun id named => claimed.forgotten id named (waits id named),
    fun id other => claimed.untouched id fun h => other h.1⟩
  · rw [claimAll_fst_eq, turns]
    exact filterMap_find? increasing sorted
  case given =>
    intro id named kept
    have out : id ∈ (s.claimAll now me minIdle g ids).1.map (·.id) := by
      rw [claimed.inTurn, turns, List.mem_filter]
      exact ⟨named, decide_eq_true kept⟩
    have times := claimed.times id named (waits id named) kept
    rw [List.count_eq_one_of_mem once named, ite_self] at times
    obtain ⟨d, pending, is⟩ := claimed.taken id out
    rw [times] at is
    exact ⟨d, pending, is⟩

/-- What is stuck behind a claim of the first entries that were stuck is the others. -/
theorem Reclaimed.stuck {retained : List StreamId} {n : Nat} {g' : Group}
    (reclaimed : Reclaimed g retained me now ((g.stuck now minIdle me).take n) g') :
    g'.stuck now minIdle me = (g.stuck now minIdle me).drop n := by
  have sorted : (g.stuck now minIdle me).Pairwise (· < ·) := g.stuck_increasing
  refine List.Pairwise.eq_of_mem_iff Group.stuck_increasing (sorted.sublist (List.drop_sublist n _)) fun id => ?_
  have once : ((g.stuck now minIdle me).take n ++ (g.stuck now minIdle me).drop n).Nodup := by
    rw [List.take_append_drop]
    exact sorted.imp fun h => ne_of_lt h
  have either : id ∈ g.stuck now minIdle me ↔
      id ∈ (g.stuck now minIdle me).take n ∨ id ∈ (g.stuck now minIdle me).drop n := by
    rw [← List.mem_append, List.take_append_drop]
  by_cases claimed : id ∈ (g.stuck now minIdle me).take n
  · have apart : id ∉ (g.stuck now minIdle me).drop n := fun left =>
      (List.nodup_append'.1 once).2.2 claimed left
    refine iff_of_false (fun still => ?_) apart
    obtain ⟨d, hd, -, other⟩ := Group.mem_stuck.1 still
    by_cases kept : id ∈ retained
    · obtain ⟨before, -, is⟩ := reclaimed.given id claimed kept
      obtain rfl := Option.some.inj (is.symm.trans hd)
      exact other rfl
    · rw [reclaimed.forgotten id claimed kept] at hd
      cases hd
  · rw [Group.mem_stuck, reclaimed.others id claimed, ← Group.mem_stuck, either]
    exact or_iff_right claimed

end Stream

end StreamQueue
