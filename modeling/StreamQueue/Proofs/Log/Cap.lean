import StreamQueue.Proofs.Publisher.Backlog
import StreamQueue.Proofs.Log.Retention

/-!
# More appends than a stream keeps

Whoever appends with one bound need not append more entries than the bound: of more of them only the last
would stay, as many as the bound allows. A bound of nothing leaves nothing, after one append as after many.
The entries that stay are not the same ones, and they have other identifiers. But there are as many of
them, and as many are past the cursor of a group that is not past the last identifier of the stream: each
new entry is past it then, whichever it is.

## What is proved

* `Stream.length_filter_lastOf` — how many elements at the end of a list satisfy a test that all new
  ones satisfy.
* `Store.same_length` — the length of a stream does not show how many appends there were beyond the bound.
* `Store.same_outstanding` — nor does the number of entries that are outstanding for a group.
-/

namespace StreamQueue

attribute [local instance] StreamId.linearOrder

namespace Stream

variable {α : Type} {test : α → Bool} {old new new' : List α} {k : Nat}

theorem lastOf_append_eq (k : Nat) (l t : List α) :
    lastOf k (l ++ t) = lastOf (k - t.length) l ++ lastOf k t := by
  rw [lastOf, lastOf, lastOf, List.drop_append, List.length_append]
  have after : l.length + t.length - k - l.length = t.length - k := by omega
  rw [after]
  rcases Nat.le_total k t.length with within | beyond
  · have empty : l.drop (l.length - (k - t.length)) = [] := List.drop_eq_nil_of_le (by omega)
    rw [empty, List.drop_eq_nil_of_le (by omega)]
  · have before : l.length + t.length - k = l.length - (k - t.length) := by omega
    rw [before]

/-- If all new elements satisfy a test, it does not matter what they are. -/
theorem length_filter_lastOf (each : ∀ a ∈ new, test a) :
    ((lastOf k (old ++ new)).filter test).length =
      ((lastOf (k - new.length) old).filter test).length + min k new.length := by
  have all : (lastOf k new).filter test = lastOf k new :=
    List.filter_eq_self.2 fun a ha => each a (List.mem_of_mem_drop ha)
  rw [lastOf_append_eq, List.filter_append, List.length_append, all, length_lastOf]

/-- If there are as many new elements, or more than are kept in both cases, as many satisfy the test. -/
theorem length_filter_lastOf_congr (each : ∀ a ∈ new, test a) (each' : ∀ a ∈ new', test a)
    (same : new.length = new'.length ∨ k ≤ new.length ∧ k ≤ new'.length) :
    ((lastOf k (old ++ new)).filter test).length = ((lastOf k (old ++ new')).filter test).length := by
  rw [length_filter_lastOf each, length_filter_lastOf each']
  rcases same with same | ⟨more, more'⟩
  · rw [same]
  · rw [Nat.sub_eq_zero_of_le more, Nat.sub_eq_zero_of_le more', min_eq_left more, min_eq_left more']

end Stream

namespace Store

variable {s : Store} {stream group : String} {posts posts' cs : List TimedCall}

/-- Appends do not touch any group. -/
theorem group_afterAll (appends : ∀ q ∈ posts, ∃ stream fields maxLen, q.call = .append stream fields maxLen) :
    ((s.afterAll posts).view stream group).group = (s.view stream group).group := by
  induction posts generalizing s with
  | nil => rfl
  | cons q posts ih =>
    obtain ⟨x, fields, maxLen, call⟩ := appends q List.mem_cons_self
    have rest := ih (s := (s.perform q.clock q.call).2) fun q hq => appends q (List.mem_cons_of_mem _ hq)
    refine rest.trans ?_
    rw [view_perform, call, View.step]
    split <;> rfl

section SameBound

variable {m n : Nat}

/-- With one bound every time, the last entries stay, as many as the bound allows. -/
theorem entries_afterAll_replicate {k : Nat}
    (bounds : ((s.history posts).postings stream).map (·.maxLen) = List.replicate (k + 1) m) :
    (s.afterAll posts).entries stream = Stream.lastOf (min ((s.entries stream).length + (k + 1)) m)
      (s.entries stream ++ ((s.history posts).postings stream).map (·.entry)) := by
  rw [entries_afterAll, bounds, Stream.kept_replicate_succ]

/-- What was appended is past every cursor that is not past the last identifier. -/
theorem past_of_posting {cursor : StreamId} (room : s.Roomy posts)
    (le : cursor ≤ (s.streamOrNew stream).lastId) :
    ∀ e ∈ ((s.history posts).postings stream).map (·.entry), decide (cursor < e.id) := by
  intro e he
  obtain ⟨q, hq, rfl⟩ := List.mem_map.1 he
  have later := ((increasing_afterAll fun a ha _ => room a ha).2 q hq).1
  exact decide_eq_true (lt_of_le_of_lt le later)

section Capped

variable (positive : 1 ≤ n)
  (capped : ((s.history posts).postings stream).map (·.maxLen) = List.replicate (min n (max m 1)) m)
  (whole : ((s.history posts').postings stream).map (·.maxLen) = List.replicate n m)

include positive capped whole

/-- As many entries stay with a cap as without one. The new ones among them are as many, or there is nothing
else. -/
theorem entries_of_cap : ∃ k,
    (s.afterAll posts).entries stream =
      Stream.lastOf k (s.entries stream ++ ((s.history posts).postings stream).map (·.entry)) ∧
    (s.afterAll posts').entries stream =
      Stream.lastOf k (s.entries stream ++ ((s.history posts').postings stream).map (·.entry)) ∧
    ((((s.history posts).postings stream).map (·.entry)).length =
        (((s.history posts').postings stream).map (·.entry)).length ∨
      k ≤ (((s.history posts).postings stream).map (·.entry)).length ∧
        k ≤ (((s.history posts').postings stream).map (·.entry)).length) := by
  have few : ((s.history posts).postings stream).length = min n (max m 1) := by
    simpa using congrArg List.length capped
  have many : ((s.history posts').postings stream).length = n := by
    simpa using congrArg List.length whole
  obtain ⟨k, is⟩ : ∃ k, min n (max m 1) = k + 1 := ⟨min n (max m 1) - 1, by omega⟩
  obtain ⟨k', is'⟩ : ∃ k', n = k' + 1 := ⟨n - 1, by omega⟩
  have bound : min ((s.entries stream).length + (k' + 1)) m = min ((s.entries stream).length + (k + 1)) m := by
    omega
  have entries := entries_afterAll_replicate (capped.trans (by rw [is]))
  have entries' := entries_afterAll_replicate (whole.trans (by rw [is']))
  rw [bound] at entries'
  refine ⟨_, entries, entries', ?_⟩
  simp only [List.length_map, few, many]
  omega

/-- **A cap does not show** in the length of a stream. -/
theorem same_length : ((s.afterAll posts).entries stream).length = ((s.afterAll posts').entries stream).length := by
  obtain ⟨k, entries, entries', same⟩ := entries_of_cap positive capped whole
  rw [entries, entries', Stream.length_lastOf, Stream.length_lastOf, List.length_append, List.length_append]
  omega

/-- Nor does it show past a cursor, as long as there is room. -/
theorem same_past (room : s.Roomy posts) (room' : s.Roomy posts') {cursor : StreamId}
    (le : cursor ≤ (s.streamOrNew stream).lastId) :
    ((s.afterAll posts).rangeAfter stream cursor).length = ((s.afterAll posts').rangeAfter stream cursor).length := by
  obtain ⟨k, entries, entries', same⟩ := entries_of_cap positive capped whole
  rw [rangeAfter, rangeAfter, entries, entries']
  exact Stream.length_filter_lastOf_congr (past_of_posting room le) (past_of_posting room' le) same

end Capped

end SameBound

/-! ### What is outstanding -/

/-- **A cap does not show in a backlog** either, in a history that had room. -/
theorem same_outstanding {n m : Nat} (positive : 1 ≤ n)
    (appends : ∀ q ∈ posts, ∃ stream fields maxLen, q.call = .append stream fields maxLen)
    (appends' : ∀ q ∈ posts', ∃ stream fields maxLen, q.call = .append stream fields maxLen)
    (capped : (((empty.afterAll cs).history posts).postings stream).map (·.maxLen) =
      List.replicate (min n (max m 1)) m)
    (whole : (((empty.afterAll cs).history posts').postings stream).map (·.maxLen) = List.replicate n m)
    (room : empty.Roomy (cs ++ posts)) (room' : empty.Roomy (cs ++ posts'))
    (le : ∀ g, ((empty.afterAll cs).view stream group).group = some g →
      g.cursor ≤ ((empty.afterAll cs).streamOrNew stream).lastId) :
    ((empty.afterAll (cs ++ posts)).outstanding stream group).card =
      ((empty.afterAll (cs ++ posts')).outstanding stream group).card := by
  have same : ((empty.afterAll (cs ++ posts)).view stream group).group =
      ((empty.afterAll cs).view stream group).group := by
    rw [afterAll_append, group_afterAll appends]
  have same' : ((empty.afterAll (cs ++ posts')).view stream group).group =
      ((empty.afterAll cs).view stream group).group := by
    rw [afterAll_append, group_afterAll appends']
  cases there : ((empty.afterAll cs).view stream group).group with
  | none =>
    rw [outstanding_eq_empty (same.trans there), outstanding_eq_empty (same'.trans there)]
  | some g =>
    have past := same_past positive capped whole (roomy_append.1 room).2 (roomy_append.1 room').2 (le g there)
    rw [card_outstanding room (same.trans there), card_outstanding room' (same'.trans there), afterAll_append,
      afterAll_append, past]

end Store

end StreamQueue
