import StreamQueue.Proofs.Log.View

/-!
# The order of a stream

An append gives out an identifier past all that were given out before, and a stream drops
its oldest entries only. So the retained entries of a stream stand in the order of their
identifiers, and a search that walks them in this order finds what there is to find.

## What is proved

* `Stream.lt_nextId` — while there is an identifier left, the next one is past the last.
* `View.InOrder.step` — a call leaves the retained entries in order.
* `Stream.findIn_eq_none_iff` — the search fails exactly when the entry is not retained.
* `Store.roomy_of_length` — with a clock below `2 ^ 63` milliseconds no history of fewer
  than `2 ^ 127` calls comes to the end of the identifiers.
-/

namespace StreamQueue

/-! ### Identifiers -/

namespace StreamId

theorem le_self (a : StreamId) : a ≤ a := by
  rw [le_iff_position_le]

theorem le_of_le_of_le (a b c : StreamId) (h : a ≤ b) (h' : b ≤ c) : a ≤ c := by
  rw [le_iff_position_le] at h h' ⊢
  exact Nat.le_trans h h'

theorem eq_of_le_of_le (a b : StreamId) (h : a ≤ b) (h' : b ≤ a) : a = b := by
  rw [le_iff_position_le] at h h'
  exact position_injective (Nat.le_antisymm h h')

theorem lt_iff_le_and_not_le (a b : StreamId) : a < b ↔ a ≤ b ∧ ¬ b ≤ a := by
  rw [le_iff_position_le, le_iff_position_le, lt_iff_position_lt]
  omega

theorem le_or_le (a b : StreamId) : a ≤ b ∨ b ≤ a := by
  rw [le_iff_position_le, le_iff_position_le]
  omega

/-- The order of identifiers is linear. -/
@[reducible] def linearOrder : LinearOrder StreamId where
  le_refl := le_self
  le_trans := le_of_le_of_le
  le_antisymm := eq_of_le_of_le
  lt_iff_le_not_ge := lt_iff_le_and_not_le
  le_total := le_or_le
  toDecidableLE := inferInstance
  toDecidableEq := inferInstance
  toDecidableLT := inferInstance

attribute [local instance] linearOrder

theorem lt_next {id : StreamId} (h : id ≠ last) : id < id.next := by
  rw [lt_iff_position_lt, position_next h]
  exact Nat.lt_succ_self _

theorem zero_le (id : StreamId) : zero ≤ id := by
  rw [le_iff_position_le, position_zero]
  exact Nat.zero_le _

theorem position_last : last.position = 2 ^ 128 - 1 := by decide

/-- What is past an identifier is past every earlier one. -/
theorem filter_past {α : Type} {a b : StreamId} (earlier : a < b) (key : α → StreamId) (l : List α) :
    (l.filter fun x => b < key x) = (l.filter fun x => a < key x).filter fun x => b < key x := by
  rw [List.filter_filter]
  refine List.filter_congr fun x _ => ?_
  by_cases later : b < key x
  · simp [later, lt_trans earlier later]
  · simp [later]

end StreamId

attribute [local instance] StreamId.linearOrder

/-! ### The next identifier -/

namespace Stream

theorem lt_nextId {s : Stream} (room : s.lastId ≠ StreamId.last) (wall : Timestamp) :
    s.lastId < s.nextId wall := by
  unfold nextId
  simp only
  split
  · rename_i later
    exact .inl later
  · exact StreamId.lt_next room

/-- The next identifier is the successor of the last one, or the first of a millisecond
that the clock shows. -/
theorem position_nextId_le {s : Stream} (room : s.lastId ≠ StreamId.last) {wall : Timestamp}
    (sane : wall.wholeMillis < 2 ^ 63) :
    (s.nextId wall).position ≤ max (2 ^ 127) (s.lastId.position + 1) := by
  unfold nextId
  simp only
  split
  · refine Nat.le_trans ?_ (Nat.le_max_left _ _)
    have small : (UInt64.ofNat wall.wholeMillis.toNat).toNat < 2 ^ 63 := by
      rw [UInt64.toNat_ofNat']
      exact Nat.lt_of_le_of_lt (Nat.mod_le _ _) (by omega)
    simp only [StreamId.position, UInt64.size, UInt64.toNat_zero]
    omega
  · rw [StreamId.position_next room]
    exact Nat.le_max_right _ _

/-! ### Searching entries in order -/

theorem findIn_eq_some_iff {id : StreamId} {e : Entry} {l : List Entry}
    (h : l.Pairwise fun a b => a.id < b.id) : findIn id l = some e ↔ e ∈ l ∧ e.id = id := by
  induction l with
  | nil => simp [findIn]
  | cons a rest ih =>
    obtain ⟨above, h⟩ := List.pairwise_cons.1 h
    rw [findIn]
    split
    · rename_i before
      rw [ih h]
      have : e = a → e.id ≠ id := by rintro rfl; exact ne_of_lt before
      grind
    · split
      · rename_i past
        have : e ∈ a :: rest → e.id ≠ id := by
          intro he
          rcases List.mem_cons.1 he with rfl | he
          · exact ne_of_gt past
          · exact ne_of_gt (lt_trans past (above e he))
        grind
      · have same : a.id = id := le_antisymm (not_lt.1 ‹_›) (not_lt.1 ‹_›)
        have : e ∈ rest → e.id ≠ id := fun he => same ▸ ne_of_gt (above e he)
        grind

theorem findIn_eq_none_iff {id : StreamId} {l : List Entry}
    (h : l.Pairwise fun a b => a.id < b.id) : findIn id l = none ↔ id ∉ l.map (·.id) := by
  rw [Option.eq_none_iff_forall_ne_some]
  simp only [ne_eq, findIn_eq_some_iff h, List.mem_map, not_exists]

end Stream

/-! ### Entries in order -/

namespace View

/-- The retained entries are in order and none is past the last identifier. -/
structure InOrder (v : View) : Prop where
  increasing : v.entries.Pairwise fun a b => a.id < b.id
  le_lastId : ∀ e ∈ v.entries, e.id ≤ v.lastId

variable {v : View}

theorem InOrder.push (h : v.InOrder) (room : v.lastId ≠ StreamId.last) (wall : Timestamp)
    (fields : Fields) (maxLen : Nat) : (v.push wall fields maxLen).InOrder := by
  have later : v.lastId < v.stream.nextId wall := Stream.lt_nextId (s := v.stream) room wall
  have suffix : (v.push wall fields maxLen).entries <:+
      v.entries ++ [⟨v.stream.nextId wall, fields⟩] := List.drop_suffix _ _
  refine ⟨?_, fun e he => ?_⟩
  · refine List.Pairwise.sublist suffix.sublist (List.pairwise_append.2 ⟨h.increasing, by simp, ?_⟩)
    intro a ha b hb
    rw [List.mem_singleton.1 hb]
    exact lt_of_le_of_lt (h.le_lastId a ha) later
  · rcases List.mem_append.1 (suffix.subset he) with he | he
    · exact le_trans (h.le_lastId e he) (le_of_lt later)
    · rw [List.mem_singleton.1 he]
      exact le_refl _

/-- A call leaves the retained entries in order. -/
theorem InOrder.step (h : v.InOrder) (stream group : String) (clock : Clock) (c : LogCall)
    (room : ∀ fields maxLen, c = .append stream fields maxLen → v.lastId ≠ StreamId.last) :
    (v.step stream group clock c).InOrder := by
  have adjust : ∀ f, (v.adjust f).InOrder := fun f => ⟨h.increasing, h.le_lastId⟩
  cases c with
  | append s fields maxLen =>
    simp only [View.step]
    split
    · rename_i same
      exact h.push (room fields maxLen (by rw [same])) _ _ _
    · exact h
  | createGroup =>
    simp only [View.step]
    split
    · exact ⟨h.increasing, h.le_lastId⟩
    · exact h
  | readNew | readPending | claim | ack =>
    simp only [View.step]
    split
    · exact adjust _
    · exact h
  | ping | pendingEntries | pendingCount | len | rangeAfter | groups => exact h

end View

namespace Store

theorem view_empty (stream group : String) : empty.view stream group = ⟨[], StreamId.zero, none⟩ := rfl

theorem inOrder_empty (stream group : String) : (empty.view stream group).InOrder := by
  refine ⟨?_, ?_⟩ <;> simp [view_empty]

theorem inOrder_left {a : Act} {stream group : String} (fits : a.HasRoom)
    (inOrder : (a.found.view stream group).InOrder) : (a.left.view stream group).InOrder := by
  rw [Act.left_view]
  refine inOrder.step stream group a.clock a.call fun fields maxLen hc => ?_
  rw [Act.HasRoom, hc] at fits
  exact fits

/-- Every history that had room leaves the entries of every stream in order. -/
theorem inOrder_afterAll {cs : List TimedCall} (room : empty.Roomy cs) (stream group : String) :
    ((empty.afterAll cs).view stream group).InOrder := by
  refine history_induction (P := fun _ s => (s.view stream group).InOrder)
    (inOrder_empty stream group) (fun _ _ ih fits => inOrder_left fits ih) cs room

theorem inOrder_found {cs : List TimedCall} (room : empty.Roomy cs) {a : Act}
    (ha : a ∈ empty.history cs) (stream group : String) : (a.found.view stream group).InOrder := by
  refine (history_induction
    (P := fun h s => (∀ a ∈ h, (a.found.view stream group).InOrder) ∧ (s.view stream group).InOrder)
    ⟨by simp, inOrder_empty stream group⟩ (fun h b ⟨before, now⟩ fits => ⟨?_, inOrder_left fits now⟩)
    cs room).1 a ha
  intro a ha
  rcases List.mem_append.1 ha with ha | ha
  · exact before a ha
  · exact List.mem_singleton.1 ha ▸ now

/-! ### Room for identifiers -/

theorem lastId_step_le (v : View) (stream group : String) (clock : Clock) (c : LogCall)
    (room : ∀ fields maxLen, c = .append stream fields maxLen → v.lastId ≠ StreamId.last)
    (sane : clock.wall.wholeMillis < 2 ^ 63) :
    (v.step stream group clock c).lastId.position ≤ max (2 ^ 127) (v.lastId.position + 1) := by
  have same : v.lastId.position ≤ max (2 ^ 127) (v.lastId.position + 1) := by omega
  cases c with
  | append s fields maxLen =>
    simp only [View.step]
    split
    · rename_i h
      exact Stream.position_nextId_le (s := v.stream) (room fields maxLen (by rw [h])) sane
    · exact same
  | createGroup | readNew | readPending | claim | ack =>
    simp only [View.step]
    split <;> exact same
  | ping | pendingEntries | pendingCount | len | rangeAfter | groups => exact same

theorem roomy_of_bound {s : Store} {n : Nat} {cs : List TimedCall}
    (bound : ∀ stream, (s.streamOrNew stream).lastId.position ≤ 2 ^ 127 + n)
    (sane : ∀ c ∈ cs, c.clock.wall.wholeMillis < 2 ^ 63) (few : n + cs.length < 2 ^ 127) :
    s.Roomy cs := by
  induction cs generalizing s n with
  | nil => simp [Roomy, history]
  | cons c cs ih =>
    have notLast : ∀ stream, (s.streamOrNew stream).lastId ≠ StreamId.last := by
      intro stream last
      have := bound stream
      rw [last, StreamId.position_last] at this
      simp only [List.length_cons] at few
      omega
    intro a ha
    rcases List.mem_cons.1 ha with rfl | ha
    · rw [Act.HasRoom]
      split
      · exact notLast _
      · trivial
    · refine ih (n := n + 1) (fun stream => ?_) (fun d hd => sane d (List.mem_cons_of_mem _ hd))
        (by simp only [List.length_cons] at few; omega) a ha
      have next := lastId_step_le (s.view stream "") stream "" c.clock c.call
        (fun _ _ _ => notLast stream) (sane c List.mem_cons_self)
      rw [← view_perform] at next
      have before : (s.view stream "").lastId.position ≤ 2 ^ 127 + n := bound stream
      refine Nat.le_trans next ?_
      omega

/-- **Room**: it takes `2 ^ 127` calls at least to come to the end of the identifiers. -/
theorem roomy_of_length {cs : List TimedCall}
    (sane : ∀ c ∈ cs, c.clock.wall.wholeMillis < 2 ^ 63) (few : cs.length < 2 ^ 127) :
    empty.Roomy cs :=
  roomy_of_bound (n := 0) (fun _ => (Nat.le_of_eq StreamId.position_zero).trans (Nat.zero_le _)) sane
    (by omega)

end Store

end StreamQueue
