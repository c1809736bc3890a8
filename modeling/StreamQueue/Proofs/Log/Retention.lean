import StreamQueue.Proofs.Log.Order

/-!
# What a stream retains

An append gives out an identifier and says how many entries are to stay at most. The bound is its
own: the next append may have a larger one or a smaller one, and a bound of nothing leaves nothing.
The wall clock may stand, go back or show a time before the epoch.

What a stream holds is always the end of what was ever appended to it. How long that end is follows
from the bounds alone: an append makes it longer by one and then as short as its bound. An entry that
was dropped does not come back when a later bound is larger.

## What is proved

* `Stream.lastOf_append` — to keep the end of a list and go on from there is to keep the end of the
  whole.
* `Act.entries_left` — what one call leaves of the entries of a stream.
* `Store.entries_afterAll` — the entries of a stream after any calls are the end of what was there
  and what was appended.
* `Store.increasing_afterAll` — identifiers are given out in increasing order.
* `Store.retention` — both, with what is known of each identifier and of the fields of each entry.
-/

namespace StreamQueue

attribute [local instance] StreamId.linearOrder

/-! ### Ends of lists -/

namespace Stream

variable {α : Type}

theorem length_lastOf (n : Nat) (l : List α) : (lastOf n l).length = min n l.length := by
  rw [lastOf, List.length_drop]
  omega

theorem lastOf_of_length_le {n : Nat} {l : List α} (long : l.length ≤ n) : lastOf n l = l := by
  rw [lastOf, Nat.sub_eq_zero_of_le long, List.drop_zero]

theorem lastOf_min (n : Nat) (l : List α) : lastOf (min l.length n) l = lastOf n l := by
  rw [lastOf, lastOf]
  congr 1
  omega

/-- To keep the end of a list and go on from there is to keep the end of the whole, if no more is
kept than there is. -/
theorem lastOf_append {m k : Nat} {l t : List α} (few : m ≤ k + t.length) :
    lastOf m (lastOf k l ++ t) = lastOf m (l ++ t) := by
  have short : l.length - k ≤ l.length := Nat.sub_le _ _
  have after : lastOf k l ++ t = (l ++ t).drop (l.length - k) := (List.drop_append_of_le_length short).symm
  rw [after]
  simp only [lastOf, List.drop_drop, List.length_drop, List.length_append]
  congr 1
  omega

/-- How many entries a stream retains after appends, given how many it retained before: each append
makes it one more, but no more than its bound. -/
def kept (before : Nat) (bounds : List Nat) : Nat :=
  bounds.foldl (fun n maxLen => min (n + 1) maxLen) before

theorem kept_le (n : Nat) (bounds : List Nat) : kept n bounds ≤ n + bounds.length := by
  induction bounds generalizing n with
  | nil => exact Nat.le_refl n
  | cons maxLen bounds ih =>
    have rest := ih (min (n + 1) maxLen)
    simp only [kept, List.foldl_cons, List.length_cons] at rest ⊢
    omega

theorem kept_append (n : Nat) (bounds more : List Nat) :
    kept n (bounds ++ more) = kept (kept n bounds) more := List.foldl_append ..

/-- To append some entries and then others is to append them all. -/
theorem lastOf_kept {l p q : List α} {bounds more : List Nat} (first : p.length = bounds.length)
    (second : q.length = more.length) :
    let r := lastOf (kept l.length bounds) (l ++ p)
    lastOf (kept r.length more) (r ++ q) = lastOf (kept l.length (bounds ++ more)) (l ++ (p ++ q)) := by
  intro r
  have length : r.length = kept l.length bounds := by
    have le := kept_le l.length bounds
    rw [length_lastOf, List.length_append, first]
    omega
  have few : kept r.length more ≤ kept l.length bounds + q.length := by
    have le := kept_le r.length more
    omega
  rw [lastOf_append few, length, kept_append, List.append_assoc]

/-- With the same bound every time, the appends are counted up to the bound. -/
theorem kept_replicate {n m : Nat} (within : n ≤ m) (k : Nat) :
    kept n (List.replicate k m) = min (n + k) m := by
  induction k generalizing n with
  | zero =>
    show n = min n m
    omega
  | succ k ih =>
    have rest : kept (min (n + 1) m) (List.replicate k m) = min (min (n + 1) m + k) m := ih (by omega)
    rw [List.replicate_succ, kept, List.foldl_cons, ← kept, rest]
    omega

/-- The first append makes the stream as short as the bound, however long it was. -/
theorem kept_replicate_succ (n m k : Nat) : kept n (List.replicate (k + 1) m) = min (n + (k + 1)) m := by
  have rest : kept (min (n + 1) m) (List.replicate k m) = min (min (n + 1) m + k) m :=
    kept_replicate (Nat.min_le_right _ _) k
  rw [List.replicate_succ, kept, List.foldl_cons, ← kept, rest]
  omega

/-- The clock's millisecond is not past that of the next identifier. -/
theorem millis_le_nextId {s : Stream} (room : s.lastId ≠ StreamId.last) {wall : Timestamp}
    (fits : wall.wholeMillis < 2 ^ 64) : wall.wholeMillis.toNat ≤ (s.nextId wall).ms.toNat := by
  have word : (UInt64.ofNat wall.wholeMillis.toNat).toNat = wall.wholeMillis.toNat := by
    rw [UInt64.toNat_ofNat']
    apply Nat.mod_eq_of_lt
    omega
  rw [nextId]
  split
  · exact Nat.le_of_eq word.symm
  · rename_i behind
    rw [UInt64.lt_iff_toNat_lt, word] at behind
    have later := StreamId.lt_iff_position_lt.1 (StreamId.lt_next room)
    have small := s.lastId.next.seq.toNat_lt
    simp only [StreamId.position, UInt64.size] at later
    omega

end Stream

/-! ### Appends that were carried out -/

/-- An append to a stream that was carried out. -/
structure Posting where
  /-- What the wall clock showed. -/
  wall : Timestamp
  fields : List (String × String)
  /-- How many entries were to stay at most. -/
  maxLen : Nat
  /-- The identifier that was answered. -/
  id : StreamId
  deriving DecidableEq, Repr

/-- The entry that an append brings. -/
def Posting.entry (p : Posting) : Entry := ⟨p.id, Table.ofList p.fields⟩

/-- Of several values for a field the last stays. -/
theorem Posting.field?_entry (p : Posting) (name : String) :
    p.entry.field? name = p.fields.reverse.lookup name := Table.get?_ofList p.fields name

/-- The append to a stream that a call is, if it has been answered. -/
def LogCall.postings (stream : String) (clock : Clock) : (c : LogCall) → c.Result → List Posting
  | .append s fields maxLen, .ok id => if s = stream then [⟨clock.wall, fields, maxLen, id⟩] else []
  | _, _ => []

def Act.postings (stream : String) (a : Act) : List Posting := a.call.postings stream a.clock a.result

/-- The appends to a stream, in order. -/
def History.postings (h : History) (stream : String) : List Posting := h.flatMap (·.postings stream)

namespace Act

variable {a : Act} {stream : String}

theorem append_or (a : Act) (stream : String) :
    (∃ fields maxLen, a.call = .append stream fields maxLen) ∨
      ∀ fields maxLen, a.call ≠ .append stream fields maxLen := by
  by_cases append : ∃ fields maxLen, a.call = .append stream fields maxLen
  · exact .inl append
  · exact .inr fun fields maxLen call => append ⟨fields, maxLen, call⟩

theorem postings_of_append {fields : List (String × String)} {maxLen : Nat}
    (call : a.call = .append stream fields maxLen) :
    a.postings stream = [⟨a.clock.wall, fields, maxLen, (a.found.streamOrNew stream).nextId a.clock.wall⟩] := by
  obtain ⟨found, clock, c⟩ := a
  cases call
  exact if_pos rfl

theorem postings_of_ne (other : ∀ fields maxLen, a.call ≠ .append stream fields maxLen) :
    a.postings stream = [] := by
  obtain ⟨found, clock, c⟩ := a
  cases c with
  | append x fields maxLen =>
    refine if_neg ?_
    rintro rfl
    exact other fields maxLen rfl
  | _ => rfl

/-- An append sets the stream anew; no other call touches it, whatever it does to the groups. -/
theorem stream_left_of_append {fields : List (String × String)} {maxLen : Nat}
    (call : a.call = .append stream fields maxLen) :
    a.left.entries stream = Stream.lastOf maxLen (a.found.entries stream ++
        [⟨(a.found.streamOrNew stream).nextId a.clock.wall, Table.ofList fields⟩]) ∧
      (a.left.streamOrNew stream).lastId = (a.found.streamOrNew stream).nextId a.clock.wall := by
  have left : a.left.view stream "" =
      (a.found.view stream "").push a.clock.wall (Table.ofList fields) maxLen := by
    rw [left_view, call, View.step, if_pos rfl]
  rw [Store.entries_eq _ stream "", Store.entries_eq _ stream ""]
  exact ⟨congrArg View.entries left, congrArg View.lastId left⟩

theorem stream_left_of_ne (other : ∀ fields maxLen, a.call ≠ .append stream fields maxLen) :
    a.left.entries stream = a.found.entries stream ∧
      (a.left.streamOrNew stream).lastId = (a.found.streamOrNew stream).lastId := by
  have same : (a.left.view stream "").entries = (a.found.view stream "").entries ∧
      (a.left.view stream "").lastId = (a.found.view stream "").lastId := by
    rw [Act.left_view]
    refine View.step_elim (motive := fun v => v.entries = (a.found.view stream "").entries ∧
      v.lastId = (a.found.view stream "").lastId) ⟨rfl, rfl⟩ ?push ?create ?read ?see ?claim ?ack
    case push => exact fun fields maxLen call => absurd call (other fields maxLen)
    case create | read => exact fun _ _ => ⟨rfl, rfl⟩
    case see | ack => exact fun _ => ⟨rfl, rfl⟩
    case claim => exact fun _ _ _ => ⟨rfl, rfl⟩
  rw [Store.entries_eq _ stream "", Store.entries_eq _ stream ""]
  exact same

/-- **One call** leaves the end of what a stream retained and what was appended to it. -/
theorem entries_left (a : Act) (stream : String) :
    a.left.entries stream =
      Stream.lastOf (Stream.kept (a.found.entries stream).length ((a.postings stream).map (·.maxLen)))
        (a.found.entries stream ++ (a.postings stream).map (·.entry)) := by
  rcases a.append_or stream with ⟨fields, maxLen, call⟩ | other
  · rw [(stream_left_of_append call).1, postings_of_append call]
    simp only [List.map_cons, List.map_nil, Stream.kept, List.foldl_cons, List.foldl_nil]
    have whole (e : Entry) : (a.found.entries stream).length + 1 = (a.found.entries stream ++ [e]).length := by
      rw [List.length_append, List.length_singleton]
    rw [whole, Stream.lastOf_min]
    rfl
  · rw [(stream_left_of_ne other).1, postings_of_ne other, List.map_nil, List.map_nil, List.append_nil]
    exact (Stream.lastOf_of_length_le (Nat.le_refl _)).symm

/-- The identifier of an append is past those before it, and no other call moves the last one. -/
theorem lastId_left {a : Act} {stream : String} (room : a.postings stream ≠ [] → a.HasRoom) :
    (∀ p ∈ a.postings stream, (a.found.streamOrNew stream).lastId < p.id ∧
      p.id = (a.left.streamOrNew stream).lastId ∧
      (p.wall.wholeMillis < 2 ^ 64 → p.wall.wholeMillis.toNat ≤ p.id.ms.toNat)) ∧
    (a.found.streamOrNew stream).lastId ≤ (a.left.streamOrNew stream).lastId := by
  rcases a.append_or stream with ⟨fields, maxLen, call⟩ | other
  · have fits : (a.found.streamOrNew stream).lastId ≠ StreamId.last := by
      have roomy := room (by rw [postings_of_append call]; exact List.cons_ne_nil _ _)
      rw [HasRoom, call] at roomy
      exact roomy
    have later := Stream.lt_nextId fits a.clock.wall
    rw [postings_of_append call, (stream_left_of_append call).2]
    refine ⟨?_, le_of_lt later⟩
    intro p hp
    rw [List.mem_singleton.1 hp]
    exact ⟨later, rfl, Stream.millis_le_nextId fits⟩
  · rw [postings_of_ne other, (stream_left_of_ne other).2]
    exact ⟨by simp, le_refl _⟩

end Act

/-! ### Any history -/

namespace Store

variable {s : Store} {stream : String} {cs : List TimedCall}

/-- **What is retained**: the end of what there was at the start and of what was appended since. -/
theorem entries_afterAll (s : Store) (stream : String) (cs : List TimedCall) :
    (s.afterAll cs).entries stream =
      Stream.lastOf (Stream.kept (s.entries stream).length (((s.history cs).postings stream).map (·.maxLen)))
        (s.entries stream ++ ((s.history cs).postings stream).map (·.entry)) := by
  induction cs generalizing s with
  | nil =>
    rw [history, History.postings, List.flatMap_nil, List.map_nil, List.map_nil, List.append_nil]
    exact (Stream.lastOf_of_length_le (Nat.le_refl _)).symm
  | cons c cs ih =>
    let a : Act := ⟨s, c.clock, c.call⟩
    have first : a.left.entries stream = _ := a.entries_left stream
    have rest : (s.afterAll (c :: cs)).entries stream = _ := ih a.left
    rw [rest, first, Stream.lastOf_kept (by simp) (by simp), ← List.map_append, ← List.map_append]
    rfl

/-- **Identifiers** are given out in increasing order, past the last one that there was. -/
theorem increasing_afterAll (room : ∀ a ∈ s.history cs, a.postings stream ≠ [] → a.HasRoom) :
    (((s.history cs).postings stream).map (·.id)).Pairwise (· < ·) ∧
      ∀ p ∈ (s.history cs).postings stream, (s.streamOrNew stream).lastId < p.id ∧
        (p.wall.wholeMillis < 2 ^ 64 → p.wall.wholeMillis.toNat ≤ p.id.ms.toNat) := by
  induction cs generalizing s with
  | nil => exact ⟨.nil, by simp [history, History.postings]⟩
  | cons c cs ih =>
    let a : Act := ⟨s, c.clock, c.call⟩
    obtain ⟨here, up⟩ := Act.lastId_left (room a List.mem_cons_self)
    obtain ⟨increasing, later⟩ := ih (s := a.left) fun b hb => room b (List.mem_cons_of_mem _ hb)
    have split : (s.history (c :: cs)).postings stream =
        a.postings stream ++ (a.left.history cs).postings stream := rfl
    rw [split, List.map_append, List.pairwise_append]
    refine ⟨⟨?_, increasing, ?_⟩, ?_⟩
    · rcases a.append_or stream with ⟨fields, maxLen, call⟩ | other
      · rw [Act.postings_of_append call]
        exact List.pairwise_singleton _ _
      · rw [Act.postings_of_ne other]
        exact .nil
    · intro id first id' second
      obtain ⟨p, hp, rfl⟩ := List.mem_map.1 first
      obtain ⟨q, hq, rfl⟩ := List.mem_map.1 second
      rw [(here p hp).2.1]
      exact (later q hq).1
    · intro p hp
      rcases List.mem_append.1 hp with first | second
      · exact ⟨(here p first).1, (here p first).2.2⟩
      · exact ⟨lt_of_le_of_lt up (later p second).1, (later p second).2⟩

/-- **Retention**: take any calls on any log, and of these the appends to a stream. Each is answered
with an identifier that is past those before it and past the least one, and whose millisecond is not
before the one that the clock shows. The stream then retains the end of what it retained at the
start and of what was appended to it since; on a log that was empty at the start, that is the end of
all that was ever appended. How long the end is the bounds say, one after the other, and a call that
is no append to the stream changes nothing of it. Of several values for a field the entry has the
last. So of appends with the same bound to a stream that retains nothing the last ones stay, as many
as the bound allows. -/
theorem retention (s : Store) (stream : String) (cs : List TimedCall)
    (room : ∀ a ∈ s.history cs, a.postings stream ≠ [] → a.HasRoom) :
    let posted := (s.history cs).postings stream
    let retained := (s.afterAll cs).entries stream
    let length := Stream.kept (s.entries stream).length (posted.map (·.maxLen))
    (posted.map (·.id)).Pairwise (· < ·) ∧
    (∀ p ∈ posted, StreamId.zero < p.id ∧
      (p.wall.wholeMillis < 2 ^ 64 → p.wall.wholeMillis.toNat ≤ p.id.ms.toNat) ∧
      ∀ name, p.entry.field? name = p.fields.reverse.lookup name) ∧
    (retained = Stream.lastOf length (s.entries stream ++ posted.map (·.entry)) ∧ retained.length = length) ∧
    (∀ a ∈ s.history cs,
      (∃ fields maxLen id, a.call = .append stream fields maxLen ∧
        a.postings stream = [⟨a.clock.wall, fields, maxLen, id⟩]) ∨
      a.postings stream = [] ∧ a.left.entries stream = a.found.entries stream) ∧
    ∀ m, s.entries stream = [] → (∀ p ∈ posted, p.maxLen = m) →
      retained = Stream.lastOf (min posted.length m) (posted.map (·.entry)) := by
  intro posted retained length
  have is : retained = Stream.lastOf length (s.entries stream ++ posted.map (·.entry)) :=
    entries_afterAll s stream cs
  obtain ⟨increasing, later⟩ := increasing_afterAll room
  refine ⟨increasing, ?ids, ⟨is, ?length⟩, ?acts, ?bound⟩
  case ids =>
    intro p hp
    obtain ⟨past, millis⟩ := later p hp
    exact ⟨lt_of_le_of_lt (StreamId.zero_le _) past, millis, p.field?_entry⟩
  case length =>
    have le := Stream.kept_le (s.entries stream).length (posted.map (·.maxLen))
    rw [is, Stream.length_lastOf, List.length_append, List.length_map]
    rw [List.length_map] at le
    exact min_eq_left le
  case acts =>
    intro a _
    rcases a.append_or stream with ⟨fields, maxLen, call⟩ | other
    · exact .inl ⟨fields, maxLen, _, call, Act.postings_of_append call⟩
    · exact .inr ⟨Act.postings_of_ne other, (Act.stream_left_of_ne other).1⟩
  case bound =>
    intro m nothing same
    have bounds : posted.map (·.maxLen) = List.replicate posted.length m := by
      rw [List.eq_replicate_iff, List.length_map]
      refine ⟨rfl, ?_⟩
      intro n hn
      obtain ⟨p, hp, rfl⟩ := List.mem_map.1 hn
      exact same p hp
    have count : length = min posted.length m := by
      show Stream.kept (s.entries stream).length (posted.map (·.maxLen)) = _
      rw [nothing, bounds, List.length_nil, Stream.kept_replicate (Nat.zero_le m), Nat.zero_add]
    rw [is, nothing, count, List.nil_append]

/-- The wall clock stands, goes back, shows a time before the epoch and goes on. The bounds become
smaller and larger again. -/
def fickle : List TimedCall := [
  ⟨⟨⟨1⟩, .ofMillis 5 0⟩, .append "jobs" [("size", "1"), ("size", "2")] 9⟩,
  ⟨⟨⟨2⟩, .ofMillis 5 0⟩, .createGroup "jobs" "workers" .zero⟩,
  ⟨⟨⟨3⟩, .ofMillis 5 0⟩, .append "jobs" [] 9⟩,
  ⟨⟨⟨4⟩, .ofMillis 3 0⟩, .append "jobs" [("size", "3"), ("size", "4")] 1⟩,
  ⟨⟨⟨5⟩, .ofMillis (-4) 0⟩, .append "jobs" [] 3⟩,
  ⟨⟨⟨6⟩, .ofMillis 2 0⟩, .append "mail" [] 0⟩,
  ⟨⟨⟨7⟩, .ofMillis 8 0⟩, .append "jobs" [] 3⟩]

/-- Five appends to one stream, of which three entries are left: the first two do not come back. -/
theorem retention_fickle :
    (∀ a ∈ empty.history fickle, a.postings "jobs" ≠ [] → a.HasRoom) ∧
    ((empty.history fickle).postings "jobs").map (·.id) = [⟨5, 0⟩, ⟨5, 1⟩, ⟨5, 2⟩, ⟨5, 3⟩, ⟨8, 0⟩] ∧
    ((empty.afterAll fickle).entries "jobs").length = 3 ∧
    (empty.afterAll fickle).entries "jobs" =
      Stream.lastOf 3 (((empty.history fickle).postings "jobs").map (·.entry)) ∧
    ∀ p ∈ (empty.history fickle).postings "jobs", p.id = ⟨5, 2⟩ → p.entry.field? "size" = some "4" := by
  have room : ∀ a ∈ empty.history fickle, a.postings "jobs" ≠ [] → a.HasRoom := by decide
  obtain ⟨-, each, ⟨is, length⟩, -, -⟩ := retention empty "jobs" fickle room
  have three : Stream.kept (empty.entries "jobs").length
      (((empty.history fickle).postings "jobs").map (·.maxLen)) = 3 := by decide
  rw [three] at is length
  refine ⟨room, by decide, length, is, ?_⟩
  intro p hp third
  rw [(each p hp).2.2]
  revert p
  decide

end Store

end StreamQueue
