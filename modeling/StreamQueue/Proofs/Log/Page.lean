import StreamQueue.Proofs.Log.Listing

/-!
# Pages of a pending list

Two operations show what is pending in pages: one lists the deliveries that have waited for long
enough, whoever they belong to, the other shows a consumer its own entries. A page begins past an
identifier and has so many rows at most. It is read off the pending list from the next identifier
on, which is the first of the next millisecond if the identifier is the last of its own; only the
greatest identifier has no next one.

A client that wants all rows asks for page after page. It begins at the least identifier, begins
each page past the last row of the page before, and stops behind a page that is not full. Both
operations choose their rows before they count them, so a page is short only if it is the last one.

## What is proved

* `Table.upFrom_next` — what is past an identifier is what there is from the next one on.
* `past_page` — what is past an identifier is a page and what is past the last row of the page.
* `Paged.unique`, `paged_of_pages` — to go through the pages comes to an end in one way, with all rows.
* `Store.pages_cover` — this of both operations, with the rows that there are.
-/

namespace StreamQueue

attribute [local instance] StreamId.linearOrder

/-! ### From an identifier on -/

/-- The pairs of a table from a key on. -/
def Table.upFrom {α β : Type} [Ordered α] (t : Table α β) (key : α) : List (α × β) :=
  t.pairs.dropWhile fun p => p.1 < key

namespace StreamId

/-- What is past an identifier is not before the next one. -/
theorem next_le_iff {a b : StreamId} (h : a ≠ last) : a.next ≤ b ↔ a < b := by
  rw [le_iff_position_le, lt_iff_position_lt, position_next h]
  omega

end StreamId

/-- What is past an identifier is what there is from the next one on. -/
theorem Table.upFrom_next {β : Type} (t : Table StreamId β) {after : StreamId} (h : after ≠ .last) :
    t.upFrom after.next = t.pairs.filter fun p => after < p.1 := by
  have increasing := t.increasing
  rw [upFrom]
  generalize t.pairs = l at increasing
  induction l with
  | nil => rfl
  | cons p rest ih =>
    obtain ⟨above, sorted⟩ := List.pairwise_cons.1 increasing
    by_cases past : after < p.1
    · have here : ¬ p.1 < after.next := not_lt.2 ((StreamId.next_le_iff h).2 past)
      have all : ∀ q ∈ p :: rest, decide (after < q.1) = true := by
        intro q hq
        rcases List.mem_cons.1 hq with rfl | behind
        · simp [past]
        · simp [lt_trans past (above q behind)]
      rw [List.dropWhile_cons_of_neg (by simpa using here), List.filter_eq_self.2 all]
    · have before : p.1 < after.next := not_le.1 fun le => past ((StreamId.next_le_iff h).1 le)
      rw [List.dropWhile_cons_of_pos (by simpa using before), List.filter_cons_of_neg (by simpa using past)]
      exact ih sorted

/-! ### Page after page -/

section Rows

variable {α : Type} {key : α → StreamId} {rows : List α} {after : StreamId} {count : Nat} {final : α}

/-- What is past an identifier is a page and what is past the last row of the page. -/
theorem past_page (sorted : rows.Pairwise fun a b => key a < key b)
    (last : ((rows.filter fun a => after < key a).take count).getLast? = some final) :
    (rows.filter fun a => after < key a) =
      (rows.filter fun a => after < key a).take count ++ rows.filter fun a => key final < key a := by
  have past : after < key final := by
    have row := List.mem_of_mem_take (List.mem_of_getLast? last)
    exact of_decide_eq_true (List.mem_filter.1 row).2
  have sorted : (rows.filter fun a => after < key a).Pairwise fun a b => key a < key b :=
    sorted.sublist List.filter_sublist
  rw [StreamId.filter_past past]
  generalize (rows.filter fun a => after < key a) = rows at last sorted
  obtain ⟨before, page⟩ := List.getLast?_eq_some_iff.1 last
  rw [← List.take_append_drop count rows, List.pairwise_append] at sorted
  have within : (rows.take count).filter (fun a => key final < key a) = [] := by
    rw [List.filter_eq_nil_iff]
    intro a ha
    rw [decide_eq_true_eq, not_lt]
    rw [page] at ha sorted
    rcases List.mem_append.1 ha with early | same
    · exact le_of_lt ((List.pairwise_append.1 sorted.1).2.2 a early final List.mem_cons_self)
    · rw [List.mem_singleton.1 same]
  have beyond : (rows.drop count).filter (fun a => key final < key a) = rows.drop count := by
    rw [List.filter_eq_self]
    intro a ha
    exact decide_eq_true (sorted.2.2 final (List.mem_of_getLast? last) a ha)
  calc rows = rows.take count ++ rows.drop count := (List.take_append_drop count rows).symm
    _ = rows.take count ++ ((rows.take count).filter (fun a => key final < key a) ++
        (rows.drop count).filter (fun a => key final < key a)) := by rw [within, beyond, List.nil_append]
    _ = rows.take count ++ rows.filter (fun a => key final < key a) := by
      rw [← List.filter_append, List.take_append_drop]

end Rows

/-- A client goes through pages, from past an identifier on: it begins each page past the last row
of the page before, and ends behind the first page that is not full. -/
inductive Paged {α : Type} (ask : StreamId → Store → Except LogError (List α) × Store) (key : α → StreamId)
    (size : Nat) : StreamId → Store → List (List α) → Store → Prop
  | short {after : StreamId} {s left : Store} {page : List α} (asked : ask after s = (.ok page, left))
    (few : page.length < size) : Paged ask key size after s [page] left
  | full {after : StreamId} {s next left : Store} {page : List α} {final : α} {pages : List (List α)}
    (asked : ask after s = (.ok page, next)) (all : size ≤ page.length) (last : page.getLast? = some final)
    (rest : Paged ask key size (key final) next pages left) : Paged ask key size after s (page :: pages) left

section Paged

variable {α : Type} {ask : StreamId → Store → Except LogError (List α) × Store} {key : α → StreamId}
  {size : Nat} {after : StreamId} {s left left' : Store} {pages pages' : List (List α)}

/-- There is one way to go through the pages. -/
theorem Paged.unique (one : Paged ask key size after s pages left)
    (other : Paged ask key size after s pages' left') : pages' = pages ∧ left' = left := by
  induction one generalizing pages' left' with
  | short asked few =>
    cases other with
    | short asked' few' =>
      cases asked.symm.trans asked'
      exact ⟨rfl, rfl⟩
    | full asked' all' =>
      cases asked.symm.trans asked'
      omega
  | full asked all last rest ih =>
    cases other with
    | short asked' few' =>
      cases asked.symm.trans asked'
      omega
    | full asked' all' last' rest' =>
      cases asked.symm.trans asked'
      cases last.symm.trans last'
      obtain ⟨rfl, rfl⟩ := ih rest'
      exact ⟨rfl, rfl⟩

/-- **Page after page**: if each answer is a page of rows in order, to go through the pages comes to
an end, with all the rows past the identifier, in as many pages as the rows fill and one more. -/
theorem paged_of_pages {rows : List α} (sorted : rows.Pairwise fun a b => key a < key b) (positive : 0 < size)
    (after : StreamId)
    (first : ∀ after, ask after s = (.ok ((rows.filter fun a => after < key a).take size), left))
    (later : ∀ after, ask after left = (.ok ((rows.filter fun a => after < key a).take size), left)) :
    ∃ pages, Paged ask key size after s pages left ∧
      pages.flatten = rows.filter (fun a => after < key a) ∧
      pages.length = (rows.filter fun a => after < key a).length / size + 1 := by
  -- Each full page leaves fewer rows past its last one.
  induction n : (rows.filter fun a => after < key a).length using Nat.strong_induction_on
    generalizing after s with
  | _ n ih =>
    subst n
    by_cases few : (rows.filter fun a => after < key a).length < size
    · refine ⟨[(rows.filter fun a => after < key a).take size], ?_, ?_, ?_⟩
      · refine .short (first after) ?_
        rw [List.length_take]
        omega
      · rw [List.flatten_singleton, List.take_of_length_le (le_of_lt few)]
      · rw [Nat.div_eq_of_lt few, List.length_singleton]
    · have length : ((rows.filter fun a => after < key a).take size).length = size := by
        rw [List.length_take]
        omega
      obtain ⟨final, last⟩ : ∃ final, ((rows.filter fun a => after < key a).take size).getLast? = some final := by
        refine Option.ne_none_iff_exists'.1 fun none => ?_
        rw [List.getLast?_eq_none_iff.1 none, List.length_nil] at length
        omega
      have split := past_page sorted last
      have total := congrArg List.length split
      rw [List.length_append, length] at total
      obtain ⟨pages, rest, flat, number⟩ := ih _ (by omega) (key final) later rfl
      refine ⟨_ :: pages, .full (first after) (by omega) last rest, ?_, ?_⟩
      · rw [List.flatten_cons, flat, ← split]
      · rw [List.length_cons, number, total, Nat.add_div_left _ positive]

end Paged

/-! ### The two lists -/

namespace Group

variable (g : Group) (now : Instant) (minIdle : Span) (me : String)

theorem idle_increasing : (g.idle now minIdle).Pairwise fun p q => p.id < q.id :=
  List.Pairwise.sublist List.filter_sublist (List.pairwise_map.2 g.pending.increasing)

theorem ownedBy_increasing : (g.ownedBy me).Pairwise (· < ·) :=
  List.Pairwise.sublist (g.ownedBy_sublist me) (List.pairwise_map.2 g.pending.increasing)

variable {g now minIdle me}

theorem mem_idle {p : PendingEntry} : p ∈ g.idle now minIdle ↔
    ∃ d, g.pending.get? p.id = some d ∧ minIdle ≤ now.since d.since ∧ p = listing now p.id d := by
  simp only [idle, List.mem_filter, List.mem_map, decide_eq_true_eq, Prod.exists]
  constructor
  · rintro ⟨⟨id, d, pending, rfl⟩, waits⟩
    exact ⟨d, Table.mem_pairs_iff.1 pending, waits, rfl⟩
  · rintro ⟨d, pending, waits, is⟩
    refine ⟨⟨p.id, d, Table.mem_pairs_iff.2 pending, is.symm⟩, ?_⟩
    rw [is]
    exact waits

/-- The list of deliveries past an identifier, read off the pending list from the next one on. -/
theorem idle_past {after : StreamId} (h : after ≠ .last) :
    ((g.pending.upFrom after.next).map fun p => listing now p.1 p.2).filter (fun p => minIdle ≤ p.idle) =
      (g.idle now minIdle).filter fun p => after < p.id := by
  rw [Table.upFrom_next _ h]
  simp only [idle, List.filter_map, List.filter_filter]
  refine congrArg _ (List.filter_congr fun p _ => ?_)
  rw [Bool.and_comm]
  rfl

/-- A consumer's entries past an identifier, read off the pending list from the next one on. -/
theorem ownedBy_upFrom {after : StreamId} (h : after ≠ .last) :
    ((g.pending.upFrom after.next).filter fun p => p.2.owner == me).map (·.1) =
      (g.ownedBy me).filter fun id => after < id := by
  rw [Table.upFrom_next _ h]
  simp only [ownedBy, List.filter_map, List.filter_filter]
  refine congrArg _ (List.filter_congr fun p _ => ?_)
  rw [Bool.and_comm]
  rfl

end Group

theorem Stream.shown_eq {st : Stream} (increasing : st.entries.Pairwise fun a b => a.id < b.id) (id : StreamId) :
    st.shown id ∈ st.entries ∨ id ∉ st.entries.map (·.id) ∧ st.shown id = Entry.trimmed id := by
  rw [shown, find?]
  cases found : findIn id st.entries with
  | none => exact .inr ⟨(findIn_eq_none_iff increasing).1 found, rfl⟩
  | some e => exact .inl ((findIn_eq_some_iff increasing).1 found).1

/-- An operation shows some rows, in order, in pages. A page has the first rows past an identifier,
and to go through the pages from the least identifier on comes to an end, in one way, with every
row once. -/
structure InPages {α : Type} (ask : Nat → StreamId → Store → Except LogError (List α) × Store)
    (key : α → StreamId) (s left : Store) (rows : List α) : Prop where
  sorted : rows.Pairwise fun a b => key a < key b
  page : ∀ count after, after ≠ .last →
    ask count after s = (.ok ((rows.filter fun a => after < key a).take count), left)
  through : ∀ size, 0 < size → ∃ pages : List (List α), pages.flatten = rows ∧
    pages.length = rows.length / size + 1 ∧
    ∀ pages' left', Paged (ask size) key size .zero s pages' left' ↔ pages' = pages ∧ left' = left

theorem inPages {α : Type} {ask : Nat → StreamId → Store → Except LogError (List α) × Store}
    {key : α → StreamId} {s left : Store} {rows : List α} (sorted : rows.Pairwise fun a b => key a < key b)
    (positive : ∀ a ∈ rows, StreamId.zero < key a)
    (first : ∀ count after, ask count after s = (.ok ((rows.filter fun a => after < key a).take count), left))
    (later : ∀ count after,
      ask count after left = (.ok ((rows.filter fun a => after < key a).take count), left)) :
    InPages ask key s left rows where
  sorted := sorted
  page := fun count after _ => first count after
  through := by
    intro size wanted
    have all : (rows.filter fun a => StreamId.zero < key a) = rows := by
      rw [List.filter_eq_self]
      intro a ha
      exact decide_eq_true (positive a ha)
    obtain ⟨pages, paged, flat, number⟩ := paged_of_pages sorted wanted .zero (first size) (later size)
    rw [all] at flat number
    refine ⟨pages, flat, number, fun pages' left' => ⟨paged.unique, ?_⟩⟩
    rintro ⟨rfl, rfl⟩
    exact paged

namespace Store

variable {stream group : String} {st : Stream} {g : Group}

/-- The rows of the list of deliveries: those that have waited for as long as is asked for. -/
structure ListsDeliveries (s : Store) (stream group : String) (g : Group) (clock : Clock) (minIdle : Span)
    (rows : List PendingEntry) : Prop where
  pages : InPages (fun count after s => s.perform clock (.pendingEntries stream group minIdle after count))
    (·.id) s s rows
  waiting : ∀ p, p ∈ rows ↔ ∃ d, g.pending.get? p.id = some d ∧ minIdle ≤ clock.now.since d.since ∧
    p = ⟨p.id, d.owner, d.count, clock.now.since d.since⟩
  /-- What is past an identifier is what is read off the pending list from the next one on. -/
  upFrom : ∀ after, after ≠ .last → (rows.filter fun p => after < p.id) =
    ((g.pending.upFrom after.next).map fun p => Group.listing clock.now p.1 p.2).filter
      fun p => minIdle ≤ p.idle

/-- The rows that are shown to a consumer: the entries that are its own. -/
structure ShowsEntries (s : Store) (stream group : String) (st : Stream) (g : Group) (clock : Clock)
    (consumer : String) (rows : List Entry) : Prop where
  /-- The log is as it was, but for the consumer, who is known from then on. -/
  pages : InPages (fun count after s => s.perform clock (.readPending stream group consumer after count))
    (·.id) s (s.putGroup stream st group (g.see consumer)) rows
  own : ∀ id, id ∈ rows.map (·.id) ↔ ∃ d, g.pending.get? id = some d ∧ d.owner = consumer
  upFrom : ∀ after, after ≠ .last → ((rows.filter fun e => after < e.id).map (·.id)) =
    ((g.pending.upFrom after.next).filter fun p => p.2.owner == consumer).map (·.1)

/-- **Pages cover the pending list**: after every history, at any instant, for every group that is
there.

The list of deliveries shows, in pages, those that have waited for as long as is asked for; and
the entries of a consumer are shown in pages, each as it stands in the stream or, if it is no longer
retained, without fields (as long as the history had room for identifiers). Both lists are in the
order of the identifiers. A page has the first rows past any identifier but the greatest. Who goes
through pages of any size that is not zero comes to an end, with all rows, each once, and in one
page more than the rows fill. -/
theorem pages_cover (cs : List TimedCall) (there : (empty.afterAll cs).group? stream group = some (st, g))
    (clock : Clock) :
    let s := empty.afterAll cs
    (∀ minIdle, ∃ rows, s.ListsDeliveries stream group g clock minIdle rows) ∧
    ∀ consumer, ∃ rows, s.ShowsEntries stream group st g clock consumer rows ∧
      (empty.Roomy cs → ∀ e ∈ rows, e ∈ s.entries stream ∨ e.id ∉ s.retained stream ∧ e.fields = ∅) := by
  intro s
  have attended := (attended_afterAll cs stream group).group g (view_of_there there)
  have here : s.putGroup stream st group g = s := putGroup_self there
  refine ⟨?deliveries, ?entries⟩
  case deliveries =>
    intro minIdle
    have ask (count : Nat) (after : StreamId) :
        s.perform clock (.pendingEntries stream group minIdle after count) =
          (.ok (((g.idle clock.now minIdle).filter fun p => after < p.id).take count), s) := by
      have performed := perform_pendingEntries s stream group st g clock minIdle after count
      rw [here] at performed
      exact performed
    refine ⟨g.idle clock.now minIdle, ⟨inPages (g.idle_increasing clock.now minIdle) ?_ ask ask,
      fun p => Group.mem_idle, fun after h => (Group.idle_past h).symm⟩⟩
    intro p hp
    obtain ⟨d, pending, -, -⟩ := Group.mem_idle.1 hp
    exact attended.positive p.id d pending
  case entries =>
    intro consumer
    have ids (l : List StreamId) : (l.map st.shown).map (·.id) = l := by
      rw [List.map_map]
      exact List.map_id'' st.id_shown l
    have past (after : StreamId) : (((g.ownedBy consumer).map st.shown).filter fun e => after < e.id) =
        ((g.ownedBy consumer).filter fun id => after < id).map st.shown := by
      rw [List.filter_map]
      simp only [Function.comp_def, st.id_shown]
    have first (count : Nat) (after : StreamId) :
        s.perform clock (.readPending stream group consumer after count) =
          (.ok ((((g.ownedBy consumer).map st.shown).filter fun e => after < e.id).take count),
            s.putGroup stream st group (g.see consumer)) := by
      have performed := perform_readPending s stream group st g clock consumer after count
      rw [here] at performed
      rw [performed, past, List.map_take]
    have later (count : Nat) (after : StreamId) :
        (s.putGroup stream st group (g.see consumer)).perform clock
            (.readPending stream group consumer after count) =
          (.ok ((((g.ownedBy consumer).map st.shown).filter fun e => after < e.id).take count),
            s.putGroup stream st group (g.see consumer)) := by
      have known : (g.see consumer).see consumer = g.see consumer :=
        Group.see_eq_self (g.see_consumers consumer).2
      rw [perform_readPending, known, past, List.map_take]
      rfl
    refine ⟨(g.ownedBy consumer).map st.shown, ⟨inPages ?sorted ?positive first later, ?own, ?upFrom⟩, ?standing⟩
    case sorted =>
      refine List.pairwise_map.2 ((g.ownedBy_increasing consumer).imp fun {a b} before => ?_)
      rw [st.id_shown, st.id_shown]
      exact before
    case positive =>
      intro e he
      obtain ⟨id, owned, rfl⟩ := List.mem_map.1 he
      obtain ⟨d, pending, -⟩ := Group.mem_ownedBy.1 owned
      rw [st.id_shown]
      exact attended.positive id d pending
    case own =>
      intro id
      rw [ids, Group.mem_ownedBy]
    case upFrom =>
      intro after h
      rw [past, ids, Group.ownedBy_upFrom h]
    case standing =>
      intro room e he
      obtain ⟨id, -, rfl⟩ := List.mem_map.1 he
      have entries : s.entries stream = st.entries := by
        rw [Store.entries, (group?_eq_some.1 there).1]
      rw [retained, entries, st.id_shown]
      rcases Stream.shown_eq (increasing_of_there room there) id with kept | ⟨gone, is⟩
      · exact .inl kept
      · refine .inr ⟨gone, ?_⟩
        rw [is]
        rfl

/-- Of five entries the first is trimmed while it is pending. The second is acknowledged, the fourth
goes to another consumer, and the fifth is delivered last. -/
def fivePending : List TimedCall := [
  .atMilli 1 (.createGroup "jobs" "workers" .zero), .atMilli 2 (.append "jobs" [] 4),
  .atMilli 2 (.append "jobs" [] 4), .atMilli 2 (.append "jobs" [("msg", "c")] 4),
  .atMilli 3 (.append "jobs" [] 4), .atMilli 4 (.readNew "jobs" "workers" "ann" 3 none),
  .atMilli 5 (.readNew "jobs" "workers" "bob" 1 none), .atMilli 6 (.append "jobs" [] 4),
  .atMilli 7 (.ack "jobs" "workers" [⟨2, 1⟩]), .atMilli 9 (.readNew "jobs" "workers" "ann" 1 none)]

/-- Three deliveries have waited for long enough, and fill one page of two and another in part. The
last identifier of a millisecond is no obstacle. Of ann's three entries the first has lost its
fields. -/
theorem pages_cover_fivePending :
    ∃ st g, (empty.afterAll fivePending).group? "jobs" "workers" = some (st, g) ∧
      let s := empty.afterAll fivePending
      let clock : Clock := (TimedCall.atMilli 9 .ping).clock
      (∃ pages : List (List PendingEntry), pages.map (·.map (·.id)) = [[⟨2, 0⟩, ⟨2, 2⟩], [⟨3, 0⟩]] ∧
        pages.flatten.Pairwise (fun p q => p.id < q.id) ∧
        s.perform clock (.pendingEntries "jobs" "workers" (.ofMillis 4) ⟨2, -1⟩ 2) =
          (.ok (pages.flatten.drop 2), s)) ∧
      ∃ rows : List Entry, rows = [⟨⟨2, 0⟩, ∅⟩, ⟨⟨2, 2⟩, Table.ofList [("msg", "c")]⟩, ⟨⟨6, 0⟩, ∅⟩] ∧
        ∀ e ∈ rows, e ∈ s.entries "jobs" ∨ e.id ∉ s.retained "jobs" ∧ e.fields = ∅ := by
  obtain ⟨⟨st, g⟩, there⟩ : ∃ found, (empty.afterAll fivePending).group? "jobs" "workers" = some found :=
    Option.isSome_iff_exists.1 (by decide)
  refine ⟨st, g, there, ?_⟩
  intro s clock
  obtain ⟨deliveries, entries⟩ := pages_cover fivePending there clock
  obtain ⟨rows, inPages, -, -⟩ := deliveries (.ofMillis 4)
  obtain ⟨pages, flat, -, only⟩ := inPages.through 2 (by decide)
  obtain ⟨shown, ⟨inPages', -, -⟩, standing⟩ := entries "ann"
  obtain ⟨pages', flat', -, only'⟩ := inPages'.through 2 (by decide)
  have first : s.perform clock (.pendingEntries "jobs" "workers" (.ofMillis 4) .zero 2) =
      (.ok [⟨⟨2, 0⟩, "ann", 1, .ofMillis 5⟩, ⟨⟨2, 2⟩, "ann", 1, .ofMillis 5⟩], s) := by decide
  have second : s.perform clock (.pendingEntries "jobs" "workers" (.ofMillis 4) ⟨2, 2⟩ 2) =
      (.ok [⟨⟨3, 0⟩, "bob", 1, .ofMillis 4⟩], s) := by decide
  have paged : Paged (fun after s => s.perform clock (.pendingEntries "jobs" "workers" (.ofMillis 4) after 2))
      (·.id) 2 .zero s [[⟨⟨2, 0⟩, "ann", 1, .ofMillis 5⟩, ⟨⟨2, 2⟩, "ann", 1, .ofMillis 5⟩],
        [⟨⟨3, 0⟩, "bob", 1, .ofMillis 4⟩]] s :=
    .full first (by decide) rfl (.short second (by decide))
  have first' : s.perform clock (.readPending "jobs" "workers" "ann" .zero 2) =
      (.ok [⟨⟨2, 0⟩, ∅⟩, ⟨⟨2, 2⟩, Table.ofList [("msg", "c")]⟩], s) := by decide
  have second' : s.perform clock (.readPending "jobs" "workers" "ann" ⟨2, 2⟩ 2) =
      (.ok [⟨⟨6, 0⟩, ∅⟩], s) := by decide
  have paged' : Paged (fun after s => s.perform clock (.readPending "jobs" "workers" "ann" after 2))
      (·.id) 2 .zero s [[⟨⟨2, 0⟩, ∅⟩, ⟨⟨2, 2⟩, Table.ofList [("msg", "c")]⟩], [⟨⟨6, 0⟩, ∅⟩]] s :=
    .full first' (by decide) rfl (.short second' (by decide))
  obtain ⟨rfl, -⟩ := (only _ _).1 paged
  obtain ⟨rfl, -⟩ := (only' _ _).1 paged'
  subst flat flat'
  have page := inPages.page 2 ⟨2, -1⟩ (by decide)
  refine ⟨⟨_, by decide, inPages.sorted, ?_⟩, _, rfl, standing (by decide)⟩
  rw [page]
  decide

end Store

end StreamQueue
