/-!
# Tables

A finite map with ordered keys, kept as its list of pairs in increasing order of
the keys. The order of the list is part of the type, so a listing needs no
sorting, and two tables that answer every look-up alike are equal.

## What is proved

* `get?_insert`, `get?_erase`, `get?_adjust`, `get?_ofList` — what each operation does to every
  look-up.
* `lookup_eq_some_iff_mem` — in any list of pairs in which no key is repeated, what is looked up is what is
  there.
* `mem_pairs_iff` — the list holds a pair exactly when the look-up finds it.
* `mem_keys_iff`, `nodup_keys` — the keys are those that a look-up finds, each once.
* `ext_get?` — the look-ups determine the table.
-/

namespace StreamQueue

/-- A type whose order `<` is a strict linear order. -/
class Ordered (α : Type) extends LT α where
  decide_lt : DecidableLT α
  irrefl : ∀ a : α, ¬ a < a
  trans : ∀ {a b c : α}, a < b → b < c → a < c
  connex : ∀ a b : α, a < b ∨ a = b ∨ b < a

instance Ordered.decidableLT {α : Type} [Ordered α] : DecidableLT α := Ordered.decide_lt

instance : Ordered String where
  decide_lt := inferInstance
  irrefl := String.lt_irrefl
  trans := String.lt_trans
  connex _ _ := Std.lt_trichotomy _ _

/-! ### Look-ups in a list of pairs -/

section Pairs

variable {α β : Type} [DecidableEq α]

theorem lookup_cons_eq (key : α) (p : α × β) (l : List (α × β)) :
    (p :: l).lookup key = if key = p.1 then some p.2 else l.lookup key := by
  by_cases same : key = p.1
  · rw [List.lookup_cons, if_pos same, same, BEq.rfl]
  · rw [List.lookup_cons, if_neg same, beq_false_of_ne same]

/-- Where no key is repeated, what is looked up is what is there. -/
theorem lookup_eq_some_iff_mem {key : α} {value : β} {l : List (α × β)} (once : (l.map (·.1)).Nodup) :
    l.lookup key = some value ↔ (key, value) ∈ l := by
  induction l with
  | nil => simp
  | cons p l ih =>
    obtain ⟨k, v⟩ := p
    obtain ⟨new, once⟩ := List.nodup_cons.1 once
    rw [lookup_cons_eq, List.mem_cons, Prod.mk.injEq]
    by_cases same : key = k
    · subst same
      have absent : (key, value) ∉ l := fun mem => new (List.mem_map.2 ⟨_, mem, rfl⟩)
      simp [absent, eq_comm]
    · rw [if_neg same, ih once]
      simp [same]

end Pairs

/-- A finite map from `α` to `β`. -/
@[ext]
structure Table (α β : Type) [Ordered α] where
  /-- The pairs of key and value. -/
  pairs : List (α × β)
  /-- The keys increase. -/
  increasing : pairs.Pairwise fun a b => a.1 < b.1

namespace Table

variable {α β : Type} [Ordered α]

/-- The table with no key. -/
def empty : Table α β := ⟨[], .nil⟩

instance : Inhabited (Table α β) := ⟨empty⟩
instance : EmptyCollection (Table α β) := ⟨empty⟩

instance [DecidableEq α] [DecidableEq β] : DecidableEq (Table α β) := fun a b =>
  if h : a.pairs = b.pairs then isTrue (Table.ext h) else isFalse fun e => h (e ▸ rfl)

instance [Repr α] [Repr β] : Repr (Table α β) := ⟨fun t n => reprPrec t.pairs n⟩

/-! ### On lists of pairs -/

/-- The value at a key, in a list with increasing keys: the walk ends where the
key would have stood. -/
def lookup (key : α) : List (α × β) → Option β
  | [] => none
  | (k, v) :: rest =>
    if k < key then lookup key rest else if key < k then none else some v

/-- The list with the value at a key set. -/
def setPair (key : α) (value : β) : List (α × β) → List (α × β)
  | [] => [(key, value)]
  | (k, v) :: rest =>
    if k < key then (k, v) :: setPair key value rest
    else if key < k then (key, value) :: (k, v) :: rest
    else (key, value) :: rest

/-- The list without a key. -/
def dropPair (key : α) : List (α × β) → List (α × β)
  | [] => []
  | (k, v) :: rest =>
    if k < key then (k, v) :: dropPair key rest
    else if key < k then (k, v) :: rest
    else rest

theorem mem_setPair {key : α} {value : β} {p : α × β} {l : List (α × β)}
    (h : p ∈ setPair key value l) : p = (key, value) ∨ p ∈ l := by
  fun_induction setPair key value l <;> grind

theorem mem_of_mem_dropPair {key : α} {p : α × β} {l : List (α × β)}
    (h : p ∈ dropPair key l) : p ∈ l := by
  fun_induction dropPair key l <;> grind

theorem pairwise_setPair {key : α} {value : β} {l : List (α × β)}
    (h : l.Pairwise fun a b => a.1 < b.1) :
    (setPair key value l).Pairwise fun a b => a.1 < b.1 := by
  fun_induction setPair key value l with
  | case1 => simp
  | case2 k v rest hlt ih =>
    rw [List.pairwise_cons] at h ⊢
    refine ⟨fun p hp => ?_, ih h.2⟩
    rcases mem_setPair hp with rfl | hp
    · exact hlt
    · exact h.1 p hp
  | case3 k v rest hlt hgt =>
    refine List.pairwise_cons.2 ⟨fun p hp => ?_, h⟩
    rcases List.mem_cons.1 hp with rfl | hp
    · exact hgt
    · exact Ordered.trans hgt ((List.pairwise_cons.1 h).1 p hp)
  | case4 k v rest hlt hgt =>
    have e : key = k := by
      rcases Ordered.connex k key with h' | h' | h'
      · exact absurd h' hlt
      · exact h'.symm
      · exact absurd h' hgt
    subst e
    rw [List.pairwise_cons] at h ⊢
    exact h

theorem pairwise_dropPair {key : α} {l : List (α × β)}
    (h : l.Pairwise fun a b => a.1 < b.1) :
    (dropPair key l).Pairwise fun a b => a.1 < b.1 := by
  fun_induction dropPair key l with
  | case1 => simp
  | case2 k v rest hlt ih =>
    rw [List.pairwise_cons] at h ⊢
    exact ⟨fun p hp => h.1 p (mem_of_mem_dropPair hp), ih h.2⟩
  | case3 => exact h
  | case4 => exact (List.pairwise_cons.1 h).2

/-! ### Operations -/

/-- The value at a key. -/
def get? (t : Table α β) (key : α) : Option β := lookup key t.pairs

/-- Whether there is a value at a key. -/
def contains (t : Table α β) (key : α) : Bool := (t.get? key).isSome

/-- The table with the value at a key set. -/
def insert (t : Table α β) (key : α) (value : β) : Table α β :=
  ⟨setPair key value t.pairs, pairwise_setPair t.increasing⟩

/-- The table without a key. -/
def erase (t : Table α β) (key : α) : Table α β :=
  ⟨dropPair key t.pairs, pairwise_dropPair t.increasing⟩

/-- The table with the value at a key, if there is one, replaced. -/
def adjust (t : Table α β) (key : α) (f : β → β) : Table α β :=
  match t.get? key with
  | some v => t.insert key (f v)
  | none => t

/-- The keys, increasing. -/
def keys (t : Table α β) : List α := t.pairs.map (·.1)

/-- How many keys there are. -/
def size (t : Table α β) : Nat := t.pairs.length

/-- The table of a list of pairs. Of several values for a key the last stays. -/
def ofList (l : List (α × β)) : Table α β :=
  l.foldl (fun t p => t.insert p.1 p.2) empty

/-! ### Look-ups -/

variable [DecidableEq α]

omit [DecidableEq α] in
theorem lookup_eq_none_of_lt {key : α} {l : List (α × β)} (h : ∀ p ∈ l, key < p.1) :
    lookup key l = none := by
  cases l with
  | nil => rfl
  | cons p rest =>
    have hk := h p (by simp)
    have : ¬ p.1 < key := fun h' => Ordered.irrefl _ (Ordered.trans hk h')
    simp [lookup, hk, this]

theorem lookup_setPair {key other : α} {value : β} {l : List (α × β)}
    (h : l.Pairwise fun a b => a.1 < b.1) :
    lookup other (setPair key value l) = if other = key then some value else lookup other l := by
  have irr := fun a : α => Ordered.irrefl a
  have tr := @Ordered.trans α _
  have cx := fun a b : α => Ordered.connex a b
  fun_induction setPair key value l with
  | case1 => grind [lookup]
  | case2 k v rest hlt ih =>
    have ih := ih (List.pairwise_cons.1 h).2
    grind [lookup]
  | case3 k v rest hlt hgt => grind [lookup]
  | case4 k v rest hlt hgt => grind [lookup]

theorem lookup_dropPair {key other : α} {l : List (α × β)}
    (h : l.Pairwise fun a b => a.1 < b.1) :
    lookup other (dropPair key l) = if other = key then none else lookup other l := by
  have irr := fun a : α => Ordered.irrefl a
  have tr := @Ordered.trans α _
  have cx := fun a b : α => Ordered.connex a b
  fun_induction dropPair key l with
  | case1 => simp [lookup]
  | case2 k v rest hlt ih =>
    have ih := ih (List.pairwise_cons.1 h).2
    grind [lookup]
  | case3 k v rest hlt hgt => grind [lookup]
  | case4 k v rest hlt hgt =>
    have hk : key = k := by grind
    have none_key : lookup key rest = none :=
      lookup_eq_none_of_lt fun p hp => hk ▸ (List.pairwise_cons.1 h).1 p hp
    have before : other < k → lookup other rest = none := fun ho =>
      lookup_eq_none_of_lt fun p hp => Ordered.trans ho ((List.pairwise_cons.1 h).1 p hp)
    grind [lookup]

omit [DecidableEq α] in
theorem lookup_eq_some_iff {key : α} {value : β} {l : List (α × β)}
    (h : l.Pairwise fun a b => a.1 < b.1) : lookup key l = some value ↔ (key, value) ∈ l := by
  have irr := fun a : α => Ordered.irrefl a
  have tr := @Ordered.trans α _
  have cx := fun a b : α => Ordered.connex a b
  induction l with
  | nil => simp [lookup]
  | cons p rest ih =>
    obtain ⟨k, v⟩ := p
    have ih := ih (List.pairwise_cons.1 h).2
    have above := (List.pairwise_cons.1 h).1
    have not_mem : ∀ w, ¬ k < key → (key, w) ∉ rest := fun w hk hm => hk (above _ hm)
    simp only [lookup, List.mem_cons, Prod.mk.injEq]
    split
    · grind
    · grind

omit [DecidableEq α] in
@[simp] theorem get?_empty (key : α) : (empty : Table α β).get? key = none := rfl

theorem get?_insert (t : Table α β) (key other : α) (value : β) :
    (t.insert key value).get? other = if other = key then some value else t.get? other :=
  lookup_setPair t.increasing

theorem get?_erase (t : Table α β) (key other : α) :
    (t.erase key).get? other = if other = key then none else t.get? other :=
  lookup_dropPair t.increasing

theorem get?_adjust (t : Table α β) (key other : α) (f : β → β) :
    (t.adjust key f).get? other = if other = key then (t.get? key).map f else t.get? other := by
  unfold adjust
  split
  · rename_i v hv
    rw [get?_insert]
    split <;> simp_all
  · rename_i hv
    split <;> simp_all

theorem get?_foldl_insert (t : Table α β) (l : List (α × β)) (key : α) :
    (l.foldl (fun t p => t.insert p.1 p.2) t).get? key = (l.reverse.lookup key).or (t.get? key) := by
  induction l generalizing t with
  | nil => rfl
  | cons p l ih =>
    obtain ⟨first, value⟩ := p
    rw [List.foldl_cons, ih, List.reverse_cons, List.lookup_append, get?_insert, Option.or_assoc, lookup_cons_eq,
      List.lookup_nil]
    by_cases same : key = first
    · rw [if_pos same, if_pos same, Option.some_or]
    · rw [if_neg same, if_neg same, Option.none_or]

/-- Of several values for a key the last stays. -/
theorem get?_ofList (l : List (α × β)) (key : α) : (ofList l).get? key = l.reverse.lookup key := by
  rw [ofList, get?_foldl_insert, get?_empty, Option.or_none]

omit [DecidableEq α] in
/-- The list of a table holds a pair exactly when the look-up finds it. -/
theorem mem_pairs_iff {t : Table α β} {key : α} {value : β} :
    (key, value) ∈ t.pairs ↔ t.get? key = some value :=
  (lookup_eq_some_iff t.increasing).symm

/-- To search the pairs of a table for a key is to look it up. -/
theorem find?_pairs (t : Table α β) (key : α) :
    (t.pairs.find? fun p => p.1 == key) = (t.get? key).map fun value => (key, value) := by
  cases found : t.pairs.find? fun p => p.1 == key with
  | none =>
    cases there : t.get? key with
    | none => rfl
    | some value =>
      have other := List.find?_eq_none.1 found (key, value) (mem_pairs_iff.2 there)
      simp at other
  | some p =>
    obtain rfl : p.1 = key := by simpa using List.find?_some found
    rw [mem_pairs_iff.1 (List.mem_of_find?_eq_some found), Option.map_some]

omit [DecidableEq α] in
theorem mem_keys_iff {t : Table α β} {key : α} : key ∈ t.keys ↔ ∃ value, t.get? key = some value := by
  simp only [keys, List.mem_map, Prod.exists, exists_and_right, exists_eq_right, mem_pairs_iff]

omit [DecidableEq α] in
theorem mem_keys {t : Table α β} {key : α} : key ∈ t.keys ↔ (t.get? key).isSome := by
  rw [mem_keys_iff, Option.isSome_iff_exists]

omit [DecidableEq α] in
theorem nodup_keys (t : Table α β) : t.keys.Nodup := by
  refine List.pairwise_map.2 (t.increasing.imp fun {a b} h same => ?_)
  rw [same] at h
  exact Ordered.irrefl _ h

theorem count_keys (t : Table α β) (key : α) : t.keys.count key = (t.get? key).isSome.toNat := by
  rw [t.nodup_keys.count]
  cases h : t.get? key with
  | none => simp [mem_keys_iff, h]
  | some value => simp [mem_keys_iff, h]

omit [DecidableEq α] in
theorem eq_of_lookup_eq {l m : List (α × β)} (hl : l.Pairwise fun a b => a.1 < b.1)
    (hm : m.Pairwise fun a b => a.1 < b.1) (h : ∀ key, lookup key l = lookup key m) : l = m := by
  have irr := fun a : α => Ordered.irrefl a
  have tr := @Ordered.trans α _
  have cx := fun a b : α => Ordered.connex a b
  induction l generalizing m with
  | nil =>
    cases m with
    | nil => rfl
    | cons p rest => have := h p.1; simp [lookup, irr] at this
  | cons p l ih =>
    obtain ⟨k, v⟩ := p
    cases m with
    | nil => have := h k; simp [lookup, irr] at this
    | cons q m =>
      obtain ⟨k', v'⟩ := q
      have hk : lookup k ((k', v') :: m) = some v := by rw [← h k]; simp [lookup, irr]
      have hk' : lookup k' ((k, v) :: l) = some v' := by rw [h k']; simp [lookup, irr]
      have above := (List.pairwise_cons.1 hl).1
      have above' := (List.pairwise_cons.1 hm).1
      have e : k = k' := by
        have notlt : ¬ k < k' := fun hlt => by
          have : lookup k ((k', v') :: m) = none :=
            lookup_eq_none_of_lt fun p hp => by
              rcases List.mem_cons.1 hp with rfl | hp
              · exact hlt
              · exact tr hlt (above' p hp)
          rw [this] at hk; cases hk
        have notgt : ¬ k' < k := fun hlt => by
          have : lookup k' ((k, v) :: l) = none :=
            lookup_eq_none_of_lt fun p hp => by
              rcases List.mem_cons.1 hp with rfl | hp
              · exact hlt
              · exact tr hlt (above p hp)
          rw [this] at hk'; cases hk'
        rcases cx k k' with h' | h' | h'
        · exact absurd h' notlt
        · exact h'
        · exact absurd h' notgt
      subst e
      have ev : v' = v := by simpa [lookup, irr] using hk
      subst ev
      refine congrArg _ (ih (List.pairwise_cons.1 hl).2 (List.pairwise_cons.1 hm).2 fun key => ?_)
      by_cases hlt : k < key
      · have := h key; simpa [lookup, hlt] using this
      · have small : ∀ n : List (α × β), (∀ p ∈ n, k < p.1) → lookup key n = none := fun n hn =>
          lookup_eq_none_of_lt fun p hp => by
            rcases cx k key with h' | h' | h'
            · exact absurd h' hlt
            · exact h' ▸ hn p hp
            · exact tr h' (hn p hp)
        rw [small l above, small m above']

omit [DecidableEq α] in
/-- Two tables with the same look-ups are equal. -/
theorem ext_get? {t u : Table α β} (h : ∀ key, t.get? key = u.get? key) : t = u :=
  Table.ext (eq_of_lookup_eq t.increasing u.increasing h)

/-- A value that is set again is as if it had been set once. -/
theorem insert_insert (t : Table α β) (key : α) (first last : β) :
    (t.insert key first).insert key last = t.insert key last := by
  refine ext_get? fun other => ?_
  simp only [get?_insert]
  split <;> rfl

/-- To set a value that is there changes nothing. -/
theorem insert_self {t : Table α β} {key : α} {value : β} (there : t.get? key = some value) :
    t.insert key value = t := by
  refine ext_get? fun other => ?_
  rw [get?_insert]
  split
  · rename_i same
    rw [same, there]
  · rfl

end Table

end StreamQueue
