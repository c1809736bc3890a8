import StreamQueue.Table
import StreamQueue.Text.Decimal

/-!
# Entry identifiers

An entry of a stream is named by the millisecond in which it was appended and a
sequence number that tells apart the entries of one millisecond. Both are words
of 64 bits. The order is lexicographic, and identifiers of one stream only grow.

## What is proved

* `lt_iff_position_lt` — the order is that of the natural numbers `position`,
  which counts identifiers from `zero`.
* `position_next` — `next` is the immediate successor, the last identifier apart.
-/

namespace StreamQueue

/-- The identifier of an entry. -/
@[ext]
structure StreamId where
  /-- The millisecond of the append. -/
  ms : UInt64
  /-- The rank among the entries of that millisecond. -/
  seq : UInt64
  deriving DecidableEq, Repr, Inhabited, Hashable

namespace StreamId

/-- The least identifier. No entry has it: as a cursor it means that nothing was
ever delivered. -/
def zero : StreamId := ⟨0, 0⟩

/-- The greatest identifier, which has no successor. -/
def last : StreamId := ⟨-1, -1⟩

/-- The identifier that follows immediately. -/
def next (id : StreamId) : StreamId :=
  if id.seq = -1 then ⟨id.ms + 1, 0⟩ else ⟨id.ms, id.seq + 1⟩

def isZero (id : StreamId) : Bool := id == zero

/-- How many identifiers come before this one. -/
def position (id : StreamId) : Nat := id.ms.toNat * UInt64.size + id.seq.toNat

instance : LT StreamId := ⟨fun a b => a.ms < b.ms ∨ (a.ms = b.ms ∧ a.seq < b.seq)⟩
instance : LE StreamId := ⟨fun a b => ¬ b < a⟩

instance (a b : StreamId) : Decidable (a < b) :=
  inferInstanceAs (Decidable (a.ms < b.ms ∨ (a.ms = b.ms ∧ a.seq < b.seq)))

instance (a b : StreamId) : Decidable (a ≤ b) := inferInstanceAs (Decidable (¬ b < a))

instance : Ord StreamId := ⟨fun a b => compareOfLessAndEq a b⟩

/-- The identifier as text: both numbers with a dash between them. -/
def text (id : StreamId) : String := toString id.ms.toNat ++ "-" ++ toString id.seq.toNat

/-- The characters before the first dash and, if there is one, those after it. -/
def splitDash : List Char → List Char × Option (List Char)
  | [] => ([], none)
  | '-' :: cs => ([], some cs)
  | c :: cs => let (before, after) := splitDash cs; (c :: before, after)

/-- A word of 64 bits in text. -/
def word? (cs : List Char) : Option UInt64 :=
  (Text.Decimal.natural Text.Decimal.maxWord64 cs).toOption.map UInt64.ofNat

/-- Read an identifier: two numbers with a dash between them, or the millisecond
alone, which means its first entry. -/
def ofText? (s : String) : Option StreamId := do
  let (before, after) := splitDash s.toList
  let ms ← word? before
  let seq ← word? (after.getD ['0'])
  return ⟨ms, seq⟩

/-! ### Order -/

theorem lt_def {a b : StreamId} : a < b ↔ a.ms < b.ms ∨ (a.ms = b.ms ∧ a.seq < b.seq) := Iff.rfl

theorem lt_iff_position_lt {a b : StreamId} : a < b ↔ a.position < b.position := by
  have ha := a.seq.toNat_lt
  have hb := b.seq.toNat_lt
  rw [lt_def, UInt64.lt_iff_toNat_lt, UInt64.lt_iff_toNat_lt, ← UInt64.toNat_inj]
  simp only [position, UInt64.size]
  omega

theorem le_iff_position_le {a b : StreamId} : a ≤ b ↔ a.position ≤ b.position := by
  show ¬ b < a ↔ _
  rw [lt_iff_position_lt]
  omega

theorem position_injective {a b : StreamId} (h : a.position = b.position) : a = b := by
  have ha := a.seq.toNat_lt
  have hb := b.seq.toNat_lt
  simp only [position, UInt64.size] at h
  apply StreamId.ext <;> rw [← UInt64.toNat_inj] <;> omega

theorem position_zero : zero.position = 0 := rfl

/-- The immediate successor, whatever identifier but the last is asked. -/
theorem position_next {id : StreamId} (h : id ≠ last) : id.next.position = id.position + 1 := by
  have hm := id.ms.toNat_lt
  have hs := id.seq.toNat_lt
  have max : (-1 : UInt64).toNat = 2 ^ 64 - 1 := by decide
  unfold next
  split
  · rename_i hseq
    have hms : id.ms ≠ -1 := fun he => h (StreamId.ext he hseq)
    have hne : id.ms.toNat ≠ 2 ^ 64 - 1 := fun he => hms (by rw [← UInt64.toNat_inj, max, he])
    have hseq' : id.seq.toNat = 2 ^ 64 - 1 := by rw [hseq, max]
    simp only [position, UInt64.size, UInt64.toNat_add, UInt64.toNat_one, UInt64.toNat_zero, hseq']
    omega
  · rename_i hseq
    have hne : id.seq.toNat ≠ 2 ^ 64 - 1 := fun he => hseq (by rw [← UInt64.toNat_inj, max, he])
    simp only [position, UInt64.size, UInt64.toNat_add, UInt64.toNat_one]
    omega

instance : Ordered StreamId where
  decide_lt := inferInstance
  irrefl _ := by rw [lt_iff_position_lt]; omega
  trans := by intro a b c; simp only [lt_iff_position_lt]; omega
  connex a b := by
    simp only [lt_iff_position_lt]
    rcases Nat.lt_trichotomy a.position b.position with h | h | h
    · exact .inl h
    · exact .inr (.inl (position_injective h))
    · exact .inr (.inr h)

end StreamId

end StreamQueue
