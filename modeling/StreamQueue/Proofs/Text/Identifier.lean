import StreamQueue.Proofs.Log.Page
import StreamQueue.Proofs.Text.Decimal
import StreamQueue.Redis.Log

/-!
# Identifiers as text

An identifier is written as its two numbers with a dash between them. More is read than is written:
either number may have a plus sign and zeros in front, and the second may be missing, which means
zero. So an identifier has many spellings, of which the one that is written is the canonical one.

A numeral has no dash in it. Therefore it does not matter that a text is divided at its first dash: a
text with two of them has no spelling that divides it elsewhere.

## What is proved

* `StreamId.ofText?_eq_some_iff` — what is read, by the spellings.
* `StreamId.ofText?_text` — what is written is read back.
* `StreamId.text_denotes` — both, with what they mean for two spellings, and the order of identifiers.
-/

namespace StreamQueue.StreamId

open Text.Decimal

attribute [local instance] linearOrder

variable {id : StreamId} {cs before after : List Char} {s : String}

/-- The spellings of an identifier. -/
inductive Spells : List Char → StreamId → Prop
  /-- The first identifier of a millisecond, by the millisecond alone. -/
  | alone {cs : List Char} {id : StreamId} (ms : Numeral cs id.ms.toNat) (first : id.seq = 0) : Spells cs id
  /-- Both numbers, with a dash between them. -/
  | dashed {a b : List Char} {id : StreamId} (ms : Numeral a id.ms.toNat) (seq : Numeral b id.seq.toNat) :
    Spells (a ++ '-' :: b) id

/-! ### The first dash -/

theorem splitDash_of_notMem (noDash : '-' ∉ cs) : splitDash cs = (cs, none) := by
  induction cs with
  | nil => rfl
  | cons c cs ih =>
    obtain ⟨other, noDash⟩ := not_or.1 (List.mem_cons.not.1 noDash)
    rw [splitDash, ih noDash]
    exact fun same => other same.symm

theorem splitDash_append (noDash : '-' ∉ before) (after : List Char) :
    splitDash (before ++ '-' :: after) = (before, some after) := by
  induction before with
  | nil => rfl
  | cons c cs ih =>
    obtain ⟨other, noDash⟩ := not_or.1 (List.mem_cons.not.1 noDash)
    rw [List.cons_append, splitDash, ih noDash]
    exact fun same => other same.symm

/-- A text has no dash, or it has a first one. -/
theorem splitDash_cases (cs : List Char) :
    ('-' ∉ cs ∧ splitDash cs = (cs, none)) ∨
      ∃ before after, cs = before ++ '-' :: after ∧ splitDash cs = (before, some after) := by
  by_cases dash : '-' ∈ cs
  · obtain ⟨before, after, rfl, noDash⟩ := List.eq_append_cons_of_mem dash
    exact .inr ⟨before, after, rfl, splitDash_append noDash after⟩
  · exact .inl ⟨dash, splitDash_of_notMem dash⟩

theorem notMem_of_numeral {n : Nat} (numeral : Numeral cs n) : '-' ∉ cs := by
  intro dash
  rcases numeral.mem dash with plus | digit
  · exact absurd plus (by decide)
  · exact absurd digit (by decide)

/-! ### Reading -/

/-- A word is read off the numerals of its number. -/
theorem word?_eq_some_iff {w : UInt64} : word? cs = some w ↔ Numeral cs w.toNat := by
  have fits : w.toNat ≤ maxWord64 := Nat.le_sub_one_of_lt w.toNat_lt
  rw [word?, Option.map_eq_some_iff]
  constructor
  · rintro ⟨n, read, rfl⟩
    have accepted : natural maxWord64 cs = .ok n := by
      cases number : natural maxWord64 cs with
      | error fault => simp [number, Except.toOption] at read
      | ok m =>
        rw [number] at read
        rw [Option.some.inj read]
    obtain ⟨numeral, within⟩ := natural_eq_ok_iff.1 accepted
    have small : n < UInt64.size := Nat.lt_of_le_pred (by decide) within
    rw [UInt64.toNat_ofNat_of_lt' small]
    exact numeral
  · intro numeral
    refine ⟨w.toNat, ?_, UInt64.ofNat_toNat⟩
    rw [natural_eq_ok_iff.2 ⟨numeral, fits⟩]
    rfl

/-- What is read, by the parts of the text. -/
theorem ofText?_of_splitDash {after : Option (List Char)} (parts : splitDash s.toList = (before, after)) :
    ofText? s = some id ↔ word? before = some id.ms ∧ word? (after.getD ['0']) = some id.seq := by
  simp only [ofText?, parts, Option.bind_eq_bind, Option.bind_eq_some_iff, Option.pure_def, Option.some.injEq]
  constructor
  · rintro ⟨ms, first, seq, second, rfl⟩
    exact ⟨first, second⟩
  · rintro ⟨first, second⟩
    exact ⟨_, first, _, second, rfl⟩

/-- The first identifier of a millisecond is what is meant when there is no second number. -/
theorem word?_missing {w : UInt64} : word? ['0'] = some w ↔ w = 0 := by
  have zero : word? ['0'] = some 0 := by decide
  rw [zero, Option.some.injEq, eq_comm]

/-- **Reading**: a text names an identifier exactly if it is a spelling of it. -/
theorem ofText?_eq_some_iff : ofText? s = some id ↔ Spells s.toList id := by
  constructor
  · intro read
    rcases splitDash_cases s.toList with ⟨-, parts⟩ | ⟨before, after, text, parts⟩
    · obtain ⟨ms, seq⟩ := (ofText?_of_splitDash parts).1 read
      exact .alone (word?_eq_some_iff.1 ms) (word?_missing.1 seq)
    · obtain ⟨ms, seq⟩ := (ofText?_of_splitDash parts).1 read
      rw [text]
      exact .dashed (word?_eq_some_iff.1 ms) (word?_eq_some_iff.1 seq)
  · intro spelled
    generalize text : s.toList = cs at spelled
    cases spelled with
    | alone ms first =>
      have parts := splitDash_of_notMem (notMem_of_numeral ms)
      rw [← text] at parts
      exact (ofText?_of_splitDash parts).2 ⟨word?_eq_some_iff.2 (text ▸ ms), word?_missing.2 first⟩
    | @dashed a b _ ms seq =>
      have parts := splitDash_append (notMem_of_numeral ms) b
      rw [← text] at parts
      exact (ofText?_of_splitDash parts).2 ⟨word?_eq_some_iff.2 ms, word?_eq_some_iff.2 seq⟩

/-! ### Writing -/

theorem spells_text (id : StreamId) : Spells id.text.toList id := by
  have parts : id.text.toList = (toString id.ms.toNat).toList ++ '-' :: (toString id.seq.toNat).toList := by
    simp [text]
  rw [parts]
  exact .dashed (numeral_toString _) (numeral_toString _)

/-- **What is written is read back.** -/
theorem ofText?_text (id : StreamId) : ofText? id.text = some id := ofText?_eq_some_iff.2 (spells_text id)

/-- Two identifiers with the same text are one. -/
theorem text_injective {a b : StreamId} (same : a.text = b.text) : a = b := by
  have read := ofText?_text a
  rw [same, ofText?_text] at read
  exact (Option.some.inj read).symm

theorem readId_eq_ok_iff : Redis.readId s = .ok id ↔ ofText? s = some id := by
  rw [Redis.readId]
  cases ofText? s <;> simp

/-- A text that is no spelling is handed back with the refusal. -/
theorem readId_eq_error_iff {e : LogError} :
    Redis.readId s = .error e ↔ (∀ id, ¬ Spells s.toList id) ∧ e = .invalidId s := by
  simp only [← ofText?_eq_some_iff, ← Option.eq_none_iff_forall_ne_some, Redis.readId]
  cases ofText? s with
  | none => simp [eq_comm]
  | some id => simp

/-! ### Order -/

/-- The order compares the milliseconds first. -/
theorem lt_iff_lex {a b : StreamId} :
    a < b ↔ toLex (a.ms.toNat, a.seq.toNat) < toLex (b.ms.toNat, b.seq.toNat) := by
  rw [lt_def, Prod.Lex.toLex_lt_toLex, UInt64.lt_iff_toNat_lt, UInt64.lt_iff_toNat_lt, UInt64.toNat_inj]

theorem compare_eq (a b : StreamId) : compare a b = (compare a.ms b.ms).then (compare a.seq b.seq) := by
  have word (x y : UInt64) :
      compare x y = if x.toNat < y.toNat then .lt else if x = y then .eq else .gt := rfl
  have whole : compare a b = if a < b then .lt else if a = b then .eq else .gt := rfl
  rw [whole, word, word]
  simp only [lt_def, UInt64.lt_iff_toNat_lt, StreamId.ext_iff]
  rcases lt_trichotomy a.ms.toNat b.ms.toNat with earlier | same | later
  · simp [earlier]
  · simp [UInt64.toNat_inj.1 same]
  · have differ : a.ms ≠ b.ms := fun same => absurd later (by simp [same])
    simp [differ, not_lt_of_gt later]

theorem le_last (id : StreamId) : id ≤ last := by
  have ms := id.ms.toNat_lt
  have seq := id.seq.toNat_lt
  rw [le_iff_position_le, position_last, position, UInt64.size]
  omega

/-- **Identifiers and their texts.** A text is read as an identifier exactly if it is a spelling of
it, and is handed back with the refusal if it is a spelling of none. What is written of an identifier is
read back, so that two texts that are read are written alike exactly if they mean the same. Identifiers
are in the order of their two numbers, the milliseconds first, and each but the last is followed
immediately by the next. -/
theorem text_denotes :
    (∀ s id, ofText? s = some id ↔ Spells s.toList id) ∧
    (∀ s, (∃ id, Spells s.toList id ∧ Redis.readId s = .ok id) ∨
      ((∀ id, ¬ Spells s.toList id) ∧ Redis.readId s = .error (.invalidId s))) ∧
    (∀ id : StreamId, ofText? id.text = some id) ∧
    (∀ s s' id id', ofText? s = some id → ofText? s' = some id' →
      ofText? id.text = ofText? s ∧ (id.text = id'.text ↔ ofText? s = ofText? s')) ∧
    (∀ a b : StreamId, (a < b ↔ toLex (a.ms.toNat, a.seq.toNat) < toLex (b.ms.toNat, b.seq.toNat)) ∧
      compare a b = (compare a.ms b.ms).then (compare a.seq b.seq)) ∧
    (∀ id : StreamId, id ≤ last ∧ (id ≠ last → id < id.next ∧ ∀ later, id < later → id.next ≤ later)) := by
  refine ⟨fun s id => ofText?_eq_some_iff, ?refused, ofText?_text, ?canonical,
    fun a b => ⟨lt_iff_lex, compare_eq a b⟩, fun id => ⟨le_last id, fun h => ⟨lt_next h, ?successor⟩⟩⟩
  case refused =>
    intro s
    cases read : Redis.readId s with
    | ok id =>
      exact .inl ⟨id, ofText?_eq_some_iff.1 (readId_eq_ok_iff.1 read), rfl⟩
    | error e =>
      obtain ⟨spelled, rfl⟩ := readId_eq_error_iff.1 read
      exact .inr ⟨spelled, rfl⟩
  case canonical =>
    intro s s' id id' read read'
    rw [read, read', Option.some.injEq]
    exact ⟨ofText?_text id, text_injective, congrArg text⟩
  case successor =>
    intro later past
    exact (next_le_iff h).2 past

end StreamQueue.StreamId
