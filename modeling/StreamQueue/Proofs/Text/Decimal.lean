import StreamQueue.Text.Blank
import StreamQueue.Text.Decimal
import Mathlib

/-!
# Which texts are numbers

A number in text is read digit by digit, and every digit is a chance to fail: it may be no digit, or
lead past the greatest number allowed. Here is said beforehand which texts are numerals and which
number each denotes. The reader then accepts the numerals of the numbers that are allowed, and no
other text. Zeros in front do not count, so a numeral may be of any length.

A number that comes from a person may have blanks around it. What is left of a text without them is
told by what was there: it begins and ends with a character that is not blank, if it has any.

## What is proved

* `natural_eq_ok_iff`, `integer_eq_ok_iff` — what is read, as numerals with a greatest number.
* `trim_eq_iff` — what is left of a text without the blanks around it.
* `numeral_toString` — a number is printed as a numeral that denotes it.
-/

namespace StreamQueue.Text.Decimal

variable {limit n m : Nat} {cs ds : List Char}

/-- A numeral and the number that it denotes: one or more digits, perhaps behind a plus sign. -/
inductive Numeral : List Char → Nat → Prop
  /-- The digits alone. -/
  | plain {ds : List Char} (nonempty : ds ≠ []) (digits : ∀ d ∈ ds, d.isDigit) :
    Numeral ds (Nat.ofDigitChars 10 ds 0)
  /-- The digits behind a sign. -/
  | signed {ds : List Char} (nonempty : ds ≠ []) (digits : ∀ d ∈ ds, d.isDigit) :
    Numeral ('+' :: ds) (Nat.ofDigitChars 10 ds 0)

/-- A numeral denotes one number. -/
theorem Numeral.unique (one : Numeral cs n) (other : Numeral cs m) : n = m := by
  cases one with
  | plain nonempty digits =>
    cases other with
    | plain => rfl
    | signed => exact absurd (digits '+' List.mem_cons_self) (by decide)
  | signed nonempty digits =>
    cases other with
    | plain _ others => exact absurd (others '+' List.mem_cons_self) (by decide)
    | signed => rfl

/-- All characters of a numeral are digits, but for the sign. -/
theorem Numeral.mem (numeral : Numeral cs n) {c : Char} (mem : c ∈ cs) : c = '+' ∨ c.isDigit := by
  cases numeral with
  | plain nonempty digits => exact .inr (digits c mem)
  | signed nonempty digits => exact (List.mem_cons.1 mem).imp id (digits c)

/-- What digits say is the number that they denote. -/
theorem value_eq (digits : ∀ d ∈ ds, d.isDigit) (n : Nat) : value n ds = Nat.ofDigitChars 10 ds n := by
  induction ds generalizing n with
  | nil => rfl
  | cons d ds ih =>
    have digit : digit? d = some (d.toNat - '0'.toNat) := by simp [digit?, digits d List.mem_cons_self]
    rw [value, digit, Option.getD_some, Nat.ofDigitChars_cons, Nat.mul_comm]
    exact ih (fun e he => digits e (List.mem_cons_of_mem d he)) _

theorem magnitude_eq_ok_iff {beyond : Fault} :
    magnitude limit beyond ds = .ok n ↔
      ds ≠ [] ∧ (∀ d ∈ ds, d.isDigit) ∧ Nat.ofDigitChars 10 ds 0 = n ∧ n ≤ limit := by
  cases ds with
  | nil => simp [magnitude]
  | cons d ds =>
    rw [magnitude, readDigits_eq_ok_iff (Nat.zero_le limit)]
    · constructor
      · rintro ⟨digits, denotes, within⟩
        exact ⟨List.cons_ne_nil d ds, digits, value_eq digits 0 ▸ denotes, within⟩
      · rintro ⟨-, digits, denotes, within⟩
        exact ⟨digits, (value_eq digits 0).trans denotes, within⟩
    · exact List.cons_ne_nil d ds

/-- **Reading**: a text is a number exactly if it is the numeral of one that is allowed. -/
theorem natural_eq_ok_iff : natural limit cs = .ok n ↔ Numeral cs n ∧ n ≤ limit := by
  unfold natural
  split
  case h_1 =>
    constructor
    · intro read
      cases read
    · rintro ⟨numeral, -⟩
      cases numeral with
      | plain nonempty => exact absurd rfl nonempty
  case h_2 ds =>
    rw [magnitude_eq_ok_iff]
    constructor
    · rintro ⟨nonempty, digits, rfl, within⟩
      exact ⟨.signed nonempty digits, within⟩
    · rintro ⟨numeral, within⟩
      cases numeral with
      | plain nonempty digits => exact absurd (digits '+' List.mem_cons_self) (by decide)
      | signed nonempty digits => exact ⟨nonempty, digits, rfl, within⟩
  case h_3 ds empty sign =>
    rw [magnitude_eq_ok_iff]
    constructor
    · rintro ⟨nonempty, digits, rfl, within⟩
      exact ⟨.plain nonempty digits, within⟩
    · rintro ⟨numeral, within⟩
      cases numeral with
      | plain nonempty digits => exact ⟨nonempty, digits, rfl, within⟩
      | signed => exact absurd rfl (sign _)

theorem word64?_eq_some_iff {s : String} :
    word64? s = some n ↔ Numeral s.toList n ∧ n < UInt64.size := by
  have below : n ≤ maxWord64 ↔ n < UInt64.size := by
    simp only [maxWord64, UInt64.size]
    omega
  rw [word64?, ← below, ← natural_eq_ok_iff]
  cases natural maxWord64 s.toList <;> simp [Except.toOption]

/-- A numeral that may be behind a minus sign, and the number that it denotes. -/
inductive Signed : List Char → Int → Prop
  | positive {cs : List Char} {n : Nat} (numeral : Numeral cs n) : Signed cs n
  | negative {ds : List Char} (nonempty : ds ≠ []) (digits : ∀ d ∈ ds, d.isDigit) :
    Signed ('-' :: ds) (-(Nat.ofDigitChars 10 ds 0 : Nat))

/-- A minus sign is no part of a numeral. -/
theorem not_numeral_minus : ¬ Numeral ('-' :: ds) n := by
  intro numeral
  rcases numeral.mem List.mem_cons_self with plus | digit
  · exact absurd plus (by decide)
  · exact absurd digit (by decide)

/-- Such a numeral denotes one number. -/
theorem Signed.unique {a b : Int} (one : Signed cs a) (other : Signed cs b) : a = b := by
  cases one with
  | positive numeral =>
    cases other with
    | positive numeral' => exact congrArg Int.ofNat (numeral.unique numeral')
    | negative => exact absurd numeral not_numeral_minus
  | negative =>
    cases other with
    | positive numeral => exact absurd numeral not_numeral_minus
    | negative => rfl

/-- Without a minus sign in front a number is read as one that has no sign. -/
theorem integer_of_not_minus (sign : ∀ ds, cs ≠ '-' :: ds) : integer limit cs = (natural limit cs).map Int.ofNat := by
  unfold integer natural
  split
  case h_1 => rfl
  case h_2 ds => exact absurd rfl (sign ds)
  case h_3 ds => rfl
  case h_4 ds empty minus plus =>
    split
    · exact absurd rfl empty
    · exact absurd rfl (plus _)
    · rfl

/-- **Reading with a sign**: a text is a number exactly if it is the numeral of one that is allowed. -/
theorem integer_eq_ok_iff {a : Int} :
    integer limit cs = .ok a ↔ Signed cs a ∧ -(limit + 1 : Int) ≤ a ∧ a ≤ limit := by
  by_cases sign : ∃ ds, cs = '-' :: ds
  · obtain ⟨ds, rfl⟩ := sign
    have read : integer limit ('-' :: ds) = .ok a ↔
        ∃ n : Nat, magnitude (limit + 1) .tooSmall ds = .ok n ∧ -(n : Int) = a := by
      rw [integer]
      cases magnitude (limit + 1) .tooSmall ds <;> simp [Except.map]
    rw [read]
    constructor
    · rintro ⟨n, found, rfl⟩
      obtain ⟨nonempty, digits, rfl, within⟩ := magnitude_eq_ok_iff.1 found
      exact ⟨.negative nonempty digits, by omega, by omega⟩
    · rintro ⟨signed, within, -⟩
      cases signed with
      | positive numeral => exact absurd numeral not_numeral_minus
      | negative nonempty digits => exact ⟨_, magnitude_eq_ok_iff.2 ⟨nonempty, digits, rfl, by omega⟩, rfl⟩
  · rw [integer_of_not_minus fun ds minus => sign ⟨ds, minus⟩]
    have read : (natural limit cs).map Int.ofNat = .ok a ↔ ∃ n : Nat, natural limit cs = .ok n ∧ (n : Int) = a := by
      cases natural limit cs <;> simp [Except.map]
    rw [read]
    constructor
    · rintro ⟨n, found, rfl⟩
      obtain ⟨numeral, within⟩ := natural_eq_ok_iff.1 found
      exact ⟨.positive numeral, by omega, by omega⟩
    · rintro ⟨signed, -, within⟩
      cases signed with
      | positive numeral => exact ⟨_, natural_eq_ok_iff.2 ⟨numeral, by omega⟩, rfl⟩
      | negative => exact absurd ⟨_, rfl⟩ sign

theorem int64?_eq_some_iff {s : String} {a : Int} :
    int64? s = some a ↔ Signed s.toList a ∧ -2 ^ 63 ≤ a ∧ a < 2 ^ 63 := by
  have least : -2 ^ 63 ≤ a ↔ -(maxInt64 + 1 : Int) ≤ a := by simp [maxInt64]
  have greatest : a < 2 ^ 63 ↔ a ≤ maxInt64 := by simp [maxInt64]; omega
  rw [int64?, least, greatest, ← integer_eq_ok_iff]
  cases integer maxInt64 s.toList <;> simp [Except.toOption]

/-- A number is printed as a numeral. -/
theorem numeral_toString (n : Nat) : Numeral (toString n).toList n := by
  have printed : (toString n).toList = Nat.toDigits 10 n := Nat.toList_repr
  have numeral : Numeral (Nat.toDigits 10 n) (Nat.ofDigitChars 10 (Nat.toDigits 10 n) 0) :=
    .plain Nat.toDigits_ne_nil fun d hd => Nat.isDigit_of_mem_toDigits (by decide) (by decide) hd
  rw [Nat.ofDigitChars_ten_toDigits] at numeral
  rw [printed]
  exact numeral

end StreamQueue.Text.Decimal

namespace StreamQueue.Text

/-! ### Blanks around a text -/

/-- What is left of a text without the blanks at either end. -/
structure Trimmed (s t : String) : Prop where
  around : ∃ before behind, s.toList = before ++ (t.toList ++ behind) ∧
    (∀ b ∈ before, isBlank b) ∧ ∀ b ∈ behind, isBlank b
  first : ∀ c ∈ t.toList.head?, isBlank c = false
  last : ∀ c ∈ t.toList.getLast?, isBlank c = false

/-- Blanks in front are left out up to a character that is not blank. -/
theorem dropWhile_isBlank {before cs : List Char} (blank : ∀ b ∈ before, isBlank b)
    (first : ∀ c ∈ cs.head?, isBlank c = false) : (before ++ cs).dropWhile isBlank = cs := by
  rw [List.dropWhile_append_of_pos blank]
  cases cs with
  | nil => rfl
  | cons c cs => exact List.dropWhile_cons_of_neg (by simp [first c rfl])

theorem isBlank_head_dropWhile (cs : List Char) : ∀ c ∈ (cs.dropWhile isBlank).head?, isBlank c = false := by
  intro c hc
  have first := List.head?_dropWhile_not isBlank cs
  rwa [Option.mem_def.1 hc] at first

/-- Blanks at the end are left out behind the last character that is not blank. -/
theorem dropWhile_eq_trimChars_append (cs : List Char) :
    ∃ behind, cs.dropWhile isBlank = trimChars cs ++ behind ∧ ∀ b ∈ behind, isBlank b := by
  refine ⟨((cs.dropWhile isBlank).reverse.takeWhile isBlank).reverse, ?_,
    fun b hb => List.mem_takeWhile_imp (List.mem_reverse.1 hb)⟩
  rw [trimChars, ← List.reverse_append, List.takeWhile_append_dropWhile, List.reverse_reverse]

/-- **What is left of a text** without the blanks around it. -/
theorem trim_eq_iff {s t : String} : trim s = t ↔ Trimmed s t := by
  constructor
  · rintro rfl
    have left : (trim s).toList = trimChars s.toList := String.toList_ofList
    obtain ⟨behind, is, blank⟩ := dropWhile_eq_trimChars_append s.toList
    constructor
    case around =>
      refine ⟨s.toList.takeWhile isBlank, behind, ?_, fun b hb => List.mem_takeWhile_imp hb, blank⟩
      rw [left, ← is, List.takeWhile_append_dropWhile]
    case first =>
      intro c hc
      refine isBlank_head_dropWhile s.toList c ?_
      rw [left, Option.mem_def] at hc
      rw [is, List.head?_append, hc]
      rfl
    case last =>
      rw [left, trimChars, List.getLast?_reverse]
      exact isBlank_head_dropWhile _
  · rintro ⟨⟨before, behind, is, blank, blank'⟩, first, last⟩
    have left : trimChars s.toList = t.toList := by
      rw [is, trimChars]
      cases h : t.toList with
      | nil =>
        have all : (before ++ ([] ++ behind)).dropWhile isBlank = [] :=
          List.dropWhile_eq_nil_iff.2 (List.forall_mem_append.2 ⟨blank, blank'⟩)
        rw [all]
        rfl
      | cons c cs =>
        rw [h] at first last
        have front : (before ++ (c :: cs ++ behind)).dropWhile isBlank = c :: cs ++ behind :=
          dropWhile_isBlank blank first
        rw [front, List.reverse_append, dropWhile_isBlank, List.reverse_reverse]
        · exact fun b hb => blank' b (List.mem_reverse.1 hb)
        · rwa [List.head?_reverse]
    rw [trim, left, String.ofList_toList]

/-- What is so of a text without its blanks is so of what is left of it. -/
theorem exists_trimmed_iff {s : String} {P : String → Prop} : (∃ t, Trimmed s t ∧ P t) ↔ P (trim s) := by
  constructor
  · rintro ⟨t, trimmed, is⟩
    rwa [trim_eq_iff.2 trimmed]
  · exact fun is => ⟨trim s, trim_eq_iff.1 rfl, is⟩

end StreamQueue.Text
