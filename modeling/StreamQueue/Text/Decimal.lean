/-!
# Decimal numbers in text

The one way in which numbers are read from text: an optional sign, then one or
more ASCII digits, leading zeros allowed, with a greatest value. Nothing else is
accepted, blanks in particular, and the first character that spoils the number
decides which fault is reported.

## What is defined

* `natural` and `integer` read a number below a limit or say what is wrong.
* `word64?` and `int64?` are the two widths in which settings and identifiers
  are kept.
* `Fault.message` is the wording of a fault for the person who typed the number.
-/

namespace StreamQueue.Text.Decimal

/-- What can be wrong with a number in text. -/
inductive Fault
  /-- There is no character at all. -/
  | empty
  /-- A character is not a digit, or there is only a sign. -/
  | invalidDigit
  /-- The number is above the greatest allowed. -/
  | tooLarge
  /-- The number is below the least allowed. -/
  | tooSmall
  deriving DecidableEq, Repr

/-- The wording of a fault. -/
def Fault.message : Fault → String
  | empty => "cannot parse integer from empty string"
  | invalidDigit => "invalid digit found in string"
  | tooLarge => "number too large to fit in target type"
  | tooSmall => "number too small to fit in target type"

/-- The value of an ASCII digit. -/
def digit? (c : Char) : Option Nat :=
  if c.isDigit then some (c.toNat - '0'.toNat) else none

/-- Read digits after a number `n` already read. The number may not exceed
`limit`; `beyond` is the fault when it does. -/
def readDigits (limit : Nat) (beyond : Fault) (n : Nat) : List Char → Except Fault Nat
  | [] => .ok n
  | c :: cs =>
    match digit? c with
    | none => .error .invalidDigit
    | some d => if n * 10 + d ≤ limit then readDigits limit beyond (n * 10 + d) cs else .error beyond

/-- Read one or more digits. -/
def magnitude (limit : Nat) (beyond : Fault) : List Char → Except Fault Nat
  | [] => .error .invalidDigit
  | cs => readDigits limit beyond 0 cs

/-- A number from `0` to `limit`: an optional `+`, then digits. -/
def natural (limit : Nat) (cs : List Char) : Except Fault Nat :=
  match cs with
  | [] => .error .empty
  | '+' :: ds => magnitude limit .tooLarge ds
  | ds => magnitude limit .tooLarge ds

/-- A number from `-limit - 1` to `limit`: an optional sign, then digits. -/
def integer (limit : Nat) (cs : List Char) : Except Fault Int :=
  match cs with
  | [] => .error .empty
  | '-' :: ds => (magnitude (limit + 1) .tooSmall ds).map fun n => -(n : Int)
  | '+' :: ds => (magnitude limit .tooLarge ds).map Int.ofNat
  | ds => (magnitude limit .tooLarge ds).map Int.ofNat

/-- The greatest number of 64 bits. -/
def maxWord64 : Nat := UInt64.size - 1

/-- The greatest signed number of 64 bits. -/
def maxInt64 : Nat := Nat.pow 2 63 - 1

/-- A number of 64 bits. -/
def word64? (s : String) : Option Nat := (natural maxWord64 s.toList).toOption

/-- A signed number of 64 bits. -/
def int64? (s : String) : Option Int := (integer maxInt64 s.toList).toOption

/-- What digits say, most significant first, after a number `n`. -/
def value (n : Nat) : List Char → Nat
  | [] => n
  | c :: cs => value (n * 10 + (digit? c).getD 0) cs

theorem le_value (n : Nat) (cs : List Char) : n ≤ value n cs := by
  induction cs generalizing n with
  | nil => simp [value]
  | cons c cs ih => exact Nat.le_trans (by omega) (ih _)

/-- Digits are read exactly when all are digits and the number is within the limit. -/
theorem readDigits_eq_ok_iff {limit n m : Nat} {beyond : Fault} {cs : List Char} (hn : n ≤ limit) :
    readDigits limit beyond n cs = .ok m ↔
      (∀ c ∈ cs, c.isDigit = true) ∧ value n cs = m ∧ m ≤ limit := by
  induction cs generalizing n with
  | nil => simp only [readDigits, value]; constructor
           · intro h; cases h; simp [hn]
           · rintro ⟨-, rfl, -⟩; rfl
  | cons c cs ih =>
    by_cases hc : c.isDigit = true
    · have hd : digit? c = some (c.toNat - '0'.toNat) := by simp [digit?, hc]
      simp only [readDigits, hd, value, Option.getD_some]
      split
      · rename_i hle
        rw [ih hle]
        simp [hc]
      · rename_i hgt
        constructor
        · intro h; cases h
        · rintro ⟨-, rfl, hm⟩
          exact absurd (Nat.le_trans (le_value _ cs) hm) hgt
    · have hd : digit? c = none := by simp [digit?, hc]
      simp only [readDigits, hd]
      constructor
      · intro h; cases h
      · rintro ⟨h, -⟩
        exact absurd (h c (by simp)) hc

end StreamQueue.Text.Decimal
