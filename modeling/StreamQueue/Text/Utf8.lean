/-!
# UTF-8

Reading characters from bytes. A sequence that no character has is skipped as far
as it could still have begun one, and counts as one fault.

`decode?` accepts only text without a fault; `decodeLossy` writes a replacement
character for each.
-/

namespace StreamQueue.Text.Utf8

/-- The bytes of a text. -/
def encode (s : String) : List UInt8 := s.toUTF8.data.toList

/-- How many bytes follow a first byte, and the range of the first of them. -/
def shape? (b : UInt8) : Option (Nat × UInt8 × UInt8) :=
  if 0xC2 ≤ b && b ≤ 0xDF then some (1, 0x80, 0xBF)
  else if b == 0xE0 then some (2, 0xA0, 0xBF)
  else if b == 0xED then some (2, 0x80, 0x9F)
  else if 0xE1 ≤ b && b ≤ 0xEF then some (2, 0x80, 0xBF)
  else if b == 0xF0 then some (3, 0x90, 0xBF)
  else if 0xF1 ≤ b && b ≤ 0xF3 then some (3, 0x80, 0xBF)
  else if b == 0xF4 then some (3, 0x80, 0x8F)
  else none

/-- The bits that a first byte of a longer sequence contributes. -/
def leadBits (b : UInt8) (tails : Nat) : Nat := b.toNat % Nat.pow 2 (6 - tails)

/-- Read `tails` more bytes after the value `n`; the first must lie in a range. -/
def readTails : (tails : Nat) → (low high : UInt8) → (n : Nat) → List UInt8 →
    Option Char × List UInt8
  | 0, _, _, n, bs => (some (Char.ofNat n), bs)
  | _ + 1, _, _, _, [] => (none, [])
  | tails + 1, low, high, n, b :: bs =>
    if low ≤ b && b ≤ high then readTails tails 0x80 0xBF (n * 64 + b.toNat % 64) bs
    else (none, b :: bs)

theorem length_readTails (tails : Nat) (low high : UInt8) (n : Nat) (bs : List UInt8) :
    (readTails tails low high n bs).2.length ≤ bs.length := by
  induction tails generalizing low high n bs with
  | zero => simp [readTails]
  | succ tails ih =>
    cases bs with
    | nil => simp [readTails]
    | cons b bs =>
      simp only [readTails]
      split
      · exact Nat.le_succ_of_le (ih _ _ _ _)
      · simp

/-- Read one character, or skip one fault. -/
def readOne (b : UInt8) (bs : List UInt8) : Option Char × List UInt8 :=
  if b < 0x80 then (some (Char.ofNat b.toNat), bs)
  else match shape? b with
    | some (tails, low, high) => readTails tails low high (leadBits b tails) bs
    | none => (none, bs)

theorem length_readOne (b : UInt8) (bs : List UInt8) : (readOne b bs).2.length ≤ bs.length := by
  unfold readOne
  split
  · simp
  · split
    · exact length_readTails _ _ _ _ _
    · simp

/-- The characters of bytes, with a gap for each fault. -/
def decodeParts : List UInt8 → List (Option Char)
  | [] => []
  | b :: bs => (readOne b bs).1 :: decodeParts (readOne b bs).2
termination_by bs => bs.length
decreasing_by exact Nat.lt_succ_of_le (length_readOne b bs)

/-- The text of bytes that have no fault. -/
def decode? (bytes : List UInt8) : Option String :=
  ((decodeParts bytes).mapM id).map String.ofList

/-- The text of bytes, with a replacement character for each fault. -/
def decodeLossy (bytes : List UInt8) : String :=
  String.ofList ((decodeParts bytes).map fun c => c.getD '\uFFFD')

end StreamQueue.Text.Utf8
