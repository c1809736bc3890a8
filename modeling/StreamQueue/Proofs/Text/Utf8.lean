import StreamQueue.Text.Utf8
import Mathlib

/-!
# Text through UTF-8

A character is written in one to four bytes. The first says how many follow, and for some first
bytes the range of the second is narrower: so no character is written in more bytes than it needs,
and none that would be half of a surrogate pair or past the last one. What is written stays within
these ranges, so the bytes of a text are read as the text.

## What is proved

* `readOne_encodeChar` — the bytes of a character are read as it, whatever follows.
* `decode?_encode` — the bytes of a text are read as the text.
-/

namespace StreamQueue.Text.Utf8

variable {bs : List UInt8} {n v : Nat}

/-- A byte of a number that fits. -/
theorem toNat_byte (fits : n < 256) : (UInt8.ofNat n).toNat = n := UInt8.toNat_ofNat_of_lt' fits

/-! ### The first byte -/

/-- A first byte of two holds five bits, and not only zeros in front of the last. -/
theorem first_of_two : ∀ k < 32, 2 ≤ k → ¬ UInt8.ofNat (k + 192) < 0x80 ∧
    shape? (UInt8.ofNat (k + 192)) = some (1, 0x80, 0xBF) ∧ leadBits (UInt8.ofNat (k + 192)) 1 = k := by
  decide

/-- A first byte of three holds four bits. Behind none of them set, the second byte sets its upper
bit, and behind thirteen it does not. -/
theorem first_of_three : ∀ k < 16, ¬ UInt8.ofNat (k + 224) < 0x80 ∧
    shape? (UInt8.ofNat (k + 224)) =
      some (2, UInt8.ofNat (if k = 0 then 0xA0 else 0x80), UInt8.ofNat (if k = 13 then 0x9F else 0xBF)) ∧
    leadBits (UInt8.ofNat (k + 224)) 2 = k := by
  decide

/-- A first byte of four holds three bits, up to four. -/
theorem first_of_four : ∀ k < 5, ¬ UInt8.ofNat (k + 240) < 0x80 ∧
    shape? (UInt8.ofNat (k + 240)) =
      some (3, UInt8.ofNat (if k = 0 then 0x90 else 0x80), UInt8.ofNat (if k = 4 then 0x8F else 0xBF)) ∧
    leadBits (UInt8.ofNat (k + 240)) 3 = k := by
  decide

/-! ### What follows it -/

/-- A byte that follows holds six bits, and is read if it is in the range. -/
theorem readTails_byte (low high k tails n : Nat) (small : high < 256) (above : low ≤ k % 64 + 128)
    (below : k % 64 + 128 ≤ high) (bs : List UInt8) :
    readTails (tails + 1) (UInt8.ofNat low) (UInt8.ofNat high) n (UInt8.ofNat (k % 64 + 128) :: bs) =
      readTails tails 0x80 0xBF (n * 64 + k % 64) bs := by
  have byte : (UInt8.ofNat (k % 64 + 128)).toNat = k % 64 + 128 := toNat_byte (by omega)
  have lower : (UInt8.ofNat low).toNat = low := toNat_byte (by omega)
  have upper : (UInt8.ofNat high).toNat = high := toNat_byte (by omega)
  have within : (UInt8.ofNat low ≤ UInt8.ofNat (k % 64 + 128) &&
      UInt8.ofNat (k % 64 + 128) ≤ UInt8.ofNat high) = true := by
    simp only [Bool.and_eq_true, decide_eq_true_eq, UInt8.le_iff_toNat_le, byte, lower, upper]
    exact ⟨above, below⟩
  rw [readTails, if_pos within, byte]
  congr 1
  omega

/-- A byte of which nothing is asked but that it follows. -/
theorem readTails_last (k tails n : Nat) (bs : List UInt8) :
    readTails (tails + 1) 0x80 0xBF n (UInt8.ofNat (k % 64 + 128) :: bs) =
      readTails tails 0x80 0xBF (n * 64 + k % 64) bs :=
  readTails_byte 0x80 0xBF k tails n (by omega) (by omega) (by omega) bs

/-! ### Characters and texts -/

theorem readOne_one (small : v ≤ 127) (bs : List UInt8) :
    readOne (UInt8.ofNat v) bs = (some (Char.ofNat v), bs) := by
  have byte : (UInt8.ofNat v).toNat = v := toNat_byte (by omega)
  have short : UInt8.ofNat v < 0x80 := by
    rw [UInt8.lt_iff_toNat_lt, byte]
    exact Nat.lt_succ_of_le small
  rw [readOne, if_pos short, byte]

theorem readOne_two (above : 127 < v) (below : v ≤ 2047) (bs : List UInt8) :
    readOne (UInt8.ofNat (v / 64 % 32 + 192)) (UInt8.ofNat (v % 64 + 128) :: bs) = (some (Char.ofNat v), bs) := by
  obtain ⟨long, shape, bits⟩ := first_of_two (v / 64 % 32) (by omega) (by omega)
  have whole : v / 64 % 32 * 64 + v % 64 = v := by omega
  rw [readOne, if_neg long, shape]
  simp only [bits]
  rw [readTails_last v 0, readTails, whole]

/-- Of the characters that take three bytes those that would be half of a pair are left out. -/
theorem readOne_three (above : 2047 < v) (below : v ≤ 65535) (paired : v < 0xD800 ∨ 0xDFFF < v) (bs : List UInt8) :
    readOne (UInt8.ofNat (v / 4096 % 16 + 224)) (UInt8.ofNat (v / 64 % 64 + 128) :: UInt8.ofNat (v % 64 + 128) :: bs) =
      (some (Char.ofNat v), bs) := by
  obtain ⟨long, shape, bits⟩ := first_of_three (v / 4096 % 16) (by omega)
  have whole : (v / 4096 % 16 * 64 + v / 64 % 64) * 64 + v % 64 = v := by omega
  rw [readOne, if_neg long, shape]
  simp only [bits]
  rw [readTails_byte _ _ (v / 64) 1 _ (by split <;> omega) (by split <;> omega) (by split <;> omega),
    readTails_last v 0, readTails, whole]

theorem readOne_four (above : 65535 < v) (below : v ≤ 0x10FFFF) (bs : List UInt8) :
    readOne (UInt8.ofNat (v / 262144 % 8 + 240)) (UInt8.ofNat (v / 4096 % 64 + 128) ::
      UInt8.ofNat (v / 64 % 64 + 128) :: UInt8.ofNat (v % 64 + 128) :: bs) = (some (Char.ofNat v), bs) := by
  obtain ⟨long, shape, bits⟩ := first_of_four (v / 262144 % 8) (by omega)
  have whole : ((v / 262144 % 8 * 64 + v / 4096 % 64) * 64 + v / 64 % 64) * 64 + v % 64 = v := by omega
  rw [readOne, if_neg long, shape]
  simp only [bits]
  rw [readTails_byte _ _ (v / 4096) 2 _ (by split <;> omega) (by split <;> omega) (by split <;> omega),
    readTails_last (v / 64) 1, readTails_last v 0, readTails, whole]

/-- **A character is read from its bytes**, whatever follows them. -/
theorem readOne_encodeChar (c : Char) (bs : List UInt8) :
    ∃ b more, String.utf8EncodeChar c = b :: more ∧ readOne b (more ++ bs) = (some c, bs) := by
  have valid := c.valid
  have same : Char.ofNat c.val.toNat = c := Char.ofNat_toNat c
  rw [UInt32.isValidChar, Nat.isValidChar] at valid
  unfold String.utf8EncodeChar
  simp only
  split_ifs with one two three
  · exact ⟨_, _, rfl, by rw [List.nil_append, readOne_one one, same]⟩
  · exact ⟨_, _, rfl, by simp only [List.cons_append, List.nil_append, readOne_two (by omega) two, same]⟩
  · refine ⟨_, _, rfl, ?_⟩
    simp only [List.cons_append, List.nil_append]
    rw [readOne_three (by omega) three (by omega), same]
  · refine ⟨_, _, rfl, ?_⟩
    simp only [List.cons_append, List.nil_append]
    rw [readOne_four (by omega) (by omega), same]

theorem encode_eq (s : String) : encode s = s.toList.flatMap String.utf8EncodeChar := by
  have bytes : s.toUTF8 = s.toList.utf8Encode := by
    conv_lhs => rw [← String.ofList_toList (s := s)]
    exact String.toByteArray_ofList
  rw [encode, bytes, List.utf8Encode]
  simp

theorem decodeParts_flatMap (cs : List Char) : decodeParts (cs.flatMap String.utf8EncodeChar) = cs.map some := by
  induction cs with
  | nil => simp [decodeParts]
  | cons c cs ih =>
    obtain ⟨b, more, bytes, read⟩ := readOne_encodeChar c (cs.flatMap String.utf8EncodeChar)
    rw [List.flatMap_cons, bytes, List.cons_append, decodeParts, read, ih, List.map_cons]

/-- **A text is read from its bytes.** -/
theorem decode?_encode (s : String) : decode? (encode s) = some s := by
  have all (cs : List Char) : (cs.map some).mapM id = some cs := by
    induction cs with
    | nil => rfl
    | cons c cs ih =>
      rw [List.map_cons, List.mapM_cons, ih]
      rfl
  rw [decode?, encode_eq, decodeParts_flatMap, all, Option.map_some, String.ofList_toList]

end StreamQueue.Text.Utf8
