/-!
# SHA-256

The digest of a message of bytes. `sha256` reads the message as a whole: it is
padded to a multiple of sixty-four bytes and folded block by block. `Hasher` reads
it byte by byte and keeps only the last incomplete block, so a payload need never
be held in memory.

## What is proved

* `Hasher.digest_absorb` — both ways of reading give the same digest.
* `Hasher.absorb_append` — it does not matter into which pieces a message is cut.
-/

namespace StreamQueue.Digest

/-- The eight words that are carried from block to block. -/
structure Chain where
  a : UInt32
  b : UInt32
  c : UInt32
  d : UInt32
  e : UInt32
  f : UInt32
  g : UInt32
  h : UInt32
  deriving DecidableEq, Repr, Inhabited

namespace Chain

/-- The words before the first block: the fractions of the square roots of the
first eight primes. -/
def initial : Chain :=
  ⟨0x6a09e667, 0xbb67ae85, 0x3c6ef372, 0xa54ff53a, 0x510e527f, 0x9b05688c, 0x1f83d9ab, 0x5be0cd19⟩

/-- The words one by one. -/
def words (s : Chain) : List UInt32 := [s.a, s.b, s.c, s.d, s.e, s.f, s.g, s.h]

/-- The sums of corresponding words. -/
def add (s t : Chain) : Chain :=
  ⟨s.a + t.a, s.b + t.b, s.c + t.c, s.d + t.d, s.e + t.e, s.f + t.f, s.g + t.g, s.h + t.h⟩

end Chain

/-- The round constants: the fractions of the cube roots of the first sixty-four primes. -/
def roundConstants : List UInt32 := [
  0x428a2f98, 0x71374491, 0xb5c0fbcf, 0xe9b5dba5, 0x3956c25b, 0x59f111f1, 0x923f82a4, 0xab1c5ed5,
  0xd807aa98, 0x12835b01, 0x243185be, 0x550c7dc3, 0x72be5d74, 0x80deb1fe, 0x9bdc06a7, 0xc19bf174,
  0xe49b69c1, 0xefbe4786, 0x0fc19dc6, 0x240ca1cc, 0x2de92c6f, 0x4a7484aa, 0x5cb0a9dc, 0x76f988da,
  0x983e5152, 0xa831c66d, 0xb00327c8, 0xbf597fc7, 0xc6e00bf3, 0xd5a79147, 0x06ca6351, 0x14292967,
  0x27b70a85, 0x2e1b2138, 0x4d2c6dfc, 0x53380d13, 0x650a7354, 0x766a0abb, 0x81c2c92e, 0x92722c85,
  0xa2bfe8a1, 0xa81a664b, 0xc24b8b70, 0xc76c51a3, 0xd192e819, 0xd6990624, 0xf40e3585, 0x106aa070,
  0x19a4c116, 0x1e376c08, 0x2748774c, 0x34b0bcb5, 0x391c0cb3, 0x4ed8aa4a, 0x5b9cca4f, 0x682e6ff3,
  0x748f82ee, 0x78a5636f, 0x84c87814, 0x8cc70208, 0x90befffa, 0xa4506ceb, 0xbef9a3f7, 0xc67178f2]

def rotateRight (x n : UInt32) : UInt32 := (x >>> n) ||| (x <<< (32 - n))

def bigSigma0 (x : UInt32) : UInt32 := rotateRight x 2 ^^^ rotateRight x 13 ^^^ rotateRight x 22
def bigSigma1 (x : UInt32) : UInt32 := rotateRight x 6 ^^^ rotateRight x 11 ^^^ rotateRight x 25
def smallSigma0 (x : UInt32) : UInt32 := rotateRight x 7 ^^^ rotateRight x 18 ^^^ (x >>> 3)
def smallSigma1 (x : UInt32) : UInt32 := rotateRight x 17 ^^^ rotateRight x 19 ^^^ (x >>> 10)
def choose (x y z : UInt32) : UInt32 := (x &&& y) ^^^ (~~~x &&& z)
def majority (x y z : UInt32) : UInt32 := (x &&& y) ^^^ (x &&& z) ^^^ (y &&& z)

/-- One round, with its constant and its word of the schedule. -/
def round (s : Chain) (k w : UInt32) : Chain :=
  let t1 := s.h + bigSigma1 s.e + choose s.e s.f s.g + k + w
  let t2 := bigSigma0 s.a + majority s.a s.b s.c
  ⟨t1 + t2, s.a, s.b, s.c, s.d + t1, s.e, s.f, s.g⟩

/-- Bytes as words, four to a word, the most significant byte first. -/
def wordsOfBytes : List UInt8 → List UInt32
  | a :: b :: c :: d :: rest =>
    ((a.toUInt32 <<< 24) ||| (b.toUInt32 <<< 16) ||| (c.toUInt32 <<< 8) ||| d.toUInt32) ::
      wordsOfBytes rest
  | _ => []

/-- A word as four bytes, the most significant first. -/
def bytesOfWord (w : UInt32) : List UInt8 :=
  [(w >>> 24).toUInt8, (w >>> 16).toUInt8, (w >>> 8).toUInt8, w.toUInt8]

/-- The words of the rounds: those of the block, then forty-eight that mix them. -/
def schedule (block : List UInt8) : Array UInt32 :=
  (List.range 48).foldl
    (fun w t =>
      w.push (smallSigma1 (w.getD (t + 14) 0) + w.getD (t + 9) 0 +
        smallSigma0 (w.getD (t + 1) 0) + w.getD t 0))
    (wordsOfBytes block).toArray

/-- Fold one block into the words carried. -/
def compress (s : Chain) (block : List UInt8) : Chain :=
  s.add ((roundConstants.zip (schedule block).toList).foldl (fun s p => round s p.1 p.2) s)

/-- How many bytes a block has. -/
def blockSize : Nat := 64

/-- What follows a message of `n` bytes: a mark, zeros up to the end of a block, and
the length in bits as eight bytes. -/
def padding (n : Nat) : List UInt8 :=
  0x80 :: List.replicate ((119 - n % 64) % 64) 0 ++
    (List.range 8).map fun i => UInt8.ofNat (n * 8 / Nat.pow 256 (7 - i))

/-- Fold all full blocks of a message into the words carried. -/
def compressBlocks (s : Chain) (bytes : List UInt8) : Chain :=
  if blockSize ≤ bytes.length then
    compressBlocks (compress s (bytes.take blockSize)) (bytes.drop blockSize)
  else s
termination_by bytes.length
decreasing_by simp only [List.length_drop, blockSize] at *; omega

/-- The digest of a message. -/
def sha256 (message : List UInt8) : List UInt8 :=
  (compressBlocks Chain.initial (message ++ padding message.length)).words.flatMap bytesOfWord

/-- A digest in the making. -/
structure Hasher where
  chain : Chain
  /-- The bytes after the last full block, latest first. -/
  recent : List UInt8
  /-- How many bytes were read. -/
  length : Nat
  deriving DecidableEq, Repr

namespace Hasher

/-- Nothing was read. -/
def start : Hasher := ⟨Chain.initial, [], 0⟩

/-- Read one byte. -/
def push (s : Hasher) (b : UInt8) : Hasher :=
  if s.length % blockSize = blockSize - 1 then
    ⟨compress s.chain (b :: s.recent).reverse, [], s.length + 1⟩
  else ⟨s.chain, b :: s.recent, s.length + 1⟩

/-- Read some bytes. -/
def absorb (s : Hasher) (bytes : List UInt8) : Hasher := bytes.foldl push s

/-- The digest of what was read. -/
def digest (s : Hasher) : List UInt8 :=
  (compressBlocks s.chain (s.recent.reverse ++ padding s.length)).words.flatMap bytesOfWord

theorem absorb_append (s : Hasher) (xs ys : List UInt8) :
    s.absorb (xs ++ ys) = (s.absorb xs).absorb ys := List.foldl_append

/-- What a hasher that has read `message` knows of it. -/
structure Reads (s : Hasher) (message : List UInt8) : Prop where
  length_eq : s.length = message.length
  recent_length : s.recent.length = s.length % blockSize
  /-- What is carried and what is kept stand for the message, whatever follows. -/
  same : ∀ rest, compressBlocks s.chain (s.recent.reverse ++ rest) =
    compressBlocks Chain.initial (message ++ rest)

theorem reads_start : Reads start [] := ⟨rfl, rfl, fun _ => rfl⟩

theorem Reads.push {s : Hasher} {message : List UInt8} (h : Reads s message) (b : UInt8) :
    Reads (s.push b) (message ++ [b]) := by
  obtain ⟨hl, hr, hs⟩ := h
  unfold Hasher.push
  split
  · rename_i full
    have hlen : (s.recent.reverse ++ [b]).length = 64 := by
      simp only [List.length_append, List.length_reverse, List.length_singleton, blockSize] at *
      omega
    refine ⟨by simp [hl], ?_, fun rest => ?_⟩
    · simp only [List.length_nil, blockSize] at *
      omega
    · have key := hs (b :: rest)
      rw [show s.recent.reverse ++ b :: rest = (s.recent.reverse ++ [b]) ++ rest by simp,
        compressBlocks, if_pos (by rw [List.length_append, hlen, blockSize]; omega),
        show blockSize = (s.recent.reverse ++ [b]).length by rw [hlen]; rfl,
        List.take_left, List.drop_left] at key
      simpa using key
  · rename_i notFull
    refine ⟨by simp [hl], ?_, fun rest => ?_⟩
    · simp only [List.length_cons, blockSize] at *
      omega
    · simpa using hs (b :: rest)

theorem reads_absorb {s : Hasher} {message : List UInt8} (h : Reads s message)
    (bytes : List UInt8) : Reads (s.absorb bytes) (message ++ bytes) := by
  induction bytes generalizing s message with
  | nil => simpa [absorb] using h
  | cons b bytes ih =>
    have := ih (h.push b)
    simpa [absorb] using this

/-- Reading a message byte by byte gives its digest. -/
theorem digest_absorb (message : List UInt8) : (start.absorb message).digest = sha256 message := by
  have h := reads_absorb reads_start message
  simp only [List.nil_append] at h
  rw [digest, sha256, h.same, h.length_eq]

end Hasher

end StreamQueue.Digest
