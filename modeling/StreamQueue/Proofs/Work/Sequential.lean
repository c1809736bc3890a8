import StreamQueue.Work.Simulator
import Mathlib

/-!
# Work, one chunk after the other

The work for a message draws its payload chunk by chunk and takes the digest of it. Only the
first call that does not fill its buffer matters, and if there is none the digest is that of all
chunks in order, the last of them cut to what was still wanted.

## What is proved

* `Work.drawRest_filled`, `Work.drawRest_fault` — one call is made, and then the rest is drawn, or
  the work ends.
* `Work.drawRest_through` — what a number of calls that fill their buffers leave to be drawn.
* `Work.drawn_of_drawRest` — what is drawn from here on is all that is wanted, or it ends at the
  first call that does not fill its buffer.
* `Work.drawn_of_run` — so does the work as a whole, and its digest is that of the payload.
-/

namespace StreamQueue

/-- What a call on a byte source ends the work with, if it does not fill its buffer. -/
def Draw.fault? (draw : Draw) : Option WorkError :=
  if draw.cancels then some .cancelled
  else match draw.yield with
    | .filled _ => none
    | .failed text => some (.generation text)
    | .lost => some .generatorLost

theorem Draw.of_fault_none {draw : Draw} (fault : draw.fault? = none) :
    ∃ byte, draw = ⟨false, .filled byte⟩ := by
  obtain ⟨_ | _, byte | text | _⟩ := draw
  · exact ⟨byte, rfl⟩
  all_goals exact absurd fault nofun

theorem Draw.of_fault_some {draw : Draw} {error : WorkError} (fault : draw.fault? = some error) :
    draw.cancels = true ∧ error = .cancelled ∨
      (∃ text, draw = ⟨false, .failed text⟩ ∧ error = .generation text) ∨
      draw = ⟨false, .lost⟩ ∧ error = .generatorLost := by
  obtain ⟨_ | _, byte | text | _⟩ := draw
  case true.filled | true.failed | true.lost => exact .inl ⟨rfl, (Option.some.inj fault).symm⟩
  case false.filled => exact absurd fault nofun
  case false.failed => exact .inr (.inl ⟨text, rfl, (Option.some.inj fault).symm⟩)
  case false.lost => exact .inr (.inr ⟨rfl, (Option.some.inj fault).symm⟩)

namespace Work

/-- How many calls it takes to draw some bytes. -/
def chunkCount (wanted : Nat) : Nat := (wanted + (chunkSize - 1)) / chunkSize

/-- What the call after `i` others adds to a payload. -/
def chunk (source : ByteSource) (calls wanted i : Nat) : List UInt8 :=
  match (source (calls + i + 1)).yield with
  | .filled byte => firstBytes byte (min (wanted - i * chunkSize) chunkSize)
  | _ => []

/-- The chunks that are drawn after some calls, in order, as one payload. -/
def payload (source : ByteSource) (calls wanted : Nat) : List UInt8 :=
  (List.range (chunkCount wanted)).flatMap (chunk source calls wanted)

/-- What the work comes to that still wants some bytes after some calls: all is drawn, and `whole`
takes the digest of it, or the first call that does not fill its buffer ends the work. -/
def Drawn (source : ByteSource) (calls wanted : Nat) (whole : List UInt8 → WorkOutcome)
    (result : Except WorkError WorkOutcome) : Prop :=
  (∀ i < chunkCount wanted, (source (calls + i + 1)).fault? = none) ∧
      result = .ok (whole (payload source calls wanted)) ∨
    ∃ i < chunkCount wanted, (∀ j < i, (source (calls + j + 1)).fault? = none) ∧
      ∃ error, (source (calls + i + 1)).fault? = some error ∧ result = .error error

variable {source : ByteSource} {total calls remaining : Nat} {hasher : Digest.Hasher}

/-! ### Chunks and payloads -/

/-- Before each call something is still wanted. -/
theorem mul_chunkSize_lt {n : Nat} (within : n < chunkCount remaining) : n * chunkSize < remaining := by
  simp only [chunkCount, chunkSize] at within ⊢
  omega

/-- After all calls nothing is wanted. -/
theorem le_chunkCount_mul : remaining ≤ chunkCount remaining * chunkSize := by
  simp only [chunkCount, chunkSize]
  omega

/-! ### One chunk -/

theorem drawRest_done (done : remaining = 0) : drawRest source total calls hasher remaining =
    ⟨.ok ⟨Digest.hex hasher.digest, total⟩, calls, false⟩ := by
  rw [drawRest, if_pos done]

/-- After a call that fills its buffer the rest is drawn. -/
theorem drawRest_filled (wanted : 0 < remaining) {byte : Nat → UInt8}
    (filled : source (calls + 1) = ⟨false, .filled byte⟩) :
    drawRest source total calls hasher remaining =
      drawRest source total (calls + 1) (hasher.absorb (firstBytes byte (min remaining chunkSize)))
        (remaining - chunkSize) := by
  rw [drawRest, if_neg (Nat.ne_of_gt wanted)]
  simp only [filled, Bool.false_eq_true, ↓reduceIte]

/-- A call that does not fill its buffer ends the work. -/
theorem drawRest_fault (wanted : 0 < remaining) {error : WorkError}
    (fault : (source (calls + 1)).fault? = some error) : drawRest source total calls hasher remaining =
      ⟨.error error, calls + 1, (source (calls + 1)).cancels⟩ := by
  rw [drawRest, if_neg (Nat.ne_of_gt wanted)]
  rcases Draw.of_fault_some fault with ⟨cancels, rfl⟩ | ⟨text, draw, rfl⟩ | ⟨draw, rfl⟩
  · simp only [cancels, ↓reduceIte]
  · simp only [draw, Bool.false_eq_true, ↓reduceIte]
  · simp only [draw, Bool.false_eq_true, ↓reduceIte]

/-! ### The rest, and the whole -/

/-- What a number of calls that fill their buffers leave to be drawn. -/
theorem drawRest_through {n : Nat} (within : n ≤ chunkCount remaining)
    (fills : ∀ i < n, (source (calls + i + 1)).fault? = none) :
    drawRest source total calls hasher remaining = drawRest source total (calls + n)
      (hasher.absorb ((List.range n).flatMap (chunk source calls remaining)))
      (remaining - n * chunkSize) := by
  induction n with
  | zero =>
    rw [Nat.zero_mul]
    rfl
  | succ n ih =>
    -- Not all calls are made yet, so one more is.
    have wanted : 0 < remaining - n * chunkSize := Nat.sub_pos_of_lt (mul_chunkSize_lt within)
    obtain ⟨byte, filled⟩ := Draw.of_fault_none (fills n (Nat.lt_succ_self n))
    have next : chunk source calls remaining n =
        firstBytes byte (min (remaining - n * chunkSize) chunkSize) := by
      simp only [chunk, filled]
    rw [ih (Nat.le_of_succ_le within) fun i before => fills i (Nat.lt_succ_of_lt before),
      drawRest_filled wanted filled, ← next, List.range_succ, List.flatMap_append, List.flatMap_singleton,
      Digest.Hasher.absorb_append, Nat.succ_mul, Nat.sub_sub, Nat.add_assoc]

/-- If all calls fill their buffers the work is done. -/
theorem drawRest_whole (fills : ∀ i < chunkCount remaining, (source (calls + i + 1)).fault? = none) :
    drawRest source total calls hasher remaining =
      ⟨.ok ⟨Digest.hex (hasher.absorb (payload source calls remaining)).digest, total⟩,
        calls + chunkCount remaining, false⟩ := by
  rw [drawRest_through (Nat.le_refl _) fills, drawRest_done (Nat.sub_eq_zero_of_le le_chunkCount_mul), payload]

/-- If one call is the first that does not fill its buffer it is the last one. -/
theorem drawRest_short {i : Nat} (within : i < chunkCount remaining)
    (fills : ∀ j < i, (source (calls + j + 1)).fault? = none) {error : WorkError}
    (fault : (source (calls + i + 1)).fault? = some error) :
    drawRest source total calls hasher remaining =
      ⟨.error error, calls + i + 1, (source (calls + i + 1)).cancels⟩ := by
  have wanted : 0 < remaining - i * chunkSize := Nat.sub_pos_of_lt (mul_chunkSize_lt within)
  rw [drawRest_through (Nat.le_of_lt within) fills, drawRest_fault wanted fault]

/-- What is drawn from here on is all that is wanted, or it ends at the first call that does not
fill its buffer. -/
theorem drawn_of_drawRest : Drawn source calls remaining
    (fun bytes => ⟨Digest.hex (hasher.absorb bytes).digest, total⟩)
    (drawRest source total calls hasher remaining).result := by
  by_cases fills : ∀ i < chunkCount remaining, (source (calls + i + 1)).fault? = none
  · exact .inl ⟨fills, congrArg WorkRun.result (drawRest_whole fills)⟩
  · have faults : ∃ i, i < chunkCount remaining ∧ (source (calls + i + 1)).fault? ≠ none := by
      simpa using fills
    obtain ⟨within, faulty⟩ := Nat.find_spec faults
    obtain ⟨error, fault⟩ := Option.ne_none_iff_exists'.1 faulty
    have others : ∀ j < Nat.find faults, (source (calls + j + 1)).fault? = none := by
      intro j before
      by_contra faulty
      exact Nat.find_min faults before ⟨before.trans within, faulty⟩
    exact .inr ⟨Nat.find faults, within, others, error, fault,
      congrArg WorkRun.result (drawRest_short within others fault)⟩

/-- What the work for a message comes to: it draws all its chunks and takes their digest, or it
ends at the first call that does not fill its buffer. -/
theorem drawn_of_run {size : Int} (positive : 0 < size) : Drawn source calls size.toNat
    (fun bytes => ⟨Digest.hex (Digest.sha256 bytes), size.toNat⟩)
    (run source calls false size).result := by
  rw [run, if_neg (Int.not_le.2 positive), if_neg Bool.false_ne_true]
  simp only [← Digest.Hasher.digest_absorb]
  exact drawn_of_drawRest

end Work

end StreamQueue
