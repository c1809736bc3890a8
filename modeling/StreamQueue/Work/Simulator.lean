import StreamQueue.Digest.Hex
import StreamQueue.Digest.Sha256
import StreamQueue.Work.Error
import StreamQueue.Work.Source

/-!
# Simulated work

The work for a message: draw a number of bytes and take their digest. The payload
is drawn in chunks and digested as it comes. A run ends early when a call on the
source fails, or when the run is cancelled, which counts before anything else.
-/

namespace StreamQueue

/-- The outcome of finished work. -/
structure WorkOutcome where
  /-- The digest of the payload, in hexadecimal. -/
  digest : String
  /-- The size of the payload. -/
  bytes : Nat
  deriving DecidableEq, Repr

/-- What a run of the simulator comes to. -/
structure WorkRun where
  result : Except WorkError WorkOutcome
  /-- How many calls on the source were made in its life so far. -/
  calls : Nat
  /-- Whether the run is cancelled now. -/
  cancelled : Bool
  deriving Repr

namespace Work

/-- The first `n` bytes of a buffer. -/
def firstBytes (byte : Nat → UInt8) (n : Nat) : List UInt8 := (List.range n).map byte

/-- Draw and digest what remains of a payload of `total` bytes. -/
def drawRest (source : ByteSource) (total : Nat) (calls : Nat) (hasher : Digest.Hasher)
    (remaining : Nat) : WorkRun :=
  if remaining = 0 then ⟨.ok ⟨Digest.hex hasher.digest, total⟩, calls, false⟩
  else
    let call := calls + 1
    let draw := source call
    if draw.cancels then ⟨.error .cancelled, call, true⟩
    else match draw.yield with
      | .failed text => ⟨.error (.generation text), call, false⟩
      | .lost => ⟨.error .generatorLost, call, false⟩
      | .filled byte =>
        let hasher := hasher.absorb (firstBytes byte (min remaining chunkSize))
        drawRest source total call hasher (remaining - chunkSize)
termination_by remaining
decreasing_by simp only [chunkSize]; omega

/-- Do work of a size, after `calls` calls on the source were made. -/
def run (source : ByteSource) (calls : Nat) (cancelled : Bool) (size : Int) : WorkRun :=
  if size ≤ 0 then ⟨.error (.size size), calls, cancelled⟩
  else if cancelled then ⟨.error .cancelled, calls, true⟩
  else drawRest source size.toNat calls Digest.Hasher.start size.toNat

/-- Do work of several sizes one after the other. -/
def runAll (source : ByteSource) (calls : Nat) (cancelled : Bool) : List Int → List WorkRun
  | [] => []
  | size :: sizes =>
    let r := run source calls cancelled size
    r :: runAll source r.calls r.cancelled sizes

end Work

end StreamQueue
