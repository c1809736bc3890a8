/-!
# Byte sources

Simulated work draws its payload from a byte source, one full buffer a call. A
source is a script: what the first call, the second call and so on do, counted over
the whole life of the source.
-/

namespace StreamQueue

/-- How many bytes a call on a byte source draws. -/
def chunkSize : Nat := 32768

/-- What a call on a byte source comes to. -/
inductive Draw.Yield
  /-- The buffer was filled: the byte at each of its `chunkSize` positions. -/
  | filled (byte : Nat → UInt8)
  /-- The source failed and said why. -/
  | failed (text : String)
  /-- The task that made the call was lost. -/
  | lost

/-- A call on a byte source. -/
structure Draw where
  /-- Whether the run is cancelled before anything else happens. -/
  cancels : Bool
  yield : Draw.Yield

/-- A byte source: what each call does, the first being number one. -/
abbrev ByteSource := Nat → Draw

/-- The bytes that a described source gives. -/
inductive SourceScript.Pattern
  /-- The bytes count up and begin again at zero after two hundred and fifty. -/
  | counter
  /-- Every byte of a call is the number of the call. -/
  | callNumber
  /-- Every byte is the same. -/
  | constant (byte : UInt8)
  deriving DecidableEq, Repr, Inhabited

/-- A byte source described by its pattern and by the calls that do something else. -/
structure SourceScript where
  pattern : SourceScript.Pattern
  /-- The calls that fail. -/
  failing : List Nat
  /-- Whether all calls fail. -/
  failsAlways : Bool
  failText : String
  /-- The calls that cancel the run first. -/
  cancelling : List Nat
  /-- The calls that lose the task. -/
  losing : List Nat
  deriving DecidableEq, Repr, Inhabited

namespace SourceScript

/-- A source whose bytes are all the same and whose calls all succeed. -/
def uniform (byte : UInt8) : SourceScript := ⟨.constant byte, [], false, "", [], []⟩

/-- Whether a call draws bytes. -/
def draws (s : SourceScript) (call : Nat) : Bool :=
  !(s.failsAlways || s.failing.contains call || s.losing.contains call)

/-- How many of the calls before a call have drawn bytes. -/
def drawsBefore (s : SourceScript) (call : Nat) : Nat :=
  (List.range call).countP fun i => 0 < i && s.draws i

/-- The buffer that a call fills. -/
def buffer (s : SourceScript) (call : Nat) : Nat → UInt8 :=
  match s.pattern with
  | .counter =>
    let first := chunkSize * s.drawsBefore call
    fun i => UInt8.ofNat ((first + i) % 251)
  | .callNumber => fun _ => UInt8.ofNat call
  | .constant byte => fun _ => byte

/-- The source that is described. -/
def source (s : SourceScript) : ByteSource := fun call =>
  { cancels := s.cancelling.contains call
    yield :=
      if s.losing.contains call then .lost
      else if s.failsAlways || s.failing.contains call then .failed s.failText
      else .filled (s.buffer call) }

end SourceScript

end StreamQueue
