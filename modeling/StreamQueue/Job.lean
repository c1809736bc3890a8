import StreamQueue.Store

/-!
# Jobs

What a client of a log does, as data: it makes calls one after the other, reports
events and reads the wall clock. Some of its calls may stand under a deadline. Who
carries a job out decides which log answers, how long each call takes and whether
it ever comes back.

A deadline is armed with its length and with what the job does if the deadline
passes while a call is out. The call that is out is then given up, and no other is
made under that deadline.
-/

namespace StreamQueue

/-- A job that ends with a value. -/
inductive Job (α : Type)
  | done (value : α)
  /-- Make a call and go on with what comes back. -/
  | call (c : LogCall) (next : c.Result → Job α)
  | report (e : Event) (rest : Job α)
  | readWall (next : Timestamp → Job α)
  /-- Put what follows under a deadline. -/
  | arm (limit : Span) (late rest : Job α)
  /-- Take the deadline away. -/
  | disarm (rest : Job α)

namespace Job

variable {α β : Type}

/-- Go on with another job. -/
def bind : Job α → (α → Job β) → Job β
  | done a, f => f a
  | call c next, f => call c fun r => (next r).bind f
  | report e rest, f => report e (rest.bind f)
  | readWall next, f => readWall fun t => (next t).bind f
  | arm limit late rest, f => arm limit (late.bind f) (rest.bind f)
  | disarm rest, f => disarm (rest.bind f)

instance : Monad Job where
  pure := done
  bind := bind

/-- Make one call. -/
def ask (c : LogCall) : Job c.Result := call c done

/-- Report an event. -/
def tell (e : Event) : Job Unit := report e (done ())

/-- Read the wall clock. -/
def wallClock : Job Timestamp := readWall done

/-- Do a job under a deadline; `none` if it was late. -/
def within (limit : Span) (job : Job α) : Job (Option α) :=
  arm limit (done none) (job.bind fun a => disarm (done (some a)))

end Job

end StreamQueue
