/-!
# Errors of simulated work
-/

namespace StreamQueue

/-- Why simulated work did not finish. -/
inductive WorkError
  /-- The size asked for is not positive. -/
  | size (bytes : Int)
  /-- The byte source failed. -/
  | generation (text : String)
  /-- The task that drew from the byte source was lost. Why it was lost is not kept. -/
  | generatorLost
  /-- The digesting side failed or read less than was asked for. -/
  | digest (text : String)
  /-- The work was cancelled. -/
  | cancelled
  deriving DecidableEq, Repr

/-- The wording of an error. Behind `generator task failed` the reason of the loss would follow, after a colon;
it is left out, since the text is that of the runtime which lost the task. -/
def WorkError.message : WorkError → String
  | size bytes => "Size must be greater than 0, got " ++ toString bytes
  | generation text => "Error generating random data: " ++ text
  | generatorLost => "Error generating random data: generator task failed"
  | digest text => "Error calculating hash: " ++ text
  | cancelled => "Work cancelled"

end StreamQueue
