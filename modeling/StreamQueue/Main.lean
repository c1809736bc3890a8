import StreamQueue.Cli.Execute
import StreamQueue.Store

/-!
# The program

The program as a process: its words, variables, files and channels. It has no network
of its own, so a server cannot be reached from it and no port can be served at; a log
can be kept in memory only.
-/

namespace StreamQueue.Main

/-- Why nothing beyond the machine is reached. -/
def noNetwork : String := "Network is unreachable (os error 101)"

/-- What is found at a path. -/
def look (path : String) : IO File := do
  try
    return File.ofBytes (← IO.FS.readBinFile path).toList
  catch
    | .noFileOrDirectory .. => return .absent
    | .inappropriateType _ 21 _ => return .directory
    | .inappropriateType .. => return .obstructed
    | e => return .unreadable (toString e)

/-- A variable and its value. -/
def variableOf (line : String) : Option (String × String) :=
  match line.splitOn "=" with
  | name :: value => some (name, "=".intercalate value)
  | [] => none

/-- The variables of the process. -/
def environment : IO Environment := do
  match ← look "/proc/self/environ" with
  | .text s => return Environment.ofList ((s.splitOn "\x00").filterMap variableOf)
  | _ => return fun _ => none

/-- Do a job on a log in memory. -/
def perform (store : IO.Ref Store) {α : Type} : Job α → IO α
  | .done a => return a
  | .call c next => do
    let now ← IO.monoNanosNow
    let (result, after) := (← store.get).perform ⟨⟨now⟩, ⟨now⟩⟩ c
    store.set after
    perform store (next result)
  | .report _ rest => perform store rest
  | .readWall next => do perform store (next ⟨← IO.monoNanosNow⟩)
  | .arm _ _ rest => perform store rest
  | .disarm rest => perform store rest

/-- The process as the place that the program runs in. -/
def host (store : IO.Ref Store) : Cli.Host IO where
  print := IO.print
  warn := IO.eprint
  look := look
  openMemory := return ()
  connect _ := return .error (.connection noNetwork)
  perform := perform store
  consume _ := return .connection (.connection noNetwork)
  serve _ _ _ := return .error noNetwork

end StreamQueue.Main

/-- Run the program. -/
def main (args : List String) : IO UInt32 := do
  let store ← IO.mkRef StreamQueue.Store.empty
  let code ← StreamQueue.Cli.run (StreamQueue.Main.host store)
    (← StreamQueue.Main.environment) args
  return code.toUInt32
