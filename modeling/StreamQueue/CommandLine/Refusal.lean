import StreamQueue.CommandLine.Grammar

/-!
# Refused command lines

Why a command line cannot be followed, what may have been meant instead, and how the
command is called. Asking for help or for the version ends the reading of a command
line in the same way, but is no error.
-/

namespace StreamQueue.CommandLine

/-- Why a command line cannot be followed. -/
inductive Complaint
  /-- A word that has no place. -/
  | unexpected (word : String)
  | invalidValue (value : String) (opt : Opt) (reason : String)
  | missingValue (opt : Opt)
  /-- An option that is given twice. -/
  | repeated (opt : Opt)
  | missingOperands (operands : List Operand)
  /-- A value for an option that has none. -/
  | uncalledValue (value : String) (opt : Opt)
  | unknownCommand (name : String)
  | missingCommand (name : String) (known : List String)
  deriving DecidableEq, Repr

/-- The wording of a complaint. -/
def Complaint.message : Complaint → String
  | unexpected word => s!"unexpected argument '{word}' found"
  | invalidValue value opt reason => s!"invalid value '{value}' for '{opt.shown}': {reason}"
  | missingValue opt => s!"a value is required for '{opt.shown}' but none was supplied"
  | repeated opt => s!"the argument '{opt.shown}' cannot be used multiple times"
  | missingOperands operands =>
    "\n  ".intercalate ("the following required arguments were not provided:" ::
      operands.map Operand.shown)
  | uncalledValue value opt =>
    s!"unexpected value '{value}' for '{opt.shown}' found; no more were expected"
  | unknownCommand name => s!"unrecognized subcommand '{name}'"
  | missingCommand name known =>
    s!"'{name}' requires a subcommand but one was not provided\n  [subcommands: " ++
      ", ".intercalate known ++ "]"

/-- What may have been meant. -/
inductive Tip
  /-- A word that looks like an option but may be an operand. -/
  | asOperand (word : String)
  | similarCommands (names : List String)
  | similarOpt (long : String)
  /-- An option of a command that follows. -/
  | optOf (command long : String)
  /-- A command behind dashes that make it an operand. -/
  | commandBehindDashes (command : String)
  deriving DecidableEq, Repr

/-- The wording of a tip. -/
def Tip.message : Tip → String
  | asOperand word => s!"to pass '{word}' as a value, use '-- {word}'"
  | similarCommands [name] => s!"a similar subcommand exists: '{name}'"
  | similarCommands names =>
    "some similar subcommands exist: " ++ ", ".intercalate (names.map fun n => s!"'{n}'")
  | similarOpt long => s!"a similar argument exists: '--{long}'"
  | optOf command long => s!"'{command} --{long}' exists"
  | commandBehindDashes command =>
    s!"subcommand '{command}' exists; to use it, remove the '--' before it"

/-- A refused command line. -/
structure Refusal where
  complaint : Complaint
  tips : List Tip
  /-- How the command is called, if that is of use. -/
  usage : Option String
  /-- Whether the command has help to offer. -/
  hasHelp : Bool
  deriving DecidableEq, Repr

/-- What a person is told. -/
def Refusal.message (r : Refusal) : String :=
  let tips := r.tips.map fun t => "\n  tip: " ++ t.message
  "error: " ++ r.complaint.message ++ (if tips.isEmpty then "" else "\n" ++ String.join tips) ++
    (match r.usage with
      | some u => "\n\nUsage: " ++ u
      | none => "") ++
    (if r.hasHelp then "\n\nFor more information, try '--help'.\n" else "\n")

/-- Why the reading of a command line has ended. -/
inductive Ending
  /-- Help was asked for. -/
  | help (text : String)
  /-- Help is shown because there is nothing to do. -/
  | idle (text : String)
  | version (text : String)
  | refused (r : Refusal)
  deriving DecidableEq, Repr

namespace Ending

/-- What a person is told. -/
def text : Ending → String
  | help text | idle text | version text => text
  | refused r => r.message

/-- Whether that is told as an error. -/
def isError : Ending → Bool
  | help _ | version _ => false
  | idle _ | refused _ => true

/-- The code with which the program ends. -/
def exitCode (e : Ending) : Nat := if e.isError then 2 else 0

end Ending

end StreamQueue.CommandLine
