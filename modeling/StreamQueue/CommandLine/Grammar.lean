import StreamQueue.Environment
import StreamQueue.Text.Decimal

/-!
# Grammars of command lines

What words a command takes: options with and without a value, and operands. Some
options may also be given by a variable of the environment, and some have a value
when they are not given at all.

`helpText` is what a person is shown who asks for help, and `usage` the line that
says how a command is called.
-/

namespace StreamQueue.CommandLine

/-- What may stand as a value. -/
inductive ValueKind
  | text
  /-- A path, which is not empty. -/
  | path
  /-- A number from `0` to `65535`. -/
  | port
  /-- A number of 64 bits. -/
  | count
  deriving DecidableEq, Repr

/-- What is wrong with a value. -/
inductive ValueFault
  /-- It is as good as none. -/
  | absent
  | unreadable (reason : String)
  deriving DecidableEq, Repr

/-- The greatest port. -/
def maxPort : Nat := 65535

/-- Read a port. A number that is too large for any integer is told from one that is
only too large for a port. -/
def readPort (s : String) : Except String Nat :=
  match Text.Decimal.integer Text.Decimal.maxInt64 s.toList with
  | .error fault => .error fault.message
  | .ok n =>
    if 0 ≤ n ∧ n ≤ maxPort then .ok n.toNat
    else .error (toString n ++ " is not in 0..=" ++ toString maxPort)

/-- Read a number of 64 bits. -/
def readCount (s : String) : Except String Nat :=
  (Text.Decimal.natural Text.Decimal.maxWord64 s.toList).mapError (·.message)

/-- What is wrong with a value of a kind. -/
def ValueKind.check (k : ValueKind) (s : String) : Except ValueFault Unit :=
  match k with
  | text => .ok ()
  | path => if s.isEmpty then .error .absent else .ok ()
  | port => ((readPort s).map fun _ => ()).mapError .unreadable
  | count => ((readCount s).map fun _ => ()).mapError .unreadable

/-- What an option is for. -/
inductive Role
  /-- It has a value. -/
  | value (placeholder : String) (kind : ValueKind)
  /-- It is there or not. -/
  | switch
  /-- It asks for help. -/
  | help
  /-- It asks for the version, which is this. -/
  | version (text : String)
  deriving DecidableEq, Repr

/-- An option. -/
structure Opt where
  /-- Its name behind two dashes. -/
  long : String
  /-- Its name behind one dash. -/
  short : Option Char
  role : Role
  about : String
  /-- The variable of the environment that may stand for it. -/
  variableName : Option String
  /-- Its value when it is not given. -/
  default : Option String
  deriving DecidableEq, Repr

/-- An operand. One that may be repeated may also be missing. -/
structure Operand where
  placeholder : String
  about : String
  repeated : Bool
  deriving DecidableEq, Repr

/-- What words a command takes. -/
structure Grammar where
  /-- How the command is called. -/
  name : String
  about : String
  opts : List Opt
  operands : List Operand
  /-- The commands that may follow, with what they are for. -/
  commands : List (String × String)
  deriving Repr

namespace Opt

/-- An option as it is shown: its long name, and its value. -/
def shown (o : Opt) : String :=
  match o.role with
  | .value placeholder _ => "--" ++ o.long ++ " <" ++ placeholder ++ ">"
  | _ => "--" ++ o.long

/-- Whether an option is one of those that every command has. -/
def isUsual (o : Opt) : Bool :=
  match o.role with
  | .help | .version _ => true
  | .value .. | .switch => false

/-- An option with both names, in the column of a list. -/
def column (o : Opt) : String :=
  match o.short with
  | some c => "-" ++ c.toString ++ ", " ++ o.shown
  | none => "    " ++ o.shown

/-- Where else the value of an option may come from. -/
def origins (o : Opt) (env : Environment) : List String :=
  let fromVariable := o.variableName.map fun v => "[env: " ++ v ++ "=" ++ (env v).getD "" ++ "]"
  let byDefault := o.default.map fun d => "[default: " ++ d ++ "]"
  fromVariable.toList ++ byDefault.toList

end Opt

/-- An operand as it is shown. -/
def Operand.shown (p : Operand) : String :=
  if p.repeated then "[" ++ p.placeholder ++ "]..." else "<" ++ p.placeholder ++ ">"

namespace Grammar

/-- The operands and the command in a line of usage. -/
def usageTail (g : Grammar) : List String :=
  g.operands.map Operand.shown ++ if g.commands.isEmpty then [] else ["<COMMAND>"]

/-- How a command is called. -/
def usage (g : Grammar) : String :=
  let opts := if g.opts.all Opt.isUsual then [] else ["[OPTIONS]"]
  " ".intercalate (g.name :: opts ++ g.usageTail)

/-- How a command is called with some of its options. -/
def usageWith (g : Grammar) (opts : List Opt) : String :=
  if opts.isEmpty then g.usage
  else " ".intercalate (g.name :: opts.map Opt.shown ++ g.usageTail)

/-- A list in two columns under a heading. -/
def listing (heading : String) (rows : List (String × String)) : List String :=
  if rows.isEmpty then []
  else
    let width := rows.foldl (fun n r => max n r.1.length) 0
    let line (r : String × String) : String :=
      "  " ++ r.1 ++ String.ofList (List.replicate (width - r.1.length) ' ') ++ "  " ++ r.2
    ["\n".intercalate ((heading ++ ":") :: rows.map line)]

/-- What a person is shown who asks for help. -/
def helpText (g : Grammar) (env : Environment) : String :=
  let optRow (o : Opt) := (o.column, " ".intercalate (o.about :: o.origins env))
  let parts := [g.about, "Usage: " ++ g.usage] ++ listing "Commands" g.commands ++
    listing "Arguments" (g.operands.map fun p => (p.shown, p.about)) ++
    listing "Options" (g.opts.map optRow)
  "\n\n".intercalate parts ++ "\n"

end Grammar

end StreamQueue.CommandLine
