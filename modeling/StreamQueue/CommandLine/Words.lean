import StreamQueue.CommandLine.Refusal
import StreamQueue.CommandLine.Similar

/-!
# Reading the words of a command line

Words are read one after the other. An option whose value may follow in the next word
stays open until the next option or operand settles it; only then is its value looked
at. Two dashes make operands of all words behind them.

A command line may go on with a command, which has a grammar of its own. `readWords`
stops there. `finish` looks at what a command line is missing when its words are
over.
-/

namespace StreamQueue.CommandLine

/-- What was read of the words of a command. -/
structure Matched where
  /-- The options that were given, with their values, in order. -/
  opts : List (Opt × Option String)
  operands : List String
  /-- The option that is not settled yet, with the value it was given so far. -/
  unsettled : Option (Opt × Option String)
  /-- Whether the next word is the value of the unsettled option. -/
  awaiting : Bool
  /-- Whether all further words are operands. -/
  trailing : Bool
  deriving Repr

namespace Matched

/-- Nothing read so far. -/
def start : Matched := ⟨[], [], none, false, false⟩

/-- Whether an option was given. -/
def has (m : Matched) (o : Opt) : Bool := m.opts.any fun p => p.1.long == o.long

/-- The value of an option by its long name. -/
def value? (m : Matched) (long : String) : Option String :=
  (m.opts.find? fun p => p.1.long == long).bind (·.2)

/-- Whether a switch was given. -/
def hasSwitch (m : Matched) (long : String) : Bool := m.opts.any fun p => p.1.long == long

/-- Forget that an option was given. -/
def without (m : Matched) (o : Opt) : Matched :=
  { m with opts := m.opts.filter fun p => p.1.long != o.long }

/-- Note an option. -/
def note (m : Matched) (o : Opt) (value : Option String) : Matched :=
  { m with opts := m.opts ++ [(o, value)] }

end Matched

/-- Refuse a command line. -/
def refuse {α : Type} (c : Complaint) (tips : List Tip) (usage : Option String) : Except Ending α :=
  .error (.refused ⟨c, tips, usage, true⟩)

section

variable (g : Grammar) (env : Environment)

/-- What is wrong with the value of an option. -/
def checkValue (o : Opt) (value : String) : Except Ending Unit :=
  match o.role with
  | .value _ kind =>
    match kind.check value with
    | .ok () => .ok ()
    | .error .absent => refuse (.missingValue o) [] none
    | .error (.unreadable reason) => refuse (.invalidValue value o reason) [] none
  | _ => .ok ()

/-- Take an option, which may be given only once. -/
def take (m : Matched) (o : Opt) (value : Option String) : Except Ending Matched := do
  if m.has o then refuse (.repeated o) [] (some g.usage)
  value.forM (checkValue o)
  return m.note o value

/-- Settle the option that is not settled yet. -/
def settle (m : Matched) : Except Ending Matched :=
  match m.unsettled with
  | none => .ok m
  | some (o, none) => refuse (.missingValue o) [] none
  | some (o, some value) => take g { m with unsettled := none } o (some value)

/-- Settle the option that is not settled yet, for an error that comes before its own. -/
def settleAnyhow (m : Matched) : Matched :=
  let settled := { m with unsettled := none }
  match m.unsettled with
  | none | some (_, none) => settled
  | some (o, some value) => if m.has o then settled.without o else settled.note o (some value)

/-- Read an option in front of its value, or with it. -/
def readValued (m : Matched) (o : Opt) (attached : Option String) : Except Ending Matched := do
  let m ← settle g m
  match attached with
  | some value => return { ← take g m o (some value) with awaiting := false }
  | none => return { m with unsettled := some (o, none), awaiting := true }

/-- Read an option without a value. -/
def readBare (m : Matched) (o : Opt) : Except Ending Matched := do
  let m ← settle g m
  match o.role with
  | .help => .error (.help (g.helpText env))
  | .version text => .error (.version (text ++ "\n"))
  | _ => return { ← take g m o none with awaiting := false }

/-- An option that may have been meant by an unknown one, here or in a command that
follows among the other words. -/
def similarOpt? (subgrammars : List (String × Grammar)) (name : String) (rest : List String) :
    Option (String × Option String) :=
  match (alike name (g.opts.map (·.long))).getLast? with
  | some long => some (long, none)
  | none =>
    let candidates := subgrammars.filterMap fun (command, sub) => do
      let long ← (alike name (sub.opts.map (·.long))).getLast?
      let place ← rest.idxOf? command
      return (place, long, command)
    let nearest := candidates.foldl (fun best c =>
      match best with
      | some b => if c.1 < b.1 then some c else some b
      | none => some c) (none : Option (Nat × String × String))
    nearest.map fun (_, long, command) => (long, some command)

/-- Refuse an unknown option. -/
def refuseLong {α : Type} (subgrammars : List (String × Grammar)) (m : Matched) (name : String)
    (rest : List String) : Except Ending α :=
  let m := settleAnyhow m
  let similar := similarOpt? g subgrammars name rest
  let meant := similar.bind fun (long, _) => g.opts.find? fun o => o.long == long
  let used := m.opts.map (·.1) ++ (meant.filter fun o => !m.has o).toList
  let tips := match similar with
    | some (long, none) => [Tip.similarOpt long]
    | some (long, some command) => [Tip.optOf command long]
    | none => if g.operands.isEmpty then [] else [Tip.asOperand ("--" ++ name)]
  refuse (.unexpected ("--" ++ name)) tips (some (g.usageWith used))

/-- Read a long option, perhaps with its value behind an equals sign. -/
def readLong (subgrammars : List (String × Grammar)) (m : Matched) (name : String)
    (attached : Option String) (rest : List String) : Except Ending Matched :=
  match g.opts.find? fun o => o.long == name with
  | none => refuseLong g subgrammars m name rest
  | some o =>
    match o.role, attached with
    | .value .., _ => readValued g m o attached
    | _, some value =>
      let used := m.opts.map (·.1) ++ if m.has o then [] else [o]
      refuse (.uncalledValue value o) [] (some (g.usageWith used))
    | _, none => readBare g env m o

/-- Read short options behind one dash. The value of one may follow in the same word. -/
def readShorts (m : Matched) : List Char → Except Ending Matched
  | [] => .ok m
  | c :: cs =>
    match g.opts.find? fun o => o.short == some c with
    | none =>
      let word := "-" ++ c.toString
      let tips := if g.operands.isEmpty then [] else [Tip.asOperand word]
      refuse (.unexpected word) tips (some g.usage)
    | some o =>
      match o.role with
      | .value .. =>
        match cs with
        | [] => readValued g m o none
        | '=' :: value => readValued g m o (some (String.ofList value))
        | value => readValued g m o (some (String.ofList value))
      | _ => do readShorts (← readBare g env m o) cs

/-- Refuse a word that is neither an option nor an operand. -/
def refuseWord {α : Type} (m : Matched) (word : String) : Except Ending α :=
  let known := g.commands.map (·.1)
  if m.trailing && known.contains word then
    refuse (.unexpected word) [.commandBehindDashes word] (some g.usage)
  else if known.isEmpty then refuse (.unexpected word) [] (some g.usage)
  else
    match alike word known with
    | [] => refuse (.unknownCommand word) [] (some g.usage)
    | names => refuse (.unknownCommand word) [.similarCommands names] (some g.usage)

/-- Read an operand. -/
def readOperand (m : Matched) (word : String) : Except Ending Matched := do
  if g.operands.length ≤ m.operands.length then refuseWord g m word
  let m ← settle g m
  return { m with operands := m.operands ++ [word] }

/-- A word as a long option: its name, and what follows an equals sign. -/
def asLong? (word : String) : Option (String × Option String) :=
  match word.toList with
  | '-' :: '-' :: c :: cs =>
    let name := (c :: cs).takeWhile (· != '=')
    match (c :: cs).drop name.length with
    | _ :: value => some (String.ofList name, some (String.ofList value))
    | [] => some (String.ofList name, none)
  | _ => none

/-- A word as short options. -/
def asShorts? (word : String) : Option (List Char) :=
  match word.toList with
  | '-' :: c :: cs => if c == '-' then none else some (c :: cs)
  | _ => none

/-- Read one word, given those behind it. -/
def readWord (subgrammars : List (String × Grammar)) (m : Matched) (word : String)
    (rest : List String) : Except Ending Matched :=
  if m.trailing then readOperand g m word
  else if word == "--" then .ok { m with trailing := true }
  else match asLong? word, asShorts? word with
    | some (name, attached), _ => readLong g env subgrammars m name attached rest
    | none, some cs => readShorts g env m cs
    | none, none =>
      match m.awaiting, m.unsettled with
      | true, some (o, _) => .ok { m with unsettled := some (o, some word), awaiting := false }
      | _, _ => readOperand g m word

/-- Read words up to a command, which is left with the words behind it. -/
def readWords (subgrammars : List (String × Grammar)) :
    Matched → List String → Except Ending (Matched × Option (String × List String))
  | m, [] => .ok (m, none)
  | m, word :: rest =>
    if !m.trailing && !m.awaiting && (g.commands.map (·.1)).contains word then
      .ok (m, some (word, rest))
    else do readWords subgrammars (← readWord g env subgrammars m word rest) rest

/-- Take the values of variables for options that were not given. -/
def takeVariables (m : Matched) : List Opt → Except Ending Matched
  | [] => .ok m
  | o :: os =>
    match o.variableName.bind env with
    | some value => do
      if m.has o then takeVariables m os
      else takeVariables (← take g m o (some value)) os
    | none => takeVariables m os

/-- Look at what is missing when the words are over. -/
def finish (m : Matched) : Except Ending Matched := do
  let m ← settle g m
  let m ← takeVariables g env m g.opts
  if !g.commands.isEmpty then
    if m.opts.isEmpty then .error (.idle (g.helpText env))
    else refuse (.missingCommand g.name (g.commands.map (·.1))) [] (some g.usage)
  let missing := (g.operands.drop m.operands.length).filter fun p => !p.repeated
  if !missing.isEmpty then
    let usage := if m.opts.isEmpty then " ".intercalate (g.name :: g.usageTail)
      else g.usageWith (m.opts.map (·.1))
    refuse (.missingOperands missing) [] (some usage)
  return m

end

end StreamQueue.CommandLine
