/-!
# Environments

The variables that a program is started with. A file may add variables, but never
changes one that is set.
-/

namespace StreamQueue

/-- The value of each variable that is set. -/
abbrev Environment := String → Option String

namespace Environment

/-- The variables of a list, the first of each name. -/
def ofList (bindings : List (String × String)) : Environment := fun name => bindings.lookup name

/-- The environment in which a variable is set, to a value if it was not set before. -/
def withDefault (env : Environment) (name value : String) : Environment := fun n =>
  env n <|> if n == name then some value else none

end Environment

end StreamQueue
