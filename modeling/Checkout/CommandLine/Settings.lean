import Checkout.CommandLine.Value

/-!
# Settings

The values that options and variables have given to parameters, each parameter at most once.
-/

namespace Checkout.CommandLine

/-- A parameter with its value. -/
structure Setting where
  parameter : Parameter
  value : parameter.kind.Value

/-- The values that have been given, in order. -/
abbrev Settings := List Setting

namespace Settings

/-- The parameter has a value. -/
def has (ss : Settings) (p : Parameter) : Bool := ss.any (·.parameter == p)

/-- The value of a parameter. -/
def get? : Settings → (p : Parameter) → Option p.kind.Value
  | [], _ => none
  | ⟨q, v⟩ :: rest, p => if h : q = p then some (h ▸ v) else get? rest p

/-- Gives a parameter a value by its text; without a text the one that the parameter implies. A
parameter takes a value once. -/
def give (ss : Settings) (p : Parameter) (text : Option String) : Except UsageError Settings :=
  match text.or p.impliedText? with
  | none => .error (.missingValue p)
  | some text =>
    if ss.has p then .error (.repeatedParameter p)
    else do
      let value ← p.read text
      return ss ++ [⟨p, value⟩]

/-- Gives every parameter that has no value yet the text of its variable, if the variable is set. -/
def giveVariables (vars : List (String × String)) :
    List Parameter → Settings → Except UsageError Settings
  | [], ss => .ok ss
  | p :: rest, ss =>
    match if ss.has p then none else vars.lookup p.variableName with
    | none => giveVariables vars rest ss
    | some text => do giveVariables vars rest (← ss.give p (some text))

end Settings

end Checkout.CommandLine
