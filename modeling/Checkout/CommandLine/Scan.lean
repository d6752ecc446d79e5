import Checkout.CommandLine.Argument
import Checkout.CommandLine.Settings

/-!
# Scanning arguments

`scan` goes through the arguments of one scope. An option without a value in its own argument waits
for the next one, and its value is not looked at before the next option or the end, so that an
unknown argument is reported first.
-/

namespace Checkout.CommandLine

/-- The settings so far, and the last option with its value where it has not been looked at. -/
structure Draft where
  settings : Settings
  pending : Option (Parameter × Option String)

namespace Draft

def empty : Draft := ⟨[], none⟩

/-- The option that waits for a value. -/
def waiting? (d : Draft) : Option Parameter :=
  match d.pending with
  | some (p, none) => some p
  | _ => none

/-- The settings after the last option has been looked at. -/
def settle (d : Draft) : Except UsageError Settings :=
  match d.pending with
  | none => .ok d.settings
  | some (p, text) => d.settings.give p text

/-- Takes an argument as the value of the option that waits for it. -/
def fill (d : Draft) (p : Parameter) (text : String) : Draft :=
  { d with pending := some (p, some text) }

/-- An option with its value in the same argument, or without. -/
def option (d : Draft) (p : Parameter) (value : Option String) : Except UsageError Draft := do
  let settings ← d.settle
  match value with
  | none => return ⟨settings, some (p, none)⟩
  | some text => return ⟨← settings.give p (some text), none⟩

/-- A wish ends the scan when what comes before it is right. -/
def wish (d : Draft) (e : UsageError) : Except UsageError Draft := do
  let _ ← d.settle
  throw e

/-- Two hyphens, a name and perhaps a value. -/
def long (d : Draft) (scope : Scope) (name : String) (value : Option String) :
    Except UsageError Draft :=
  match scope.long? name with
  | none => .error (.unknownArgument ("--" ++ name))
  | some (.parameter p) => d.option p value
  | some .help => if value.isSome then .error (.unneededValue name) else d.wish (.helpRequested scope)
  | some .version => if value.isSome then .error (.unneededValue name) else d.wish .versionRequested

/-- One hyphen, a letter and what follows it. -/
def short (d : Draft) (scope : Scope) (letter : Char) (rest : List Char) : Except UsageError Draft :=
  match scope.short? letter with
  | none => .error (.unknownArgument (String.ofList ['-', letter]))
  | some (.parameter p) => d.option p (Argument.attached? rest)
  | some .help => d.wish (.helpRequested scope)
  | some .version => d.wish .versionRequested

end Draft

/-- Why a word that is neither an option nor a value is refused. Behind an escape the name of a
command is not one. -/
def Scope.unexpected (scope : Scope) (escaped : Bool) (text : String) : UsageError :=
  if scope.commandWords.isEmpty || escaped && scope.commandWords.contains text then
    .unknownArgument text
  else .unknownCommand text

/-- What a scan finds: settings, and the name of a command with what follows it. -/
structure Scanned where
  draft : Draft
  command : Option (String × List String)

/-- Scans the arguments of a scope, up to the name of a command. -/
def scan (scope : Scope) (d : Draft) : List String → Except UsageError Scanned
  | [] => .ok ⟨d, none⟩
  | text :: rest =>
    match d.waiting? with
    | none =>
      if scope.commandWords.contains text then .ok ⟨d, some (text, rest)⟩
      else
        match Argument.ofText text with
        | .escape => ofEscaped rest
        | .long name value => do scan scope (← d.long scope name value) rest
        | .short letter letters => do scan scope (← d.short scope letter letters) rest
        | .plain => .error (scope.unexpected false text)
    | some p =>
      match Argument.ofText text with
      | .escape => ofEscaped rest
      | .long name value => do scan scope (← d.long scope name value) rest
      | .short letter letters =>
        if p.takesNegative && Argument.isNegativeNumeral text then scan scope (d.fill p text) rest
        else do scan scope (← d.short scope letter letters) rest
      | .plain => scan scope (d.fill p text) rest
where
  /-- Behind an escape nothing may stand. -/
  ofEscaped : List String → Except UsageError Scanned
    | [] => .ok ⟨d, none⟩
    | text :: _ => .error (scope.unexpected true text)

end Checkout.CommandLine
