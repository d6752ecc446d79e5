/-!
# Log records

A record has a level, the part of the program that wrote it, and a message. `Record.line` is its form
on the error stream.
-/

namespace Checkout

/-- How severe a record is, most severe first. -/
inductive Level where
  | error
  | warn
  | info
  | debug
  | trace
  deriving DecidableEq, Repr

namespace Level

/-- The place in the order of severity. -/
def rank : Level → Nat
  | .error => 1
  | .warn => 2
  | .info => 3
  | .debug => 4
  | .trace => 5

def name : Level → String
  | .error => "ERROR"
  | .warn => "WARN"
  | .info => "INFO"
  | .debug => "DEBUG"
  | .trace => "TRACE"

end Level

/-- The part of the program that writes a record. -/
inductive Part where
  | clone
  | merge
  | workspace
  | result
  | credentials
  | symlink
  | git
  | retry
  | executor
  deriving DecidableEq, Repr

/-- The name of the part in a log. -/
def Part.path : Part → String
  | .clone => "pipeline_helper::clone"
  | .merge => "pipeline_helper::clone::merge"
  | .workspace => "pipeline_helper::clone::workspace"
  | .result => "pipeline_helper::clone::result"
  | .credentials => "pipeline_helper::credentials"
  | .symlink => "pipeline_helper::symlink"
  | .git => "pipeline_helper::git"
  | .retry => "pipeline_helper::retry"
  | .executor => "pipeline_helper::executor"

/-- One entry of a log. -/
structure Record where
  level : Level
  part : Part
  message : String
  deriving DecidableEq, Repr

namespace Record

/-- The record as a line: the level in five columns, the part, the message. Further lines of the
message are indented. -/
def line (r : Record) : String :=
  "[" ++ r.level.name.pushn ' ' (5 - r.level.name.length) ++ " " ++ r.part.path ++ "] " ++
    r.message.replace "\n" "\n    " ++ "\n"

/-- The record is at least as severe as a level. -/
def isShown (limit : Level) (r : Record) : Bool := r.level.rank ≤ limit.rank

end Record

/-- How much of a log is shown. -/
inductive Verbosity where
  | nothing
  /-- Records that are at least as severe as a level. -/
  | downTo (limit : Level)
  deriving DecidableEq, Repr

namespace Verbosity

/-- The words for how much is shown. -/
def words : List (String × Verbosity) :=
  [("off", .nothing), ("error", .downTo .error), ("warn", .downTo .warn), ("info", .downTo .info),
    ("debug", .downTo .debug), ("trace", .downTo .trace)]

/-- The meaning of a word, in capitals or not. -/
def ofText? (text : String) : Option Verbosity :=
  words.lookup (String.ofList (text.toList.map Char.toLower))

/-- The lines of a log that are shown. -/
def lines (v : Verbosity) (log : List Record) : List String :=
  match v with
  | .nothing => []
  | .downTo limit => (log.filter (·.isShown limit)).map Record.line

end Verbosity

end Checkout
