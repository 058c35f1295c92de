import RecordStore.CommandLine.Load

namespace RecordStore

structure Surroundings (m : Type → Type) where
  files : Files m
  ids : Nat → String
  clock : Nat → Instant

inductive Ending where
  | stopped (stop : Arguments.Stop)
  | failed (failure : Failure)
  | checked (issues : List Issue)
  | ran (outcomes : List Outcome)

namespace Ending

/-- A failure ends with 1, and so do flaws of a schema; misused arguments end
with 2. -/
def exitCode : Ending → UInt8
  | .stopped .misuse => 2
  | .stopped _ => 0
  | .failed _ => 1
  | .checked issues => if issues.isEmpty then 0 else 1
  | .ran _ => 0

def issueJson (issue : Issue) : Json :=
  .object [("entity", .string issue.entity), ("field", .string issue.field),
    ("code", .string issue.flaw.code), ("message", .string issue.flaw.message)]

def lines (time : Instant → String) : Ending → List Json
  | .checked issues => issues.map issueJson
  | .ran outcomes => outcomes.map (Outcome.toJson time)
  | _ => []

end Ending

namespace Arguments

variable {m : Type → Type} [Monad m]

/-- The script is read before the schema is checked. -/
def runCommand (surroundings : Surroundings m) (configuration : Configuration)
    (schema : Schema) : Command → ExceptT Failure m Ending
  | .lint => pure (.checked schema.lint)
  | .run path => do
    let operations ← surroundings.files.script path
    match Database.start schema configuration.settings surroundings.ids
      surroundings.clock with
    | .error error => throw (.store error)
    | .ok db => pure (.ran (runScript db operations).2)

def runAll (surroundings : Surroundings m) (arguments : Arguments) :
    ExceptT Failure m Ending := do
  let configuration ← arguments.options.configuration surroundings.files
  let schema ← configuration.schema surroundings.files
  runCommand surroundings configuration schema arguments.command

def run (surroundings : Surroundings m) (arguments : List String) : m Ending :=
  match read arguments with
  | .error stop => pure (.stopped stop)
  | .ok arguments => do
    match ← (arguments.runAll surroundings).run with
    | .ok ending => pure ending
    | .error failure => pure (.failed failure)

end Arguments

end RecordStore
