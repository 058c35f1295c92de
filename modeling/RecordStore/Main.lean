import RecordStore.CommandLine.Run
import RecordStore.Json.Printer
import RecordStore.Time.Clock
import RecordStore.Ulid
import Std.Time.DateTime.Timestamp

namespace RecordStore.Program

def version : String :=
  "tessera 0.1.0"

def usage : String :=
  "Usage: tessera [OPTIONS] <COMMAND>\n\n" ++
    "Commands:\n" ++
    "  lint  Check the schema and print every lint issue\n" ++
    "  run   Execute a JSON operation script against a fresh store\n" ++
    "  help  Print this message or the help of the given subcommand(s)\n\n" ++
    "Options:\n" ++
    "  -s, --schema <SCHEMA>                Schema JSON file\n" ++
    "      --catalogs <CATALOGS>            " ++
    "Directory of enum catalog JSON files\n" ++
    "  -c, --config <CONFIG>                JSON config file\n" ++
    "      --default-limit <DEFAULT_LIMIT>  " ++
    "Page size for list operations without a limit\n" ++
    "      --max-limit <MAX_LIMIT>          " ++
    "Upper bound on requested page sizes\n" ++
    "      --nulls <NULLS>                  " ++
    "Default null placement when sorting (first or last)\n" ++
    "  -h, --help                           Print help\n" ++
    "  -V, --version                        Print version"

def readText? (path : String) : IO (Option String) := do
  try
    pure (some (← IO.FS.readFile path))
  catch _ =>
    pure none

def fileNames? (path : String) : IO (Option (List String)) := do
  try
    let directory ← IO.FS.realPath path
    let entries ← directory.readDir
    let mut names := []
    for entry in entries do
      let kind ← try pure (some (← entry.path.metadata).type) catch _ =>
        pure none
      if kind == some .file then
        names := entry.fileName :: names
    pure (some names)
  catch _ =>
    pure none

def files : Files IO := ⟨readText?, fileNames?⟩

/-! Ids and times: each run starts at chance, and its writes are a nanosecond
apart. -/

def surroundings : IO (Surroundings IO) := do
  let now := (← Std.Time.Timestamp.now).toNanosecondsSinceUnixEpoch.val.toNat
  let bytes ← IO.getRandomBytes 10
  let chance := bytes.foldl (fun n byte => n * 256 + byte.toNat) 0
  let first := Ulid.ofParts (now / 1000000) chance
  pure ⟨files, fun n => Ulid.text (first + n),
    fun n => Instant.ofNanoseconds (now + n)⟩

def report (ending : Ending) : IO Unit := do
  match ending with
  | .stopped .help => IO.println usage
  | .stopped .version => IO.println version
  | .stopped .misuse => IO.eprintln usage
  | .failed failure => IO.eprintln ("Error: " ++ failure.message)
  | _ =>
    for line in ending.lines Instant.text do
      IO.println line.compress

end RecordStore.Program

def main (arguments : List String) : IO UInt32 := do
  let ending ← RecordStore.Arguments.run (← RecordStore.Program.surroundings)
    arguments
  RecordStore.Program.report ending
  pure ending.exitCode.toUInt32
