import RecordStore.Number.Decimal
import RecordStore.Text.Split

namespace RecordStore

inductive Command where
  | lint
  | run (script : String)
deriving DecidableEq, Inhabited

structure Options where
  schema : Option String := none
  catalogs : Option String := none
  config : Option String := none
  defaultLimit : Option Nat := none
  maxLimit : Option Nat := none
  nulls : Option String := none
deriving DecidableEq, Inhabited

structure Arguments where
  options : Options
  command : Command
deriving DecidableEq, Inhabited

namespace Arguments

inductive Stop where
  | help
  | version
  | misuse
deriving DecidableEq

inductive Switch where
  | schema
  | catalogs
  | config
  | defaultLimit
  | maxLimit
  | nulls
deriving DecidableEq

namespace Switch

def long? : List Char → Option Switch
  | cs =>
    match String.ofList cs with
    | "schema" => some .schema
    | "catalogs" => some .catalogs
    | "config" => some .config
    | "default-limit" => some .defaultLimit
    | "max-limit" => some .maxLimit
    | "nulls" => some .nulls
    | _ => none

def short? : Char → Option Switch
  | 's' => some .schema
  | 'c' => some .config
  | _ => none

end Switch

/-- Fills in a value; an option can be given once. -/
def fill {α : Type} (current value : Option α) : Except Stop (Option α) :=
  match current, value with
  | none, some a => .ok (some a)
  | _, _ => .error .misuse

def path? (value : List Char) : Option String :=
  if value.isEmpty then none else some (String.ofList value)

def assign (options : Options) (switch : Switch) (value : List Char) :
    Except Stop Options :=
  match switch with
  | .schema => do
    pure { options with schema := ← fill options.schema (path? value) }
  | .catalogs => do
    pure { options with catalogs := ← fill options.catalogs (path? value) }
  | .config => do
    pure { options with config := ← fill options.config (path? value) }
  | .defaultLimit => do
    pure { options with
      defaultLimit := ← fill options.defaultLimit (Decimal.word? value) }
  | .maxLimit => do
    pure { options with
      maxLimit := ← fill options.maxLimit (Decimal.word? value) }
  | .nulls => do
    pure { options with
      nulls := ← fill options.nulls (some (String.ofList value)) }

inductive Token where
  /-- Two hyphens alone: what follows are no options. -/
  | divider
  /-- A long option, with the text after an equals sign. -/
  | long (name : List Char) (value : Option (List Char))
  | short (letter : Char) (rest : List Char)
  | word (cs : List Char)

def Token.ofChars : List Char → Token
  | ['-', '-'] => .divider
  | '-' :: '-' :: cs =>
    match Text.splitFirst? '=' cs with
    | some (name, value) => .long name (some value)
    | none => .long cs none
  | '-' :: letter :: rest => .short letter rest
  | cs => .word cs

/-- What stands after the letter of an option is its value, with or without an
equals sign. -/
def attached? : List Char → Option (List Char)
  | [] => none
  | '=' :: value => some value
  | value => some value

def Token.word? : Token → Option (List Char)
  | .word cs => some cs
  | _ => none

def readLint : List Token → Except Stop Command
  | [] | [.divider] => .ok .lint
  | .short 'h' _ :: _ => .error .help
  | .long ['h', 'e', 'l', 'p'] none :: _ => .error .help
  | _ => .error .misuse

def isScript (name : List Char) : Bool :=
  name = "script".toList

def readRun (script : Option String) : List Token → Except Stop Command
  | [] | [.divider] =>
    match script with
    | some path => .ok (.run path)
    | none => .error .misuse
  | .short 'h' _ :: _ => .error .help
  | .long name none :: .word value :: rest =>
    if isScript name then do readRun (← fill script (path? value)) rest
    else if name = "help".toList then .error .help
    else .error .misuse
  | .long name none :: _ =>
    .error (if name = "help".toList then .help else .misuse)
  | .long name (some value) :: rest =>
    if isScript name then do readRun (← fill script (path? value)) rest
    else .error .misuse
  | _ => .error .misuse

def readHelp : List Token → Stop
  | [] => .help
  | [.word cs] =>
    if ["lint", "run", "help"].contains (String.ofList cs) then .help
    else .misuse
  | _ => .misuse

/-- An option whose value stood in an argument of its own; it is looked at when
the next option comes, or after the command. -/
abbrev Pending := Option (Switch × List Char)

def settle (options : Options) : Pending → Except Stop Options
  | none => .ok options
  | some (switch, value) => assign options switch value

def finish (options : Options) (pending : Pending)
    (command : Except Stop Command) : Except Stop Arguments := do
  let command ← command
  pure ⟨← settle options pending, command⟩

/-- Stops after the option before has been looked at. -/
def stopAfter (options : Options) (pending : Pending) (stop : Stop) :
    Except Stop Arguments := do
  let _ ← settle options pending
  throw stop

def shown? (name : List Char) : Option Stop :=
  if name = "help".toList then some .help
  else if name = "version".toList then some .version
  else none

def readTokens (options : Options) (pending : Pending) :
    List Token → Except Stop Arguments
  | [] => .error .misuse
  | .word cs :: rest =>
    match String.ofList cs with
    | "lint" => finish options pending (readLint rest)
    | "run" => finish options pending (readRun none rest)
    | "help" => .error (readHelp rest)
    | _ => .error .misuse
  | .divider :: _ => .error .misuse
  | .long name (some value) :: rest =>
    match Switch.long? name with
    | some switch => do
      let options ← settle options pending
      readTokens (← assign options switch value) none rest
    | none => .error .misuse
  | .long name none :: .word value :: rest =>
    match Switch.long? name with
    | some switch => do
      readTokens (← settle options pending) (some (switch, value)) rest
    | none =>
      match shown? name with
      | some stop => stopAfter options pending stop
      | none => .error .misuse
  | .long name none :: _ =>
    match shown? name with
    | some stop => stopAfter options pending stop
    | none => .error .misuse
  | .short 'h' _ :: _ => stopAfter options pending .help
  | .short 'V' _ :: _ => stopAfter options pending .version
  | .short letter value :: rest =>
    match Switch.short? letter, attached? value with
    | none, _ => .error .misuse
    | some switch, some value => do
      let options ← settle options pending
      readTokens (← assign options switch value) none rest
    | some switch, none =>
      match rest with
      | .word value :: rest => do
        readTokens (← settle options pending) (some (switch, value)) rest
      | _ => .error .misuse

def read (arguments : List String) : Except Stop Arguments :=
  readTokens {} none (arguments.map fun s => Token.ofChars s.toList)

end Arguments

end RecordStore
