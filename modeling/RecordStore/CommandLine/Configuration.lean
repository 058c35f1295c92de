import RecordStore.CommandLine.Arguments
import RecordStore.CommandLine.Failure
import RecordStore.CommandLine.Files
import RecordStore.Settings

namespace RecordStore

open Json (Document)
open Json.Document

structure Configuration where
  schemaPath : String := "./schema.json"
  catalogsPath : Option String := none
  settings : Settings := {}
deriving DecidableEq, Inhabited

namespace Files

variable {m : Type → Type} [Monad m]

def text (files : Files m) (path : String) : ExceptT Failure m String := do
  match ← files.read? path with
  | some text => pure text
  | none => throw (.unreadable path)

def document {α : Type} (files : Files m) (path : String)
    (value? : Document → Option α) : ExceptT Failure m α := do
  let text ← files.text path
  match (Document.read? text).bind value? with
  | some value => pure value
  | none => throw (.malformed path)

end Files

structure ConfigurationFile where
  schema : Option String := none
  catalogs : Option String := none
  settings : Settings := {}
deriving DecidableEq, Inhabited

namespace ConfigurationFile

def ofDocument? (document : Document) : Option ConfigurationFile :=
  match structure? ["schema", "catalogs", "store"] document with
  | some [schema, catalogs, settings] => do
    let schema ← optional? none (nullable? text?) schema
    let catalogs ← optional? none (nullable? text?) catalogs
    let settings ← optional? {} Settings.ofDocument? settings
    pure ⟨schema, catalogs, settings⟩
  | _ => none

def placedAt (file : ConfigurationFile) (path : String) : ConfigurationFile :=
  let base := (Path.parent? path).getD "."
  { file with schema := file.schema.map (Path.join base),
              catalogs := file.catalogs.map (Path.join base) }

end ConfigurationFile

namespace Options

def nullPlacement (options : Options) (usual : NullPlacement) :
    Except Failure NullPlacement :=
  match options.nulls with
  | some word => (NullPlacement.read word).mapError .badNulls
  | none => .ok usual

def settings (options : Options) (usual : Settings) :
    Except Failure Settings := do
  let defaultLimit := options.defaultLimit.getD usual.defaultLimit
  let maxLimit := options.maxLimit.getD usual.maxLimit
  let defaultNulls ← options.nullPlacement usual.defaultNulls
  if defaultLimit = 0 ∨ maxLimit = 0 then throw .noPageLimit
  pure { usual with defaultLimit, maxLimit, defaultNulls }

def applyTo (options : Options) (file : ConfigurationFile) :
    Except Failure Configuration := do
  let usual : Configuration := {}
  let settings ← options.settings file.settings
  let schemaPath := (options.schema.or file.schema).getD usual.schemaPath
  pure ⟨schemaPath, options.catalogs.or file.catalogs, settings⟩

variable {m : Type → Type} [Monad m]

def file (options : Options) (files : Files m) :
    ExceptT Failure m ConfigurationFile :=
  match options.config with
  | some path => do
    let file ← files.document path ConfigurationFile.ofDocument?
    pure (file.placedAt path)
  | none => pure {}

def configuration (options : Options) (files : Files m) :
    ExceptT Failure m Configuration := do
  let file ← options.file files
  ExceptT.mk (pure (options.applyTo file))

end Options

end RecordStore
