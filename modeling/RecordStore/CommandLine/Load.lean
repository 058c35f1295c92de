import RecordStore.CommandLine.Configuration
import RecordStore.Script

namespace RecordStore

namespace Files

variable {m : Type → Type} [Monad m]

def catalogNames (names : List String) : List String :=
  (names.filter fun name => (Path.splitName name).2 = some "json").mergeSort
    fun a b => a ≤ b

def catalogs (files : Files m) (directory : String) :
    ExceptT Failure m (List Catalog) := do
  match ← files.fileNames? directory with
  | none => throw (.unreadable directory)
  | some names =>
    (catalogNames names).mapM fun name =>
      files.document (Path.join directory name)
        (Catalog.ofFileDocument? (Path.splitName name).1)

def script (files : Files m) (path : String) :
    ExceptT Failure m (List Operation) := do
  let text ← files.text path
  match Operation.readScript? text with
  | some operations => pure operations
  | none => throw (.malformed path)

end Files

namespace Configuration

variable {m : Type → Type} [Monad m]

def schemaFile (configuration : Configuration) (files : Files m) :
    ExceptT Failure m Schema := do
  let text ← files.text configuration.schemaPath
  ExceptT.mk (pure ((Schema.read text).mapError
    (.ofSchemaProblem configuration.schemaPath)))

def schema (configuration : Configuration) (files : Files m) :
    ExceptT Failure m Schema := do
  let schema ← configuration.schemaFile files
  match configuration.catalogsPath with
  | none => pure schema
  | some directory =>
    let catalogs ← files.catalogs directory
    pure (catalogs.foldl Schema.addCatalog schema)

end Configuration

end RecordStore
