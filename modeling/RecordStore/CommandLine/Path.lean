import RecordStore.Text.Split

namespace RecordStore.Path

def isAbsolute (path : String) : Bool :=
  path.toList.head? = some '/'

/-- The path of `path` seen from `base`; an absolute one stands for itself. -/
def join (base path : String) : String :=
  if isAbsolute path || base = "" then path
  else if base.toList.getLast? = some '/' then base ++ path
  else base ++ "/" ++ path

def parts (path : String) : List String :=
  (Text.splitOn '/' path.toList).map String.ofList

/-- Drops slashes, and parts that stay where they are, from the end of a
reversed path. -/
def trimReversed : List Char → List Char
  | '/' :: rest => trimReversed rest
  | '.' :: '/' :: rest => trimReversed rest
  | cs => cs

def parent? (path : String) : Option String :=
  let body := trimReversed path.toList.reverse
  if body.isEmpty then none
  else
    let before := body.dropWhile (· != '/')
    let trimmed := trimReversed before
    if trimmed.isEmpty && !before.isEmpty then some "/"
    else some (String.ofList trimmed.reverse)

/-- A file name before its last dot and after it; a dot in front of the name is
part of it. -/
def splitName (name : String) : String × Option String :=
  match Text.splitLast? ['.'] name.toList with
  | some (before, after) =>
    if name = ".." || before.isEmpty then (name, none)
    else (String.ofList before, some (String.ofList after))
  | none => (name, none)

end RecordStore.Path
