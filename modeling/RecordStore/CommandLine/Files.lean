import RecordStore.CommandLine.Path

namespace RecordStore

/-- How a run looks at files; a file or directory that cannot be read gives
none. -/
structure Files (m : Type → Type) where
  read? : String → m (Option String)
  fileNames? : String → m (Option (List String))

structure FileTree where
  files : List (List String × String) := []
  directories : List (List String) := []
deriving Inhabited

namespace FileTree

def addFile (tree : FileTree) (path content : String) : FileTree :=
  { tree with files := (Path.parts path, content) :: tree.files }

def addDirectory (tree : FileTree) (path : String) : FileTree :=
  { tree with directories := Path.parts path :: tree.directories }

def content? (tree : FileTree) (place : List String) : Option String :=
  (tree.files.find? (·.1 == place)).map Prod.snd

def isDirectory (tree : FileTree) (place : List String) : Bool :=
  place.isEmpty || tree.directories.any place.isPrefixOf ||
    tree.files.any fun (path, _) =>
      path.length > place.length && place.isPrefixOf path

def walk? (tree : FileTree) (place : List String) :
    List String → Option (List String)
  | [] => some place
  | part :: rest =>
    if !tree.isDirectory place then none
    else if part = "" || part = "." then tree.walk? place rest
    else if part = ".." then
      if place.isEmpty then none else tree.walk? place.dropLast rest
    else
      let next := place ++ [part]
      if tree.isDirectory next || (tree.content? next).isSome then
        tree.walk? next rest else none

def locate? (tree : FileTree) (path : String) : Option (List String) :=
  if path = "" || Path.isAbsolute path then none
  else tree.walk? [] (Path.parts path)

def fileNames (tree : FileTree) (place : List String) : List String :=
  tree.files.filterMap fun (path, _) =>
    if path.length = place.length + 1 && place.isPrefixOf path then
      path.getLast?
    else none

def access (tree : FileTree) : Files Id where
  read? path := (tree.locate? path).bind tree.content?
  fileNames? path :=
    (tree.locate? path).bind fun place =>
      if tree.isDirectory place then some (tree.fileNames place) else none

end FileTree

end RecordStore
