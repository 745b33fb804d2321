import SmokeSuite.Files.Tree

namespace SmokeSuite

namespace PathText

/-- The components of a path: the root, and the names but for those that stand for the directory
itself, of which only one in front counts. -/
def components (path : String) : List String :=
  let parts := FileTree.parts path
  let isName (part : String) : Bool := part != "" && part != "."
  if FileTree.isAbsolute path then "/" :: parts.filter isName
  else match parts with
    | "." :: rest => "." :: rest.filter isName
    | parts => parts.filter isName

/-- A path behind another one. An absolute path stays as it is. -/
def join (base path : String) : String :=
  if FileTree.isAbsolute path || base == "" then path
  else if base.toList.getLast? == some '/' then base ++ path
  else base ++ "/" ++ path

def isCompound (path : String) : Bool := (components path).length > 1

end PathText

structure SearchPath where
  /-- Directories with colons between them. -/
  text : String
  /-- The directory from which longer names lead. -/
  directory : String
  /-- The directory that a tilde stands for. -/
  home : Option String := none
  deriving DecidableEq, Inhabited

namespace SearchPath

/-- A directory of the search path, with the tilde in front of it written out. -/
def expandTilde (s : SearchPath) (dir : String) : String :=
  match PathText.components dir, s.home with
  | "~" :: rest, some home => rest.foldl PathText.join home
  | _, _ => dir

def directories (s : SearchPath) : List String :=
  (Text.partsAt ':' s.text.toList).map fun dir => s.expandTilde (String.ofList dir)

/-- The paths at which a name is looked for. -/
def candidates (s : SearchPath) (name : String) : List String :=
  if !PathText.isCompound name then s.directories.map (PathText.join · name)
  else if FileTree.isAbsolute name then [name]
  else [((PathText.components name).dropWhile (· == ".")).foldl PathText.join s.directory]

def find (s : SearchPath) (canRun : String → Bool) (name : String) : Option String :=
  (s.candidates name).find? canRun

end SearchPath

/-- The program to run for a name: the tool of that name if there is one, and else the name itself. -/
def resolveProgram (locate : String → Option String) (name : String) : String :=
  if PathText.isCompound name then name else (locate name).getD name

end SmokeSuite
