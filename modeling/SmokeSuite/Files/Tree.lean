import SmokeSuite.Files.SystemError
import SmokeSuite.Text.Line
import SmokeSuite.Text.Utf8

namespace SmokeSuite

/-- What stands behind an entry that is no file. -/
inductive Device where
  /-- Is empty and takes everything. -/
  | nothing
  /-- Holds zeros without an end. -/
  | zeros
  /-- Holds zeros and takes nothing. -/
  | full
  deriving DecidableEq, Inhabited

inductive FileEntry where
  | directory
  | file (content : List UInt8) (executable : Bool)
  | device (d : Device)
  deriving DecidableEq, Inhabited

/-- Entries by the names that lead to them from the root. The directories that hold an entry exist
with it. -/
structure FileTree where
  entries : List (List String × FileEntry) := []
  deriving Inhabited

/-- A place in a tree: the names that lead to it from the root. -/
abbrev Location := List String

namespace FileTree

def entry? (t : FileTree) (l : Location) : Option FileEntry :=
  match t.entries.lookup l with
  | some e => some e
  | none => if l.isEmpty || t.entries.any (fun e => l.isPrefixOf e.1) then some .directory else none

def insert (t : FileTree) (l : Location) (e : FileEntry) : FileTree :=
  ⟨(l, e) :: t.entries.filter (·.1 != l)⟩

/-- Puts a directory at a location if nothing is written down for it. -/
def ensure (t : FileTree) (l : Location) : FileTree :=
  if (t.entries.lookup l).isSome then t else t.insert l .directory

/-- Takes away a location with all below it. The directory that holds it stays. -/
def erase (t : FileTree) (l : Location) : FileTree :=
  ensure ⟨t.entries.filter fun e => !l.isPrefixOf e.1⟩ l.dropLast

def below (t : FileTree) (l : Location) : List (List String × FileEntry) :=
  t.entries.filterMap fun e => if l.isPrefixOf e.1 then some (e.1.drop l.length, e.2) else none

def move (t : FileTree) (source target : Location) : FileTree :=
  ((t.below source).reverse.foldl (fun u (names, e) => u.insert (target ++ names) e) (t.erase source))

def names (t : FileTree) (l : Location) : List String :=
  (t.entries.filterMap fun e =>
    if l.isPrefixOf e.1 then (e.1.drop l.length).head? else none).eraseDups

def maxNameLength : Nat := 255

/-- How many bytes a path has to stay below. -/
def pathLimit : Nat := 4096

def step (t : FileTree) (l : Location) (name : String) : Except SystemError Location :=
  match t.entry? l with
  | some .directory =>
    if name == "" || name == "." then .ok l
    else if name == ".." then .ok l.dropLast
    else if name.utf8ByteSize > maxNameLength then .error .nameTooLong
    else if (t.entry? (l ++ [name])).isSome then .ok (l ++ [name])
    else .error .notFound
  | some _ => .error .notDirectory
  | none => .error .notFound

/-- The names in a path, with an empty one where a slash stands at an end or beside another. -/
def parts (path : String) : List String := (Text.partsAt '/' path.toList).map String.ofList

def isAbsolute (path : String) : Bool := path.toList.head? == some '/'

def follow (t : FileTree) (base : Location) (path : String) :
    Except SystemError (Location × FileEntry) := do
  if path == "" then throw .notFound
  if path.utf8ByteSize ≥ pathLimit then throw .nameTooLong
  let l ← (parts path).foldlM t.step (if isAbsolute path then [] else base)
  match t.entry? l with
  | some e => pure (l, e)
  | none => throw .notFound

/-- The bytes of a file. A device counts as empty here, since one that is not has no end. -/
def readBytes (t : FileTree) (base : Location) (path : String) : Except SystemError (List UInt8) := do
  match ← t.follow base path with
  | (_, .file content _) => pure content
  | (_, .device _) => pure []
  | (_, .directory) => throw .isDirectory

/-- Whether a text holds a zero character, which no path or argument may. -/
def hasZero (s : String) : Bool := s.toList.contains '\x00'

def readText (t : FileTree) (base : Location) (path : String) : Except TextError String := do
  if hasZero path then throw .zeroInPath
  let bytes ← (t.readBytes base path).mapError .system
  match Text.Utf8.decode? bytes with
  | some s => pure (String.ofList s)
  | none => throw .notText

def isExecutable (t : FileTree) (base : Location) (path : String) : Bool :=
  !hasZero path && match t.follow base path with
    | .ok (_, .file _ executable) => executable
    | _ => false

def placeFor (t : FileTree) (base : Location) (path : String) : Except SystemError Location := do
  if path == "" then throw .notFound
  let names := parts path
  let trimmed := (names.reverse.dropWhile (· == "")).reverse
  let above := trimmed.dropLast
  let start := if isAbsolute path then [] else base
  let l ← above.foldlM t.step start
  match t.entry? l, trimmed.getLast? with
  | some .directory, some name =>
    if name.utf8ByteSize > maxNameLength then throw .nameTooLong
    return l ++ [name]
  | some .directory, none => throw .isDirectory
  | some _, _ => throw .notDirectory
  | none, _ => throw .notFound

def at? (t : FileTree) (base : Location) (path : String) : Option FileEntry :=
  match t.follow base path with
  | .ok (_, e) => some e
  | .error _ => none

def absolutePath (l : Location) : String :=
  if l.isEmpty then "/" else String.join (l.map ("/" ++ ·))

end FileTree

end SmokeSuite
