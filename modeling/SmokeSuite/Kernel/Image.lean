import SmokeSuite.Files.Tree
import SmokeSuite.Text.Octets

namespace SmokeSuite

inductive Image where
  | native (name : Octets)
  | script (interpreter : Octets) (argument : Option Octets)
  deriving DecidableEq, Inhabited

namespace Image

/-- What a program of the machine begins with; its name follows. -/
def mark : Octets := ['\x7f', 'E', 'L', 'F']

def hashBang : Octets := ['#', '!']

def isBlank (c : Char) : Bool := c == ' ' || c == '\t'

def trimBlanks (s : Octets) : Octets :=
  ((s.dropWhile isBlank).reverse.dropWhile isBlank).reverse

def ofContent? (content : Octets) : Option Image :=
  if mark.isPrefixOf content then some (.native (content.drop mark.length))
  else if hashBang.isPrefixOf content then
    let line := trimBlanks ((content.drop hashBang.length).takeWhile (· != '\n'))
    let interpreter := line.takeWhile fun c => !isBlank c
    let argument := trimBlanks (line.drop interpreter.length)
    if interpreter.isEmpty then none
    else some (.script interpreter (if argument.isEmpty then none else some argument))
  else none

def nativeEntry (name : String) : FileEntry :=
  .file (mark.toBytes ++ (Octets.ofString name).toBytes) true

/-- How many scripts may be each other's interpreters. -/
def maxDepth : Nat := 5

/-- The program of the machine that runs for a path in the end, and its words, the first of which is
its name. A script is handed to its interpreter as an argument. -/
def resolve (files : FileTree) (directory : Location) :
    Nat → Octets → List Octets → Except SystemError (Octets × List Octets)
  | 0, _, _ => .error .tooManyLinks
  | depth + 1, path, words => do
    match ← files.follow directory path.toPath with
    | (_, .directory) | (_, .device _) => .error .permissionDenied
    | (_, .file content executable) =>
      if !executable then .error .permissionDenied
      else match ofContent? (Octets.ofBytes content) with
        | none => .error .badFormat
        | some (.native name) => .ok (name, words)
        | some (.script interpreter argument) =>
          resolve files directory depth interpreter
            (interpreter :: argument.toList ++ path :: words.drop 1)

def shellPath : Octets := "/bin/sh".toList

def maxArgument : Nat := 131072

/-- Resolves a place where a text that is no program is handed to a shell. -/
def resolveText (files : FileTree) (directory : Location) (place : Octets) (words : List Octets) :
    Except SystemError (Octets × List Octets) :=
  if words.any (·.length ≥ maxArgument) then .error .argumentTooLong
  else match resolve files directory maxDepth place words with
    | .error .badFormat =>
      resolve files directory maxDepth shellPath (shellPath :: place :: words.drop 1)
    | found => found

/-- The places of a name along a search path; an empty directory is the one at hand. -/
def places (searchPath name : Octets) : List Octets :=
  if name.contains '/' then [name]
  else (Text.partsAt ':' searchPath).map fun dir =>
    if dir.isEmpty then name else if dir.getLast? == some '/' then dir ++ name
    else dir ++ '/' :: name

/-- Resolves the first of some places at which there is a program, with a function that resolves one. A
place that may not be run is passed over, but it is told if there is no other; else what is wrong with the
last place is told. -/
def search (resolve : Octets → Except SystemError (Octets × List Octets)) :
    List Octets → SystemError → Except SystemError (Octets × List Octets)
  | [], failure => .error failure
  | place :: rest, failure =>
    match resolve place with
    | .ok found => .ok found
    | .error .permissionDenied => search resolve rest .permissionDenied
    | .error e =>
      if e == .notFound || e == .notDirectory then
        search resolve rest (if failure == .permissionDenied then failure else e)
      else .error e

end Image

end SmokeSuite
