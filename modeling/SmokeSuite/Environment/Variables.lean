import SmokeSuite.Environment.Dotenv
import SmokeSuite.Environment.Snapshot
import SmokeSuite.Failure
import SmokeSuite.Files.Tree

namespace SmokeSuite

/-- The variables of a process. Their values need not be text. -/
abbrev ProcessVariables := List (String × List UInt8)

namespace ProcessVariables

/-- The value of a variable, if it is set to text. No variable has an empty name or one with an
equals sign or a zero character. -/
def text? (vs : ProcessVariables) (name : String) : Option String :=
  if name == "" || name.toList.contains '=' || FileTree.hasZero name then none
  else ((vs.lookup name).bind Text.Utf8.decode?).map String.ofList

/-- Whether a variable has a value that is not empty. -/
def isFilled (vs : ProcessVariables) (name : String) : Bool :=
  (vs.lookup name).any fun value => !value.isEmpty

end ProcessVariables

/-- What dotenv files have defined, in the order in which they were read. -/
abbrev Definitions := List Dotenv.Definition

namespace Definitions

def get? (ds : Definitions) (name : String) : Option String := ds.reverse.lookup name

/-- Reads files one after the other. The first that cannot be read ends this; what was read before it
stays. -/
def merge (readText : String → Except TextError String) (ds : Definitions) :
    List String → Definitions × Option Failure
  | [] => (ds, none)
  | path :: rest =>
    match readText path with
    | .ok content => merge readText (ds ++ Dotenv.parse content) rest
    | .error cause => (ds, some (.unreadableVariables path cause))

end Definitions

/-- The value of a variable: the process's if it is text and not empty, and else the files'. -/
def lookupVariable (process : ProcessVariables) (files : Definitions) (name : String) :
    Option String :=
  (Snapshot.nonEmpty (process.text? name)).or (files.get? name)

namespace HostRelease

def paths : List String := ["/etc/os-release", "/usr/lib/os-release"]

def idVariable : String := "ID"

/-- The host's name for its operating system, from the first file that gives one. -/
def osId (readText : String → Except TextError String) : Option String :=
  paths.findSome? fun path =>
    match readText path with
    | .ok content => (Dotenv.parse content).lookup idVariable
    | .error _ => none

end HostRelease

end SmokeSuite
