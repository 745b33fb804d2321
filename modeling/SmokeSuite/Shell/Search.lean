import SmokeSuite.Kernel.Image
import SmokeSuite.Shell.Session

namespace SmokeSuite.Shell

def ownCommands : List String :=
  [".", ":", "[", "alias", "bg", "break", "cd", "chdir", "command", "continue", "echo", "eval", "exec",
    "exit", "export", "false", "fg", "getopts", "hash", "jobs", "kill", "local", "printf", "pwd",
    "read", "readonly", "return", "set", "shift", "test", "times", "trap", "true", "type", "ulimit",
    "umask", "unalias", "unset", "wait"]

def isOwnCommand (name : Octets) : Bool := ownCommands.contains (String.ofList name)

/-- The commands whose arguments are expanded like assignments if they look like them. -/
def takesAssignments (name : Octets) : Bool :=
  ["alias", "export", "local", "readonly"].contains (String.ofList name)

inductive Found where
  | function (body : Command)
  | own (name : Octets)
  | program (place : Octets)
  | missing (cause : SystemError)
  deriving Inhabited

namespace Search

def pathVariable : Octets := "PATH".toList

def standardPath : Octets :=
  "/usr/local/sbin:/usr/local/bin:/usr/sbin:/usr/bin:/sbin:/bin".toList

def searchPath : Run Octets := do return ((← get).value? pathVariable).getD []

def text (e : SystemError) : Octets :=
  (if e == .notFound || e == .notDirectory then "not found" else e.reason).toList

/-- The first place of a program among several, or why there is none. -/
def firstPlace (files : FileTree) (directory : Location) :
    List Octets → SystemError → Except SystemError Octets
  | [], failure => .error failure
  | place :: rest, failure =>
    match files.follow directory place.toPath with
    | .ok (_, .file _ true) => .ok place
    | .ok _ => firstPlace files directory rest .permissionDenied
    | .error e =>
      firstPlace files directory rest (if e == .notFound || e == .notDirectory then failure else e)

def program (path name : Octets) : Run (Except SystemError Octets) := do
  let files ← Run.ask Act.files
  let directory ← Run.ask Act.directory
  return firstPlace files directory (Image.places path name) .notFound

/-- What a name stands for. `path` takes the place of the search path. -/
def command (name : Octets) (functions : Bool) (path : Option Octets) : Run Found := do
  if name.contains '/' then return .program name
  let s ← get
  match if functions then s.functions.lookup name else none with
  | some body => return .function body
  | none =>
    if isOwnCommand name then return .own name
    match if path.isNone then s.remembered.lookup name else none with
    | some place => return .program place
    | none =>
      match ← program (path.getD (← searchPath)) name with
      | .error e => return .missing e
      | .ok place => do
        if path.isNone then
          modify fun s => { s with remembered := s.remembered ++ [(name, place)] }
        return .program place

def missingStatus : Nat := 127

def complain (name : Octets) (found : Found) : Run Unit := do
  match found with
  | .missing e => Run.warn (name ++ [':', ' '] ++ text e)
  | _ => pure ()

end Search

end SmokeSuite.Shell
