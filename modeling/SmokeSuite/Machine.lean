import SmokeSuite.Environment.Variables
import SmokeSuite.SearchPath
import SmokeSuite.Invocation
import SmokeSuite.Kernel.Basic
import SmokeSuite.Launch

namespace SmokeSuite

/-- The machine that a suite runs on. It reads texts, finds tools and runs programs, which may change the
files. -/
structure Machine where
  files : FileTree
  directory : Location := []
  bindings : ProcessVariables := []
  system : HostSystem := .linux
  deriving Inhabited

namespace Machine

def programDirectories : List Location := [["usr", "bin"], ["bin"]]

def otherDirectories : List Location :=
  ["boot", "dev", "etc", "home", "lib", "media", "mnt", "opt", "proc", "root", "run", "sbin", "srv", "sys",
    "tmp", "usr", "var"].map ([·]) ++
  ["games", "include", "lib", "local", "sbin", "share", "src"].map (["usr", ·]) ++
  ["cache", "lib", "log", "mail", "opt", "run", "spool", "tmp"].map (["var", ·]) ++
  [["usr", "local", "bin"], ["dev", "shm"]]

def devices : List (Location × Device) :=
  [(["dev", "null"], .nothing), (["dev", "zero"], .zeros), (["dev", "full"], .full)]

def users : String :=
  "root:x:0:0:root:/root:/bin/bash\n" ++
  "daemon:x:1:1:daemon:/usr/sbin:/usr/sbin/nologin\n" ++
  "bin:x:2:2:bin:/bin:/usr/sbin/nologin\n" ++
  "sys:x:3:3:sys:/dev:/usr/sbin/nologin\n" ++
  "sync:x:4:65534:sync:/bin:/bin/sync\n" ++
  "games:x:5:60:games:/usr/games:/usr/sbin/nologin\n" ++
  "man:x:6:12:man:/var/cache/man:/usr/sbin/nologin\n" ++
  "lp:x:7:7:lp:/var/spool/lpd:/usr/sbin/nologin\n" ++
  "mail:x:8:8:mail:/var/mail:/usr/sbin/nologin\n" ++
  "news:x:9:9:news:/var/spool/news:/usr/sbin/nologin\n" ++
  "uucp:x:10:10:uucp:/var/spool/uucp:/usr/sbin/nologin\n" ++
  "proxy:x:13:13:proxy:/bin:/usr/sbin/nologin\n" ++
  "www-data:x:33:33:www-data:/var/www:/usr/sbin/nologin\n" ++
  "backup:x:34:34:backup:/var/backups:/usr/sbin/nologin\n" ++
  "list:x:38:38:Mailing List Manager:/var/list:/usr/sbin/nologin\n" ++
  "irc:x:39:39:ircd:/run/ircd:/usr/sbin/nologin\n" ++
  "_apt:x:42:65534::/nonexistent:/usr/sbin/nologin\n" ++
  "nobody:x:65534:65534:nobody:/nonexistent:/usr/sbin/nologin\n"

def programNames : List String := shellNames ++ Utility.names

/-- The files of a machine on which nothing but its own programs is installed. -/
def bareFiles : FileTree :=
  ⟨otherDirectories.map (·, .directory) ++ devices.map (fun (l, d) => (l, .device d)) ++
    [(["etc", "passwd"], .file (Octets.ofString users).toBytes false)] ++
    programDirectories.flatMap fun directory =>
      programNames.map fun name => (directory ++ [name], Image.nativeEntry name)⟩

def readText (m : Machine) (path : String) : Except TextError String :=
  m.files.readText m.directory path

def canRun (m : Machine) (path : String) : Bool := m.files.isExecutable m.directory path

/-- The variable that holds the search path, and where programs are started from without it. -/
def searchPathVariable : String := "PATH"

def startPath : String := "/bin:/usr/bin"

/-- A variable's value as text, whatever bytes it holds. -/
def lossyValue (m : Machine) (name : String) : Option String :=
  (m.bindings.lookup name).map fun bytes => String.ofList (Text.Utf8.decodeLossy bytes)

/-- A search path, with this machine's directories for names that lead to a tool and for the tilde. -/
def searchPath (m : Machine) (text : String) : SearchPath :=
  { text
    directory := FileTree.absolutePath m.directory
    home := Snapshot.nonEmpty (m.lossyValue "HOME") }

def locate (m : Machine) (s : SearchPath) (name : String) : Option String := s.find m.canRun name

def environment (m : Machine) : List (Octets × Octets) :=
  m.bindings.map fun (name, value) => (Octets.ofString name, Octets.ofBytes value)

/-- The program that some words run, found along the search path of the machine. A text that is no program
is not handed to a shell. -/
def resolve (m : Machine) (words : List Octets) : Except SystemError (Octets × List Octets) :=
  let name := words.headD []
  let path := (m.lossyValue searchPathVariable).getD startPath
  if name.isEmpty then .error .notFound
  else if words.any (·.length ≥ Image.maxArgument) then .error .argumentTooLong
  else Image.search (Image.resolve m.files m.directory Image.maxDepth · words)
    (Image.places (Octets.ofString path) name) .notFound

/-- The number of the process that starts all others, and of the first that it starts. -/
def launcherNumber : Nat := 100

def firstNumber : Nat := 101

/-- The kernel when a program is about to run. What it reads is ready, or there is nothing to read. -/
def kernel (m : Machine) (program : Program) (input : Option (List UInt8)) : Kernel :=
  let channels : List Channel := [⟨0, 0, false⟩, ⟨1, 1, false⟩, ⟨2, 2, false⟩]
  let source : Target := if input.isSome then .pipe 0 false else .device .nothing
  { files := m.files
    processes := [{ number := firstNumber, parent := launcherNumber, group := firstNumber, program, channels,
                    directory := m.directory }]
    opened := #[{ target := source }, { target := .output 0 }, { target := .output 1 }]
    pipes := #[.ofText (Octets.ofBytes (input.getD []))]
    outputs := #[[], []]
    lastNumber := firstNumber
    first := firstNumber }

/-- How many steps a program may take in all, with those that it starts. One that takes more has no end. -/
def maxSteps : Nat := 4000000

/-- What is left behind when a kernel has run. A program ends in time, with all that could write to its
outputs; or else it is stopped when the limit is reached. -/
def invocationOf (program : String) (limit : Duration) (isDone : Bool) (k : Kernel) : Invocation :=
  let overdue : Invocation :=
    { result := .error (.timedOut program limit), millis := limit.totalNanos / 1000000 }
  match isDone, k.conclusion with
  | true, some e =>
    let status : ExitStatus := match e with
      | .exited n => .exited n
      | .signalled _ => .signalled
    { result := .ok { status, stdout := (k.output 0).toBytes, stderr := (k.output 1).toBytes }
      millis := k.clock / 1000000 }
  | _, _ => overdue

/-- Runs a program of the machine with its words: whether all is done in time, and the kernel it leaves. -/
def perform (m : Machine) (limit : Duration) (input : Option (List UInt8))
    (found : Octets × List Octets) : Bool × Kernel :=
  (m.kernel (launch maxLaunches found.1 found.2 m.environment) input).run limit.totalNanos maxSteps 0 0

/-- Runs what a start has come to, if it has come to a program. -/
def start (m : Machine) (program : String) (limit : Duration) (input : Option (List UInt8)) :
    Except SystemError (Octets × List Octets) → Invocation × FileTree
  | .error cause => ({ result := .error (.notStarted program (.system cause)) }, m.files)
  | .ok found =>
    let outcome := m.perform limit input found
    (invocationOf program limit outcome.1 outcome.2, outcome.2.files)

/-- Runs a program with arguments, and with input if there is some; gives the files as they are
afterwards. -/
def invoke (m : Machine) (program : String) (limit : Duration) (arguments : List String)
    (input : Option (List UInt8)) : Invocation × FileTree :=
  if (program :: arguments).any FileTree.hasZero then
    ({ result := .error (.notStarted program .zeroInArgument) }, m.files)
  else m.start program limit input (m.resolve ((program :: arguments).map Octets.ofString))

end Machine

end SmokeSuite
