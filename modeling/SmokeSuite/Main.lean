import SmokeSuite.Execution

namespace SmokeSuite.CommandLine

def readBytes? (path : String) : IO (Option (List UInt8)) := do
  try
    let bytes ← IO.FS.readBinFile path
    return some bytes.toList
  catch _ => return none

def readText? (path : String) : IO (Option String) := do
  return ((← readBytes? path).bind Text.Utf8.decode?).map String.ofList

def processVariables : IO ProcessVariables := do
  let bytes := (← readBytes? "/proc/self/environ").getD []
  let items := Text.partsAt '\x00' (Octets.ofBytes bytes)
  return items.filterMap fun item =>
    (Text.cutAt '=' item).map fun (name, value) =>
      (Octets.toPath name, Octets.toBytes value)

def numberAfter? (word : String) (lines : List (List Char)) : Option Nat :=
  lines.findSome? fun l =>
    match Text.words l with
    | [w, n] => if w == word.toList then Octets.toNat? n else none
    | _ => none

def now : IO Instant := do
  let stat := (← readText? "/proc/stat").getD ""
  let uptime := (← readText? "/proc/uptime").getD ""
  let started := (numberAfter? "btime" (Text.lines stat.toList)).getD 0
  let running := uptime.toList.takeWhile fun c => c.isDigit || c == '.'
  let seconds := (Octets.toNat? (running.takeWhile Char.isDigit)).getD 0
  let hundredths := (Octets.toNat? ((running.dropWhile Char.isDigit).drop 1)).getD 0
  return ⟨started + seconds, hundredths * 10000000⟩

/-- A file as a machine knows it. What begins like a program can be run; a program that is not a
script is known by its name alone. -/
def entryOf (path : String) (bytes : List UInt8) : FileEntry :=
  let start := Octets.ofBytes (bytes.take Image.mark.length)
  if start == Image.mark then
    Image.nativeEntry (Octets.lastName (Octets.ofString path)).toPath
  else .file bytes (Image.hashBang.isPrefixOf start)

def addFile (m : Machine) (path : String) : IO Machine := do
  match ← readBytes? path with
  | none => return m
  | some bytes =>
    let base := if FileTree.isAbsolute path then [] else m.directory
    let place := base ++ (FileTree.parts path).filter fun n => n != "" && n != "."
    return { m with files := m.files.insert place (entryOf path bytes) }

/-- The machine as far as some options ask for it: their files, and the tools of the suite along the
search path. -/
def gather (o : Options) : IO Machine := do
  let directory := (FileTree.parts (← IO.currentDir).toString).filter (· != "")
  let bare : Machine :=
    { files := Machine.bareFiles.insert directory .directory
      directory
      bindings := ← processVariables }
  let m ← (o.config.toList ++ o.envFiles ++ HostRelease.paths).foldlM addFile bare
  match Execution.loadSuite m o.config with
  | .error _ => return m
  | .ok s =>
    let names := o.dot.getD s.dot :: s.tools
    let places := names.flatMap (Execution.searchPath m o).candidates
    places.foldlM addFile m

end SmokeSuite.CommandLine

open SmokeSuite in
def main (arguments : List String) : IO UInt32 := do
  let m ← match CommandLine.read arguments with
    | .ok o => CommandLine.gather o
    | .error _ => pure { files := Machine.bareFiles, bindings := ← CommandLine.processVariables }
  let c := Conclusion.ofArguments m arguments (← CommandLine.now)
  IO.print c.stdout
  IO.eprint c.stderr
  return c.exitCode.toUInt32
