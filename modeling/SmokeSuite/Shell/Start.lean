import SmokeSuite.Shell.Evaluation

namespace SmokeSuite.Shell

namespace Start

def firstVariables : Variables :=
  let fixed (name : String) (value : Option Octets) : Variable :=
    { name := name.toList, value, isFixed := true }
  [fixed "IFS" (some Field.standardSeparators), fixed "MAIL" none, fixed "MAILPATH" none,
    fixed "PATH" (some Search.standardPath), fixed "PS1" (some "# ".toList),
    fixed "PS2" (some "> ".toList), fixed "PS4" (some "+ ".toList), fixed "OPTIND" (some ['1'])]

def withEnvironment (vs : Variables) (environment : List (Octets × Octets)) : Variables :=
  environment.foldl (fun vs (name, value) =>
    if isName name then
      let v := (vs.find? name).getD { name, value := none }
      vs.put { v with value := some value, isExported := true }
    else vs) vs

/-- The path of the directory at hand: the one that the environment tells, if it leads there. -/
def placeOf (files : FileTree) (directory : Location) (told : Option Octets) : Octets :=
  let physical := Octets.ofString (FileTree.absolutePath directory)
  match told with
  | some path =>
    match files.follow directory path.toPath with
    | .ok (l, _) => if path.head? == some '/' && l == directory then path else physical
    | .error _ => physical
  | none => physical

def session (name : Octets) (environment : List (Octets × Octets)) : Act Session := do
  let (number, parent) ← Act.numbers
  let files ← Act.files
  let directory ← Act.directory
  let ignored := (← Act.responses).filterMap fun (n, how) => if how == .ignored then some n else none
  let vs := withEnvironment firstVariables environment
  let vs := vs.set "IFS".toList Field.standardSeparators
  let vs := vs.set "OPTIND".toList ['1']
  let vs := vs.set "PPID".toList (Octets.ofNat parent)
  let place := placeOf files directory (vs.value? "PWD".toList)
  let pwd := (vs.find? "PWD".toList).getD { name := "PWD".toList, value := none }
  return { name, number, table := vs.put { pwd with value := some place, isExported := true }
           line := 0, ignored, place }

structure Options where
  /-- The settings that are named, with what they are to be; the last one counts. -/
  named : List (Setting × Bool) := []
  takesText : Bool := false

namespace Options

def isOn (o : Options) (s : Setting) : Bool := (o.named.lookup s).getD false

def settings (o : Options) : Settings := Setting.all.filter o.isOn

def set (o : Options) (s : Setting) (on : Bool) : Options := { o with named := (s, on) :: o.named }

end Options

/-- Lists the settings while they are read, where all count that are not turned off. -/
def listSettings (o : Options) (asCommands : Bool) : Run Unit := do
  let before := (← get).settings
  modify fun s => { s with settings := Setting.all.filter fun s => (o.named.lookup s).getD true }
  if asCommands then Builtin.listSettingCommands else Builtin.listSettings
  modify fun s => { s with settings := before }
  discard Run.flush

def readLetters (on : Bool) : Options → List Octets → Octets → Run (Options × List Octets)
  | o, rest, [] => return (o, rest)
  | o, rest, c :: cs => do
    if c == 'c' then readLetters on { o with takesText := true } rest cs
    else if c == 'l' then readLetters on o rest cs
    else if c == 'o' then
      match rest with
      | [] => do
        listSettings o !on
        readLetters on o [] cs
      | name :: rest =>
        match Setting.ofName? name with
        | some s => readLetters on (o.set s on) rest cs
        | none => Run.fault ("Illegal option -o ".toList ++ name)
    else match Setting.ofLetter? c with
      | some s => readLetters on (o.set s on) rest cs
      | none => Run.fault ("Illegal option -".toList ++ [c])

/-- Reads the options at the start of some words. The number bounds the words. -/
def readOptions : Nat → Options → List Octets → Run (Options × List Octets)
  | 0, o, ws => return (o, ws)
  | fuel + 1, o, ws => do
    match ws with
    | ['-'] :: rest | ['-', '-'] :: rest => return (o, rest)
    | ('-' :: cs) :: rest => do
      let (o, rest) ← readLetters true o rest cs
      readOptions fuel o rest
    | ('+' :: cs) :: rest => do
      let (o, rest) ← readLetters false o rest cs
      readOptions fuel o rest
    | ws => return (o, ws)

/-- Opens a file and reads all of it; a directory counts as empty. -/
def readFile (path : Octets) : Run Octets := do
  let channel ← Redirection.openFile path .read false
  let text ← Run.ask (Act.readAll channel)
  Run.ask (Act.close channel)
  return text

def run (e : Evaluator) (words : List Octets) : Run Nat := do
  let (o, ws) ← readOptions (words.length + 1) {} words
  if ws.isEmpty && o.takesText then Run.faultText "-c requires an argument"
  let readsInput := o.isOn .stdin || ws.isEmpty
  let o := if ws.isEmpty then o.set .stdin true else o
  let o := if (o.named.lookup .monitor).isNone && o.isOn .interactive then o.set .monitor true else o
  let arrange (arguments : List Octets) : Run Unit := do
    modify fun s => { s with settings := o.settings, arguments }
    Builtin.settleSettings
  let input : Script.Feed := { source := { ahead := [] }, channel := some 0, isShown := true }
  match ws with
  | text :: rest =>
    if o.takesText then
      match rest with
      | name :: rest => do
        modify fun s => { s with name }
        arrange rest
      | [] => arrange []
      discard (Script.runText e { exits := !readsInput } text)
      if readsInput && (← get).skip.isNone then Script.runFeed e input else return (← get).status
    else if readsInput then
      arrange ws
      Script.runFeed e input
    else
      let script ← readFile text
      modify fun s => { s with name := text }
      arrange rest
      Script.runFeed e { Script.Feed.ofText script with isShown := true }
  | [] => do
    arrange []
    Script.runFeed e input

end Start

def program (launch : Launcher) (words : List Octets) (environment : List (Octets × Octets)) :
    Program :=
  let e := Evaluator.ofDepth launch Evaluator.maxDepth
  Start.session (words.head?.getD []) environment fun s =>
    Run.program (Script.conclude e (Start.run e (words.drop 1))) s

end SmokeSuite.Shell
