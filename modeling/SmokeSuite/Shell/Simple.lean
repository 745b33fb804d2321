import SmokeSuite.Shell.Builtin.Jobs
import SmokeSuite.Shell.Builtin.Limit
import SmokeSuite.Shell.Builtin.Place
import SmokeSuite.Shell.Builtin.Text
import SmokeSuite.Shell.Builtin.Variables
import SmokeSuite.Shell.Script

namespace SmokeSuite.Shell

namespace Simple

def become {α : Type} (e : Evaluator) (words : List Octets) : List Octets → SystemError → Run α
  | [], failure => do
    let isMissing := failure == .notFound || failure == .notDirectory || failure == .tooManyLinks ||
      failure == .nameTooLong
    modify fun s => { s with status := if isMissing then 127 else 126 }
    Run.warn (words.head?.getD [] ++ [':', ' '] ++ Search.text failure)
    throw .finish
  | place :: rest, failure => do
    let files ← Run.ask Act.files
    let directory ← Run.ask Act.directory
    match Image.resolveText files directory place words with
    | .ok (name, words) => do
      Run.ask Act.become
      let environment := (← get).table.environment
      fun _ _ => e.launch name words environment
    | .error cause =>
      become e words rest
        (if cause == .notFound || cause == .notDirectory then failure else cause)

/-- The places at which a program may be, from the one on where it was found. -/
def placesFrom (path name place : Octets) : List Octets :=
  if name.contains '/' then [name]
  else
    let all := Image.places path name
    let rest := all.dropWhile (· != place)
    if rest.isEmpty then [place] else rest

def leaveLoops (again : Bool) (ws : List Octets) : Run Nat := do
  let n ← match ws with
    | [] => pure 1
    | word :: _ => do
      let n ← Run.count word
      if n = 0 then Run.fault ("Illegal number: ".toList ++ word)
      pure n
  let n := min n (← get).loopDepth
  if n > 0 then modify fun s => { s with skip := some (.loops n again) }
  return 0

def leaveFunction (ws : List Octets) : Run Nat := do
  let status ← match ws with
    | [] => do pure (← get).status
    | word :: _ => Run.count word
  modify fun s => { s with skip := some (.function ws.isEmpty) }
  return status

def exit (ws : List Octets) : Run Nat := do
  match ws with
  | [] => pure ()
  | word :: _ => do
    let n ← Run.count word
    modify fun s => { s with exitStatus := some n }
  throw .exit

def dot (e : Evaluator) (ws : List Octets) : Run Nat := do
  match ← Options.none ws with
  | [] => return 0
  | name :: _ => do
    let files ← Run.ask Act.files
    let directory ← Run.ask Act.directory
    let isFile (path : Octets) : Bool := match files.at? directory path.toPath with
      | some (.file ..) => true
      | _ => false
    let path ← if name.contains '/' then pure name
      else match (Image.places (← Search.searchPath) name).find? isFile with
        | some path => pure path
        | none => Run.fault (name ++ ": not found".toList)
    let channel ← Redirection.openFile path .read false
    let text ← Run.ask (Act.readAll channel)
    Run.ask (Act.close channel)
    modify fun s => { s with command := some path }
    Script.runFeed e { Script.Feed.ofText text with isShown := true }

def eval (e : Evaluator) (isTested : Bool) (ws : List Octets) : Run Nat := do
  if ws.isEmpty then return 0 else Script.runText e { isTested } (Octets.joined ws)

def exec (e : Evaluator) (ws : List Octets) : Run Nat := do
  match ws with
  | [] => return 0
  | name :: _ => do
    modify fun s => { s with
      settings := (s.settings.set .interactive false).set .monitor false }
    become e ws (Image.places (← Search.searchPath) name) .notFound

def own (e : Evaluator) (isTested : Bool) (name : Octets) (ws : List Octets) : Run Nat :=
  match String.ofList name with
  | "." => dot e ws
  | ":" | "true" => return 0
  | "false" => return 1
  | "[" => Builtin.test true ws
  | "test" => Builtin.test false ws
  | "alias" => Builtin.«alias» ws
  | "bg" | "fg" => Builtin.moveJob ws
  | "break" => leaveLoops false ws
  | "continue" => leaveLoops true ws
  | "cd" | "chdir" => Builtin.cd ws
  | "command" => Builtin.command ws
  | "echo" => Builtin.echo ws
  | "eval" => eval e isTested ws
  | "exec" => exec e ws
  | "exit" => exit ws
  | "export" => Builtin.export' ws
  | "getopts" => Builtin.getopts ws
  | "hash" => Builtin.hash ws
  | "jobs" => Builtin.jobs ws
  | "kill" => Builtin.kill ws
  | "local" => Builtin.local' ws
  | "printf" => Builtin.printf ws
  | "pwd" => Builtin.pwd ws
  | "read" => Builtin.read ws
  | "readonly" => Builtin.readonly ws
  | "return" => leaveFunction ws
  | "set" => Builtin.set ws
  | "shift" => Builtin.shift ws
  | "times" => Builtin.times ws
  | "trap" => Builtin.trap ws
  | "type" => Builtin.type' ws
  | "ulimit" => Builtin.ulimit ws
  | "umask" => Builtin.umask ws
  | "unalias" => Builtin.unalias ws
  | "unset" => Builtin.unset ws
  | "wait" => Builtin.wait ws
  | _ => return unknownStatus
where
  /-- The status of a command that there is not. -/
  unknownStatus : Nat := 127

/-- Runs a command of the shell. A fault ends the script only if the command is special. -/
def runOwn (e : Evaluator) (isTested isSpecial : Bool) (name : Octets) (ws : List Octets) : Run Unit := do
  let before := (← get).command
  modify fun s => { s with command := some name }
  let failure ← tryCatch (do
      let status ← own e isTested name ws
      let isWritten ← Run.flush
      if !isWritten then Run.warn (name ++ ": I/O error".toList)
      modify fun s => { s with status := if isWritten then status else status ||| 1 }
      return none)
    fun f => do
      discard Run.flush
      return some f
  modify fun s => { s with command := before }
  match failure with
  | none => pure ()
  | some .fault => if isSpecial then throw .fault
  | some f => throw f

def maxFunctionDepth : Nat := 1000

def runFunction (e : Evaluator) (isTested : Bool) (body : Command) (ws : List Octets) : Run Unit := do
  let before ← get
  if before.functionDepth ≥ maxFunctionDepth then
    Run.faultText ("Maximum function recursion depth (" ++ toString maxFunctionDepth ++ ") reached")
  modify fun s => { s with
    arguments := ws, optionPlace := {}, loopDepth := 0, functionDepth := s.functionDepth + 1 }
  Run.ensure (discard (e.evaluate { isTested } body)) do
    modify fun s => { s with
      arguments := before.arguments
      optionPlace := before.optionPlace
      loopDepth := before.loopDepth
      functionDepth := before.functionDepth
      skip := match s.skip with
        | some (.function _) => none
        | skip => skip }
    Run.poll

/-- Expands words until there is a field, and gives the words that are left. -/
def firstFields (cs : Expansion.Commands) : List Word → Run (List Octets × List Word)
  | [] => return ([], [])
  | w :: ws => do
    let fields ← Expansion.fieldsOf cs w
    if fields.isEmpty then firstFields cs ws else return (fields, ws)

def otherFields (cs : Expansion.Commands) (assigns : Bool) (ws : List Word) : Run (List Octets) := do
  let fields ← ws.mapM fun w =>
    match if assigns then assignment? w else none with
    | some (name, value) => do return [name ++ '=' :: (← Expansion.valueOf cs value)]
    | none => Expansion.fieldsOf cs w
  return fields.flatten

/-- What is known of a command before its arguments are expanded. -/
structure Lookup where
  fields : List Octets
  words : List Word
  found : Found
  /-- Whether a command of the shell that is special stands first; nothing if none of them does. -/
  isSpecial : Option Bool := none
  functions : Bool := true
  path : Option Octets := none

/-- The words behind `command` that are a command themselves, if there are any. Its options may name the
standard path; others ask only what a command is. -/
def behindCommand (cs : Expansion.Commands) :
    Nat → List Octets → List Word → Option Octets →
      Run (Option (List Octets × List Word × Option Octets))
  | 0, _, _, _ => return none
  | fuel + 1, fields, words, path => do
    let (fields, words) ← if fields.isEmpty then firstFields cs words else pure (fields, words)
    match fields with
    | [] => return none
    | ['-', '-'] :: fields => do
      let (fields, words) ← if fields.isEmpty then firstFields cs words else pure (fields, words)
      return if fields.isEmpty then none else some (fields, words, path)
    | ('-' :: c :: cs') :: rest =>
      if (c :: cs').all (· == 'p') then
        behindCommand cs fuel rest words (some Search.standardPath)
      else return none
    | fields => return some (fields, words, path)

def lookUp (cs : Expansion.Commands) : Nat → Lookup → Run Lookup
  | 0, l => return l
  | fuel + 1, l => do
    let found ← Search.command (l.fields.head?.getD []) l.functions l.path
    let l := { l with found }
    match found with
    | .own name => do
      let l := { l with isSpecial := l.isSpecial.or (some (isSpecialCommand name)) }
      if name != "command".toList then return l
      match ← behindCommand cs Reading.pieces (l.fields.drop 1) l.words l.path with
      | none => return l
      | some (fields, words, path) =>
        lookUp cs fuel { l with fields, words, path, functions := false }
    | _ => return l

def tracePrefix (cs : Expansion.Commands) : Run Octets := do
  let s ← get
  let text := (s.value? "PS4".toList).getD []
  let source : Source := { ahead := text, aliases := s.aliases }
  let grammar := Grammar.ofDepth Grammar.maxDepth
  match Reading.parts (grammar.list .branch) none Reading.pieces .document {} source with
  | .ok (p, _) => Run.orElse (Expansion.documentOf cs p.word) (return text)
  | .error (f, source) => do
    modify fun s => { s with line := source.line }
    Run.warn f.message.toList
    return text

def trace (cs : Expansion.Commands) (ws : List Octets) : Run Unit := do
  let s ← get
  if s.isOn .xtrace && !s.isTracing then
    modify fun s => { s with isTracing := true }
    let start ← tracePrefix cs
    modify fun s => { s with isTracing := false }
    discard (Run.write s.traceChannel (start ++ Octets.joined ws ++ ['\n']))

def assignAll (cs : Expansion.Commands) (areLocal isExported : Bool) :
    List (Octets × Word) → Run (List Octets)
  | [] => return []
  | (name, w) :: rest => do
    let value ← Expansion.valueOf cs w
    if areLocal then Run.makeLocal name (some value) true
    else Run.assign name value isExported false
    return (name ++ '=' :: value) :: (← assignAll cs areLocal isExported rest)

/-- Runs a program in a child, or in the place of the shell if it has nothing else to do. -/
def runProgram (e : Evaluator) (flags : Flags) (words : List Octets) (path place : Octets) : Run Nat := do
  let places := placesFrom path (words.head?.getD []) place
  if flags.exits && !(← Run.hasTraps) then become e words places .notFound
  else Run.forkAwait (become e words places .notFound)

def runFound (e : Evaluator) (flags : Flags) (l : Lookup) (words : List Octets) : Run Nat := do
  match l.found with
  | .missing _ => do
    Search.complain (words.head?.getD []) l.found
    return Search.missingStatus
  | .program place => do
    runProgram e flags words (l.path.getD (← Search.searchPath)) place
  | .own name => do
    runOwn e flags.isTested (l.isSpecial.getD false) name (words.drop 1)
    return (← get).status
  | .function body => do
    runFunction e flags.isTested body (words.drop 1)
    return (← get).status

def putBack (channels scopes : Nat) (lasts : Bool) : Run Unit := do
  for _ in (← get).channels.drop (channels + 1) do Redirection.popChannels false
  if (← get).channels.length > channels then Redirection.popChannels lasts
  Run.popScopes scopes

def evaluate (e : Evaluator) (flags : Flags) (line : Nat) (assignments : List (Octets × Word))
    (words : List Word) (redirects : List Redirect) : Run Nat := do
  let cs := Script.commands e
  modify fun s => { s with line, outputStatus := 0, traceChannel := 2 }
  let (fields, words) ← firstFields cs words
  let l ← if fields.isEmpty then pure { fields, words, found := .missing .notFound : Lookup }
    else lookUp cs Reading.pieces { fields, words, found := .missing .notFound }
  let isExec := match l.found with
    | .own name => name == "exec".toList
    | _ => false
  let assigns := match l.found with
    | .own name => takesAssignments name
    | _ => false
  let ws := l.fields ++ (← otherFields cs assigns l.words)
  let areLocal := !ws.isEmpty && !(l.isSpecial.getD false)
  let channels := (← get).channels.length
  let scopes := (← get).scopes.length
  if areLocal then Run.pushScope
  let prepared ← redirects.mapM (Redirection.prepare cs)
  Redirection.pushChannels
  let status ← Redirection.applyKept cs prepared
  if status != 0 then
    modify fun s => { s with status }
    if l.isSpecial.getD false then throw .fault
    putBack channels scopes isExec
    return status
  let kept ← Redirection.keptChannel 2
  modify fun s => { s with traceChannel := kept }
  let assigned ← assignAll cs areLocal (isExec && ws.length > 1) assignments
  trace cs (assigned ++ ws)
  if ws.isEmpty then
    putBack channels scopes false
    return (← get).outputStatus
  /- The variables that were set may have changed the search path. -/
  let found ← match l.found with
    | .program _ | .missing _ => Search.command (ws.head?.getD []) l.functions l.path
    | found => pure found
  let status ← runFound e flags { l with found } ws
  putBack channels scopes isExec
  return status

end Simple

end SmokeSuite.Shell
