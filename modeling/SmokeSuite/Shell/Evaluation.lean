import SmokeSuite.Shell.Simple

namespace SmokeSuite.Shell

namespace Evaluation

inductive Round where
  | goesOn
  | ends
  | returns
  deriving DecidableEq, Inhabited

def finishRound : Run Round := do
  match (← get).skip with
  | none => return .goesOn
  | some (.function isBare) => return if isBare then .ends else .returns
  | some (.loops n again) =>
    if n ≤ 1 then
      modify fun s => { s with skip := none }
      return if again then .goesOn else .ends
    else
      modify fun s => { s with skip := some (.loops (n - 1) again) }
      return .ends

def inLoop (x : Run Nat) : Run Nat := do
  modify fun s => { s with loopDepth := s.loopDepth + 1 }
  let status ← x
  modify fun s => { s with loopDepth := s.loopDepth - 1 }
  return status

def rounds (e : Evaluator) (isTested ending : Bool) (test body : Command) : Nat → Nat → Run Nat
  | 0, status => return status
  | fuel + 1, status => do
    let outcome ← e.evaluate { isTested := true } test
    let isSkipping := (← get).skip.isSome
    match ← finishRound with
    | .returns => return outcome
    | .ends => return status
    | .goesOn =>
      if isSkipping then rounds e isTested ending test body fuel status
      else if (outcome == 0) == ending then return status
      else
        let status ← e.evaluate { isTested } body
        match ← finishRound with
        | .goesOn => rounds e isTested ending test body fuel status
        | _ => return status

def eachWord (e : Evaluator) (isTested : Bool) (name : Octets) (body : Command) :
    Nat → List Octets → Run Nat
  | status, [] => return status
  | _, w :: ws => do
    Run.setVariable name w
    let status ← e.evaluate { isTested } body
    match ← finishRound with
    | .goesOn => eachWord e isTested name body status ws
    | _ => return status

def matchesAny (cs : Expansion.Commands) (t : Octets) : List Word → Run Bool
  | [] => return false
  | w :: ws => do
    if Pattern.fits (← Expansion.patternOf cs w) t then return true else matchesAny cs t ws

def branch (e : Evaluator) (flags : Flags) (t : Octets) : List (List Word × Command) → Run Nat
  | [] => return 0
  | (patterns, body) :: rest => do
    if ← matchesAny (Script.commands e) t patterns then
      match body with
      | .nothing => return 0
      | body => e.evaluate flags body
    else branch e flags t rest

/-- Commands in a child of the shell, or in its place if it has nothing else to do. -/
def subshell (e : Evaluator) (flags : Flags) (waits : Bool) (line : Nat) (body : Command)
    (redirects : List Redirect) : Run Nat := do
  let cs := Script.commands e
  modify fun s => { s with line }
  let prepared ← redirects.mapM (Redirection.prepare cs)
  let work (flags : Flags) : Run Nat := do
    Redirection.applyAll cs prepared
    e.evaluate { flags with exits := true } body
  if waits && flags.exits && !(← Run.hasTraps) then
    Run.becomeChild
    work flags
  else if waits then
    Run.forkAwait (Script.conclude e do
      Run.becomeChild
      work flags)
  else
    let job ← Run.jobNumber
    let number ← Run.fork (Script.conclude e do
      Run.becomeChild
      Run.becomeBackground true
      work { flags with isTested := false })
    Run.addJob job [number]
    return 0

/-- Starts the stages of a pipeline; `source` is what the next one reads. -/
def startStages (e : Evaluator) (isTested waits : Bool) :
    Option Nat → Bool → List Command → Run (List Nat)
  | _, _, [] => return []
  | source, isFirst, c :: rest => do
    let channels ← if rest.isEmpty then pure none else some <$> Run.ask Act.pipe
    let number ← Run.fork (Script.conclude e do
      Run.becomeChild
      if !waits then Run.becomeBackground isFirst
      match channels with
      | some (next, _) => Run.ask (Act.close next)
      | none => pure ()
      match source with
      | some n => Run.ask (Expansion.moveChannel n 0)
      | none => pure ()
      match channels with
      | some (_, target) => Run.ask (Expansion.moveChannel target 1)
      | none => pure ()
      e.evaluate { isTested, exits := true } c)
    match source with
    | some n => Run.ask (Act.close n)
    | none => pure ()
    match channels with
    | some (_, target) => Run.ask (Act.close target)
    | none => pure ()
    return number :: (← startStages e isTested waits (channels.map (·.1)) false rest)

def pipeline (e : Evaluator) (flags : Flags) (stages : List Command) (waits : Bool) : Run Nat := do
  let job ← Run.jobNumber
  let numbers ← startStages e flags.isTested waits none true stages
  if waits then Run.await numbers
  else
    Run.addJob job numbers
    return 0

def redirected (e : Evaluator) (flags : Flags) (line : Nat) (body : Command)
    (redirects : List Redirect) : Run Nat := do
  let cs := Script.commands e
  modify fun s => { s with line }
  let prepared ← redirects.mapM (Redirection.prepare cs)
  Redirection.pushChannels
  let status ← Redirection.applyKept cs prepared
  let status ← if status = 0 then e.evaluate { isTested := flags.isTested } body else pure status
  Redirection.popChannels false
  return status

/-- Whether a failure of a command ends the shell where that is asked for: the failures of the commands
inside others have ended it before. -/
def isChecked : Command → Bool
  | .simple .. | .redirected .. | .subshell .. | .background .. | .pipeline .. => true
  | _ => false

/-- The status of a command. Nothing comes of one that was left before its end. -/
def statusOf (e : Evaluator) (flags : Flags) : Command → Run (Option Nat)
  | .nothing => return none
  | .simple line assignments words redirects =>
    some <$> Simple.evaluate e flags line assignments words redirects
  | .redirected line body redirects => some <$> redirected e flags line body redirects
  | .subshell line body redirects => some <$> subshell e flags true line body redirects
  | .background line body redirects => some <$> subshell e flags false line body redirects
  | .pipeline stages waits => some <$> pipeline e flags stages waits
  | .negated body => do
    let status ← e.evaluate { isTested := true } body
    if (← get).skip.isSome then return some status
    else return some (if status = 0 then 1 else 0)
  | .sequence first second => do
    discard (e.evaluate { isTested := flags.isTested } first)
    if (← get).skip.isSome then return none else some <$> e.evaluate flags second
  | .both first second => do
    let status ← e.evaluate { isTested := true } first
    if status != 0 || (← get).skip.isSome then return none else some <$> e.evaluate flags second
  | .either first second => do
    let status ← e.evaluate { isTested := true } first
    if status = 0 || (← get).skip.isSome then return none else some <$> e.evaluate flags second
  | .conditional test body otherwise => do
    let status ← e.evaluate { isTested := true } test
    if (← get).skip.isSome then return none
    else if status = 0 then some <$> e.evaluate flags body
    else match otherwise with
      | .nothing => return some 0
      | c => some <$> e.evaluate flags c
  | .loop ending test body =>
    some <$> inLoop (rounds e flags.isTested ending test body Reading.pieces 0)
  | .forEach line name words body => do
    modify fun s => { s with line }
    let cs := Script.commands e
    let fields := (← words.mapM (Expansion.fieldsOf cs)).flatten
    some <$> inLoop (eachWord e flags.isTested name body 0 fields)
  | .choice line word branches => do
    modify fun s => { s with line }
    let t ← Expansion.wholeOf (Script.commands e) word
    some <$> branch e flags t branches
  | .function name body => do
    modify fun s => { s with
      functions := (name, body) :: s.functions.filter (·.1 != name) }
    return some 0

/-- Evaluates a command. Signals that arrived are answered after it; a failure that nobody looks at ends
the shell if that is asked for. -/
def evaluate (e : Evaluator) (flags : Flags) (c : Command) : Run Nat := do
  let isIdle := (← get).isOn .noexec
  let found ← if isIdle then pure none else statusOf e flags c
  match found with
  | some status => modify fun s => { s with status }
  | none => pure ()
  Script.answerSignals e
  let failed := isChecked c && !flags.isTested && found.any (· != 0)
  if (failed && (← get).isOn .errexit) || flags.exits then throw .finish
  return (← get).status

end Evaluation

/-- The evaluator for commands that lie in each other so deep at most. -/
def Evaluator.ofDepth (launch : Launcher) :
    Nat → Evaluator
  | 0 => { launch, evaluate := fun _ _ => throw .finish }
  | depth + 1 =>
    { launch
      evaluate := fun flags c s k => Evaluation.evaluate (ofDepth launch depth) flags c s k }

def Evaluator.maxDepth : Nat := 1000000000

end SmokeSuite.Shell
