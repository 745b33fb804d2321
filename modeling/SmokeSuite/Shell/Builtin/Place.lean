import SmokeSuite.Shell.Builtin.Options
import SmokeSuite.Shell.Search
import SmokeSuite.Shell.Token

namespace SmokeSuite.Shell.Builtin

/-- Goes from one path to another by names, where two dots lead back. `fixed` is what no dots lead out
of. -/
def walked (fixed start : Octets) (names : List Octets) : Octets :=
  let step (path : List Octets) (name : Octets) : List Octets :=
    if name.isEmpty || name == ['.'] then path
    else if name == ['.', '.'] then path.dropLast
    else path ++ [name]
  fixed ++ ['/'].intercalate (names.foldl step ((Text.partsAt '/' start).filter (!·.isEmpty)))

/-- The path of a directory that is named from another one. Two slashes in front stay two. -/
def walkTo (here target : Octets) : Octets :=
  let split (path : Octets) : Octets × Octets :=
    match path with
    | '/' :: '/' :: r => if r.head? == some '/' then (['/'], r) else (['/', '/'], r)
    | '/' :: r => (['/'], r)
    | r => ([], r)
  if target.head? == some '/' then
    let (fixed, rest) := split target
    walked fixed [] (Text.partsAt '/' rest)
  else
    let (fixed, start) := split here
    walked fixed start (Text.partsAt '/' target)

def enter (path : Octets) : Run Bool := do
  let files ← Run.ask Act.files
  let directory ← Run.ask Act.directory
  match files.follow directory path.toPath with
  | .ok (l, .directory) => do
    Run.ask (Act.setDirectory l)
    return true
  | _ => return false

def settle (place : Octets) : Run Unit := do
  let before := (← get).place
  Run.assign "OLDPWD".toList before true false
  modify fun s => { s with place }
  Run.assign "PWD".toList place true false

def goTo (physical : Bool) (path : Octets) : Run Bool := do
  let logical := walkTo (← get).place path
  if ← enter (if physical then path else logical) then
    let place ← if physical then do
        pure (Octets.ofString (FileTree.absolutePath (← Run.ask Act.directory)))
      else pure logical
    settle place
    return true
  else return false

def isPlainPath (path : Octets) : Bool :=
  match path with
  | '/' :: _ | ['.'] | '.' :: '/' :: _ | ['.', '.'] | '.' :: '.' :: '/' :: _ => true
  | _ => false

/-- Tries the places of a directory one after the other; a place with something in front is shown. -/
def goToFirst (physical : Bool) (target : Octets) : List Octets → Run (Option Bool)
  | [] => return none
  | place :: rest => do
    let files ← Run.ask Act.files
    let directory ← Run.ask Act.directory
    let path := if place.isEmpty then target
      else if place.getLast? == some '/' then place ++ target else place ++ '/' :: target
    match files.at? directory path.toPath with
    | some .directory => return if ← goTo physical path then some !place.isEmpty else none
    | _ => goToFirst physical target rest

def isPhysical (options : List (Char × Octets)) : Bool := (options.getLast?.map (·.1)) == some 'P'

def cd (ws : List Octets) : Run Nat := do
  let (options, words) ← Options.read "LP" "" ws
  let physical := isPhysical options
  let s ← get
  let target := (match words with
    | [] => s.value? "HOME".toList
    | ['-'] :: _ => s.value? "OLDPWD".toList
    | word :: _ => some word).getD []
  let fail {α : Type} : Run α := Run.fault ("can't cd to ".toList ++ target)
  let shown ← if isPlainPath target then pure none
    else
      let path := Text.partsAt ':' ((s.value? "CDPATH".toList).getD [])
      goToFirst physical (if target.isEmpty then ['.'] else target) path
  let shown ← match shown with
    | some shown => pure shown
    | none => if ← goTo physical target then pure false else fail
  if shown || words.head? == some ['-'] then Run.sayLine (← get).place
  return 0

def pwd (ws : List Octets) : Run Nat := do
  let (options, _) ← Options.read "LP" "" ws
  if isPhysical options then
    Run.sayLine (Octets.ofString (FileTree.absolutePath (← Run.ask Act.directory)))
  else Run.sayLine (← get).place
  return 0

def bucket (count : Nat) (name : Octets) : Nat :=
  name.foldl (fun n c => n + c.toNat) ((name.head?.map fun c => 16 * c.toNat).getD 0) % count

def inBuckets (count : Nat) (ps : List (Octets × Octets)) : List (Octets × Octets) :=
  ps.mergeSort fun a b => bucket count a.1 ≤ bucket count b.1

def aliasText (name value : Octets) : Octets := name ++ '=' :: singleQuoted value

def aliasBuckets : Nat := 39

def programBuckets : Nat := 31

def defined (aliases : List (Octets × Octets)) (name value : Octets) : List (Octets × Octets) :=
  if (aliases.lookup name).isSome then
    aliases.map fun a => if a.1 == name then (name, value) else a
  else aliases ++ [(name, value)]

def «alias» (ws : List Octets) : Run Nat := do
  if ws.isEmpty then
    for (name, value) in inBuckets aliasBuckets (← get).aliases do
      Run.sayLine (aliasText name value)
    return 0
  let mut status := 0
  for word in ws do
    match Text.cutAt '=' (word.drop 1) with
    | some (rest, value) =>
      let name := word.take 1 ++ rest
      modify fun s => { s with aliases := defined s.aliases name value }
    | none =>
      match (← get).aliases.lookup word with
      | some value => Run.sayLine (aliasText word value)
      | none => do
        discard (Run.write 2 ("alias: ".toList ++ word ++ " not found\n".toList))
        status := 1
  return status

def unalias (ws : List Octets) : Run Nat := do
  let (options, names) ← Options.read "a" "" ws
  if !options.isEmpty then
    modify fun s => { s with aliases := [] }
    return 0
  let mut status := 0
  for name in names do
    if ((← get).aliases.lookup name).isSome then
      modify fun s => { s with aliases := s.aliases.filter (·.1 != name) }
    else
      discard (Run.write 2 ("unalias: ".toList ++ name ++ " not found\n".toList))
      status := 1
  return status

def hash (ws : List Octets) : Run Nat := do
  let (options, names) ← Options.read "r" "" ws
  if !options.isEmpty then
    modify fun s => { s with remembered := [] }
    return 0
  if names.isEmpty then
    for (_, place) in inBuckets programBuckets (← get).remembered do Run.sayLine place
  let mut status := 0
  for name in names do
    modify fun s => { s with remembered := s.remembered.filter (·.1 != name) }
    let found ← Search.command name true none
    Search.complain name found
    match found with
    | .missing _ => status := 1
    | _ => pure ()
  return status

def describe (verbose : Bool) (path : Option Octets) (name : Octets) : Run Nat := do
  let s ← get
  let tell (long : String) (short : Octets) : Run Nat := do
    Run.sayLine (if verbose then name ++ long.toList else short)
    return 0
  if (Keyword.ofText? name).isSome then tell " is a shell keyword" name
  else match s.aliases.lookup name with
    | some value =>
      tell (" is an alias for " ++ String.ofList value) ("alias ".toList ++ aliasText name value)
    | none =>
      let isRemembered := path.isNone && (s.remembered.lookup name).isSome
      let found ← Search.command name true path
      if path.isNone && !isRemembered then
        modify fun t => { t with remembered := s.remembered }
      let found ← match found with
        | .program place =>
          if name.contains '/' then do
            let files ← Run.ask Act.files
            let directory ← Run.ask Act.directory
            pure (if (files.at? directory place.toPath).isSome then found else .missing .notFound)
          else pure found
        | found => pure found
      match found with
      | .function _ => tell " is a shell function" name
      | .own name =>
        tell (if isSpecialCommand name then " is a special shell builtin"
          else " is a shell builtin") name
      | .program place => do
        Run.sayLine (if verbose then
            name ++ (if isRemembered then " is a tracked alias for " else " is ").toList ++ place
          else place)
        return 0
      | .missing _ => do
        if verbose then Run.sayLine (name ++ ": not found".toList)
        return 127

def type' (ws : List Octets) : Run Nat := do
  let mut status := 0
  for name in ws do status := status ||| (← describe true none name)
  return status

def command (ws : List Octets) : Run Nat := do
  let (options, words) ← Options.read "pvV" "" ws
  let path := if options.any (·.1 == 'p') then some Search.standardPath else none
  let kinds := (options.map (·.1)).filter (· != 'p')
  match words with
  | name :: _ => if kinds.isEmpty then return 0 else describe (kinds.contains 'V') path name
  | [] => return 0

end SmokeSuite.Shell.Builtin
