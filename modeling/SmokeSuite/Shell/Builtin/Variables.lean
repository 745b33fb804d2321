import SmokeSuite.Shell.Builtin.Options
import SmokeSuite.Shell.Expansion

namespace SmokeSuite.Shell.Builtin

def list (prefix' : Octets) (vs : Variables) : Run Unit :=
  vs.sorted.forM fun v => Run.sayLine (prefix' ++ v.text)

def definition (word : Octets) : Octets × Option Octets :=
  match Text.cutAt '=' word with
  | some (name, value) => (name, some value)
  | none => (word, none)

/-- Gives variables an attribute, and lists those that have it if none are named. -/
def mark (command : String) (has : Variable → Bool) (isExported isConstant : Bool)
    (ws : List Octets) : Run Nat := do
  let (options, names) ← Options.read "p" "" ws
  if !options.isEmpty || names.isEmpty then
    list (command.toList ++ [' ']) ((← get).table.filter has)
  else
    for word in names do
      let (name, value) := definition word
      match value, (← get).table.find? name with
      | none, some v =>
        modify fun s => { s with
          table := s.table.put { v with
            isExported := v.isExported || isExported, isConstant := v.isConstant || isConstant } }
      | none, none => do
        Run.checkName name
        modify fun s => { s with
          table := s.table.put { name, value := none, isExported, isConstant } }
      | some value, _ => do
        Run.checkName name
        Run.assign name value isExported isConstant
  return 0

def export' : List Octets → Run Nat := mark "export" (·.isExported) true false

def readonly : List Octets → Run Nat := mark "readonly" (·.isConstant) false true

def unset (ws : List Octets) : Run Nat := do
  let (options, names) ← Options.read "vf" "" ws
  for name in names do
    if (options.getLast?.map (·.1)) == some 'f' then
      modify fun s => { s with functions := s.functions.filter (·.1 != name) }
    else
      Run.checkName name
      Run.unset name
  return 0

def local' (ws : List Octets) : Run Nat := do
  if (← get).scopes.isEmpty then Run.faultText "not in a function"
  for word in ws do
    if word == ['-'] then Run.save (.settings (← get).settings)
    else
      let (name, value) := definition word
      Run.makeLocal name value false
  return 0

def listSettings : Run Unit := do
  Run.sayLine "Current option settings".toList
  let s ← get
  for o in Setting.all do
    let name := o.name.toList
    Run.sayLine (name ++ List.replicate (16 - name.length) ' ' ++
      (if s.isOn o then "on" else "off").toList)

def listSettingCommands : Run Unit := do
  let s ← get
  for o in Setting.all do
    Run.sayLine ((if s.isOn o then "set -o " else "set +o ").toList ++ o.name.toList)

/-- What follows when settings have changed: without a terminal no jobs are controlled. -/
def settleSettings : Run Unit := do
  if (← get).isOn .monitor then
    Run.warn "can't access tty; job control turned off".toList
    modify fun s => { s with settings := s.settings.set .monitor false }

/-- Turns settings on or off by the letters of a word; `rest` are the words behind it. What is left of
these is the answer. -/
def setLetters (on : Bool) : List Octets → Octets → Run (List Octets)
  | rest, [] => return rest
  | rest, 'o' :: cs => do
    match rest with
    | [] => do
      if on then listSettings else listSettingCommands
      setLetters on [] cs
    | name :: rest =>
      match Setting.ofName? name with
      | some o => do
        modify fun s => { s with settings := s.settings.set o on }
        setLetters on rest cs
      | none => Run.fault ("Illegal option -o ".toList ++ name)
  | rest, c :: cs => do
    match Setting.ofLetter? c with
    | some o => do
      modify fun s => { s with settings := s.settings.setByLetter o on }
      setLetters on rest cs
    | none => Run.fault ("Illegal option -".toList ++ [c])

/-- Reads settings at the start of some words. The arguments are set to what follows, if anything does or
if two hyphens stand before it. The number bounds the words. -/
def setFrom : Nat → List Octets → Run Unit
  | 0, _ => pure ()
  | fuel + 1, ws => do
    let setArguments (ws : List Octets) : Run Unit :=
      modify fun s => { s with arguments := ws, optionPlace := {} }
    match ws with
    | [] => pure ()
    | ['-'] :: rest => do
      modify fun s => { s with
        settings := (s.settings.set .xtrace false).set .verbose false }
      if !rest.isEmpty then setArguments rest
    | ['-', '-'] :: rest => setArguments rest
    | ('-' :: cs) :: rest => do setFrom fuel (← setLetters true rest cs)
    | ('+' :: cs) :: rest => do setFrom fuel (← setLetters false rest cs)
    | ws => setArguments ws

def set (ws : List Octets) : Run Nat := do
  if ws.isEmpty then list [] ((← get).table.filter (·.value.isSome))
  else
    setFrom (ws.length + 1) ws
    settleSettings
  return 0

def shift (ws : List Octets) : Run Nat := do
  let n ← match ws with
    | [] => pure 1
    | word :: _ => Run.count word
  if n > (← get).arguments.length then Run.faultText "can't shift that many"
  modify fun s => { s with arguments := s.arguments.drop n, optionPlace := {} }
  return 0

/-- What the next option is: its letter, what is left of the words (`index` and `offset`), its value, and
whether there is none any more. -/
structure NextOption where
  letter : Char := '?'
  place : OptionPlace
  value : Option Octets
  message : Octets := []
  isOver : Bool := false

/-- Whether an option takes a value, if its letter is among those that are allowed. A colon behind a
letter tells that it does. -/
def takesValue? (letter : Char) : Octets → Option Bool
  | [] => none
  | c :: ':' :: r => if c == letter then some true else takesValue? letter r
  | c :: r => if c == letter then some false else takesValue? letter r

/-- Looks for the next option among some words. A word that is begun goes on; else the next one has to
begin with a hyphen. A colon in front of the letters asks for silence. -/
def nextOption (letters : Octets) (words : List Octets) (p : OptionPlace) : NextOption :=
  let isQuiet := letters.head? == some ':'
  let rest := match p.offset with
    | some n => if p.index ≤ 1 then [] else (words[p.index - 2]?.getD []).drop n
    | none => []
  let next : Octets × Nat :=
    if !rest.isEmpty then (rest, p.index)
    else match words[p.index - 1]? with
      | some ('-' :: cs) => if cs.isEmpty then ([], p.index) else (cs, p.index + 1)
      | _ => ([], p.index)
  let index := next.2
  /- The place where so much is left of the word at hand. -/
  let placeOf (rest : Octets) : OptionPlace :=
    { index, offset := some ((words[index - 2]?.getD []).length - rest.length) }
  match next.1 with
  | [] => { place := { index }, value := none, isOver := true }
  | c :: cs =>
    if rest.isEmpty && c == '-' && cs.isEmpty then
      { place := { index }, value := none, isOver := true }
    else match takesValue? c letters with
      | none =>
        { place := placeOf cs
          value := if isQuiet then some [c] else none
          message := if isQuiet then [] else "Illegal option -".toList ++ [c, '\n'] }
      | some false => { letter := c, place := placeOf cs, value := some [] }
      | some true =>
        if !cs.isEmpty then { letter := c, place := { index }, value := some cs }
        else match words[index - 1]? with
          | some value => { letter := c, place := { index := index + 1 }, value := some value }
          | none =>
            { letter := if isQuiet then ':' else '?'
              place := placeOf []
              value := if isQuiet then some [c] else none
              message := if isQuiet then [] else "No arg for -".toList ++ [c] ++ " option\n".toList }

def getopts (ws : List Octets) : Run Nat := do
  match ws with
  | letters :: name :: words => do
    let s ← get
    let words := if words.isEmpty then s.arguments else words
    let place := if s.optionPlace.index > words.length + 1 then {} else s.optionPlace
    let found := nextOption letters words place
    let optionVariable := "OPTARG".toList
    discard (Run.write 2 found.message)
    match found.value with
    | some value => Run.setVariable optionVariable value
    | none => if !found.isOver then Run.unset optionVariable
    modify fun s => { s with table := s.table.set "OPTIND".toList (Octets.ofNat found.place.index) }
    Run.setVariable name [found.letter]
    modify fun s => { s with optionPlace := found.place }
    return if found.isOver then 1 else 0
  | _ => Run.faultText "Usage: getopts optstring var [arg...]"

end SmokeSuite.Shell.Builtin
