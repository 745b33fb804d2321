import SmokeSuite.Utility.Call

namespace SmokeSuite

inductive Demand where
  | nothing
  | perhaps
  | something
  deriving DecidableEq, Inhabited

/-- An option that a program knows, by a letter or a name or both. -/
structure Knob where
  letter : Option Char
  name : Option String
  demand : Demand := .nothing
  deriving DecidableEq, Inhabited

namespace Knob

def key (k : Knob) : String := k.name.getD (String.ofList k.letter.toList)

def flag (letter : Char) (name : String) : Knob := { letter, name }

def valued (letter : Char) (name : String) : Knob := { letter, name, demand := .something }

def letters (s : String) : List Knob := s.toList.map fun c => { letter := some c, name := none }

def named (names : List String) : List Knob := names.map fun n => { letter := none, name := some n }

def everywhere : List Knob := named ["help", "version"]

end Knob

/-- Why the options cannot be used. -/
inductive OptionFault where
  | unknownLetter (c : Char)
  | unknownName (word : Octets)
  | ambiguous (word : Octets) (names : List String)
  | unwantedValue (name : String)
  | missingValue (name : String)
  | missingLetterValue (c : Char)
  deriving DecidableEq, Inhabited

def OptionFault.text : OptionFault → Octets
  | .unknownLetter c => "invalid option -- '".toList ++ [c, '\'']
  | .unknownName word => "unrecognized option '--".toList ++ word ++ ['\'']
  | .ambiguous word names => "option '--".toList ++ word ++ "' is ambiguous; possibilities:".toList ++
      names.flatMap fun n => " '--".toList ++ n.toList ++ ['\'']
  | .unwantedValue name => ("option '--" ++ name ++ "' doesn't allow an argument").toList
  | .missingValue name => ("option '--" ++ name ++ "' requires an argument").toList
  | .missingLetterValue c => "option requires an argument -- '".toList ++ [c, '\'']

/-- The options that were found, in order, and the operands. -/
structure Choices where
  found : List (String × Octets) := []
  operands : List Octets := []
  deriving Inhabited

namespace Choices

def has (o : Choices) (key : String) : Bool := o.found.any (·.1 == key)

def value? (o : Choices) (key : String) : Option Octets := o.found.reverse.lookup key

def lastOf (o : Choices) (keys : List String) : Option (String × Octets) :=
  o.found.reverse.find? fun f => keys.contains f.1

/-- What the letters of a word come to: options, and one at the end perhaps that waits for a value. -/
def letters (knobs : List Knob) : Octets → Except OptionFault (List (String × Octets) × Option Knob)
  | [] => .ok ([], none)
  | c :: cs =>
    match knobs.find? (·.letter == some c) with
    | none => .error (.unknownLetter c)
    | some k =>
      match k.demand with
      | .nothing => do
        let (found, waiting) ← letters knobs cs
        return ((k.key, []) :: found, waiting)
      | .perhaps => .ok ([(k.key, cs)], none)
      | .something => .ok (if cs.isEmpty then ([], some k) else ([(k.key, cs)], none))

def named (knobs : List Knob) (word : Octets) :
    Except OptionFault (List (String × Octets) × Option Knob) :=
  let start := word.takeWhile (· != '=')
  let value := if word.contains '=' then some (word.drop (start.length + 1)) else none
  let fits := knobs.filter fun k => k.name.any fun n => start.isPrefixOf n.toList
  let meant : Except OptionFault Knob := match fits.find? (·.name == some (String.ofList start)), fits with
    | some k, _ => .ok k
    | none, [k] => .ok k
    | none, [] => .error (.unknownName word)
    | none, ks => .error (.ambiguous word (ks.filterMap (·.name)))
  match meant with
  | .error e => .error e
  | .ok k =>
    match k.demand, value with
    | .nothing, some _ => .error (.unwantedValue k.key)
    | .something, none => .ok ([], some k)
    | _, value => .ok ([(k.key, value.getD [])], none)

/-- Reads words, some of which may be options behind operands if the options `mix`. -/
def ofWords (knobs : List Knob) (mix : Bool) : List Octets → Except OptionFault Choices
  | [] => .ok {}
  | w :: ws =>
    let read : Option (Except OptionFault (List (String × Octets) × Option Knob)) :=
      match w with
      | '-' :: '-' :: name => some (named knobs name)
      | '-' :: c :: cs => some (letters knobs (c :: cs))
      | _ => none
    if w == ['-', '-'] then .ok { operands := ws }
    else match read with
      | none =>
        if mix then do
          let o ← ofWords knobs mix ws
          return { o with operands := w :: o.operands }
        else .ok { operands := w :: ws }
      | some (.error e) => .error e
      | some (.ok (found, none)) => do
        let o ← ofWords knobs mix ws
        return { o with found := found ++ o.found }
      | some (.ok (found, some k)) =>
        match ws with
        | [] => .error (match k.letter, w with
          | some c, '-' :: d :: _ => if d == '-' then .missingValue k.key else .missingLetterValue c
          | _, _ => .missingValue k.key)
        | value :: ws => do
          let o ← ofWords knobs mix ws
          return { o with found := found ++ (k.key, value) :: o.found }

end Choices

namespace Call

/-- The options and operands of a call; it ends if they cannot be used. -/
def choices (c : Call) (knobs : List Knob) (mix : Bool) : Act Choices := do
  let mix := mix && (c.lookup? "POSIXLY_CORRECT").isNone
  match Choices.ofWords (knobs ++ Knob.everywhere) mix c.arguments with
  | .error e => c.refuse e.text
  | .ok o => if o.has "help" || o.has "version" then Act.exit 0 else return o

end Call

end SmokeSuite
