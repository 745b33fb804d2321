import SmokeSuite.Kernel.Basic
import SmokeSuite.Text.Integer

namespace SmokeSuite.Shell.Test

/-- Why words are no condition. -/
inductive Fault where
  | illegalNumber (word : Octets)
  | unexpectedOperator (word : Octets)
  | missingArgument (operator : Octets)
  | missingParenthesis
  | missingBracket
  deriving DecidableEq, Inhabited

def Fault.text : Fault → Octets
  | .illegalNumber word => "Illegal number: ".toList ++ word
  | .unexpectedOperator word =>
    if word.isEmpty then "unexpected operator".toList else word ++ ": unexpected operator".toList
  | .missingArgument operator => operator ++ ": argument expected".toList
  | .missingParenthesis => "closing paren expected".toList
  | .missingBracket => "missing ]".toList

/-- What a condition may ask about: the files, and what the channels lead to. -/
structure World where
  files : FileTree
  directory : Location
  channel : Nat → Option ChannelKind

inductive Thing where
  | file (isEmpty executable : Bool)
  | directory
  | device
  | pipe
  deriving DecidableEq, Inhabited

namespace World

def thingAt? (w : World) (path : Octets) : Option Thing :=
  let ofEntry : FileEntry → Thing
    | .file content executable => .file content.isEmpty executable
    | .directory => .directory
    | .device _ => .device
  match Kernel.channelOf? path with
  | some n =>
    match w.channel n with
    | none => none
    | some .pipe => some .pipe
    | some .directory => some .directory
    | some (.device _) => some .device
    | some (.file place) => (w.files.entry? place).map ofEntry
  | none => (w.files.at? w.directory path.toPath).map ofEntry

def areSame (w : World) (a b : Octets) : Bool :=
  match w.files.follow w.directory a.toPath, w.files.follow w.directory b.toPath with
  | .ok (l, _), .ok (m, _) => l == m
  | _, _ => false

def ofWords (ws : List Octets) : Act World := do
  let files ← Act.files
  let directory ← Act.directory
  let kinds ← (ws.filterMap Kernel.channelOf?).mapM fun n => do return (n, ← Act.inspect n)
  return { files, directory, channel := fun n => (kinds.lookup n).bind id }

end World

def questions : List String :=
  ["-r", "-w", "-x", "-e", "-f", "-d", "-c", "-b", "-p", "-u", "-g", "-k", "-s", "-t", "-z", "-n",
    "-h", "-O", "-G", "-L", "-S"]

def comparisons : List String :=
  ["=", "!=", "<", ">", "-eq", "-ne", "-ge", "-gt", "-le", "-lt", "-nt", "-ot", "-ef"]

/-- What a word may be besides an operand. -/
inductive Operator where
  | question (name : String)
  | comparison (name : String)
  | not
  | and
  | or
  | open
  | close
  deriving DecidableEq, Inhabited

def operator? (word : Octets) : Option Operator :=
  match String.ofList word with
  | "!" => some .not
  | "-a" => some .and
  | "-o" => some .or
  | "(" => some .open
  | ")" => some .close
  | s =>
    if questions.contains s then some (.question s)
    else if comparisons.contains s then some (.comparison s)
    else none

def isComparison (word : Octets) : Bool :=
  match operator? word with
  | some (.comparison _) => true
  | _ => false

/-- What the word at the start of some words is read as; there is no word at their end. -/
inductive Reading where
  | nothing
  | operand
  | operator (o : Operator)
  deriving DecidableEq, Inhabited

/-- A question counts as an operand if nothing is there to ask about, or if it is compared itself; so
does an opening parenthesis behind which nothing stands. -/
def read : List Octets → Reading
  | [] => .nothing
  | w :: rest =>
    match operator? w with
    | none => .operand
    | some (.question name) =>
      match rest with
      | [] => .operand
      | [_] => .operator (.question name)
      | next :: _ => if isComparison next then .operand else .operator (.question name)
    | some .open => if rest.isEmpty then .operand else .operator .open
    | some o => .operator o

def ask (w : World) (question : String) (word : Octets) : Except Fault Bool :=
  let thing := w.thingAt? word
  match question with
  | "-z" => .ok word.isEmpty
  | "-n" => .ok !word.isEmpty
  | "-t" =>
    match Integer.ofText? 10 word with
    | some _ => .ok false
    | none => .error (.illegalNumber word)
  | "-e" | "-r" | "-w" | "-O" | "-G" => .ok thing.isSome
  | "-f" => .ok (match thing with
    | some (.file ..) => true
    | _ => false)
  | "-d" => .ok (thing == some .directory)
  | "-c" => .ok (thing == some .device)
  | "-p" => .ok (thing == some .pipe)
  | "-s" => .ok (match thing with
    | some (.file isEmpty _) => !isEmpty
    | some .directory => true
    | _ => false)
  | "-x" => .ok (match thing with
    | some (.file _ executable) => executable
    | some .directory => true
    | _ => false)
  | _ => .ok false

def compare (w : World) (a : Octets) (sign : String) (b : Octets) : Except Fault Bool :=
  let numbers (f : Int → Int → Bool) : Except Fault Bool := do
    let number (word : Octets) : Except Fault Int :=
      match Integer.ofText? 10 word with
      | some n => .ok n
      | none => .error (.illegalNumber word)
    return f (← number a) (← number b)
  match sign with
  | "=" => .ok (a == b)
  | "!=" => .ok (a != b)
  | "<" => .ok (a < b)
  | ">" => .ok (b < a)
  | "-eq" => numbers (· == ·)
  | "-ne" => numbers (· != ·)
  | "-lt" => numbers (· < ·)
  | "-le" => numbers (· ≤ ·)
  | "-gt" => numbers (· > ·)
  | "-ge" => numbers (· ≥ ·)
  | "-ef" => .ok (w.areSame a b)
  | _ => .ok false

mutual

/-- A condition made of parts joined by `-o`. The answer comes with the words from the last one of the
condition on. The number bounds the words. -/
def anyOf (w : World) : Nat → Reading → List Octets → Except Fault (Bool × List Octets)
  | 0, _, ws => .ok (false, ws)
  | fuel + 1, r, ws => do
    let (a, ws) ← allOf w fuel r ws
    if read (ws.drop 1) == .operator .or then
      let ws := ws.drop 2
      let (b, ws) ← anyOf w fuel (read ws) ws
      return (a || b, ws)
    else return (a, ws)

def allOf (w : World) : Nat → Reading → List Octets → Except Fault (Bool × List Octets)
  | 0, _, ws => .ok (false, ws)
  | fuel + 1, r, ws => do
    let (a, ws) ← negated w fuel r ws
    if read (ws.drop 1) == .operator .and then
      let ws := ws.drop 2
      let (b, ws) ← allOf w fuel (read ws) ws
      return (a && b, ws)
    else return (a, ws)

def negated (w : World) : Nat → Reading → List Octets → Except Fault (Bool × List Octets)
  | 0, _, ws => .ok (false, ws)
  | fuel + 1, r, ws => do
    if r == .operator .not then
      let next := read (ws.drop 1)
      let (a, ws) ← negated w fuel next (if next == .nothing then ws else ws.drop 1)
      return (!a, ws)
    else simple w fuel r ws

def simple (w : World) : Nat → Reading → List Octets → Except Fault (Bool × List Octets)
  | 0, _, ws => .ok (false, ws)
  | fuel + 1, r, ws => do
    let word := ws.head?.getD []
    match r with
    | .nothing => return (false, ws)
    | .operator .open =>
      let inner := ws.drop 1
      if read inner == .operator .close then return (false, inner)
      let (a, ws) ← anyOf w fuel (read inner) inner
      let ws := ws.drop 1
      if read ws == .operator .close then return (a, ws) else throw .missingParenthesis
    | .operator (.question name) =>
      match ws.drop 1 with
      | [] => throw (.missingArgument name.toList)
      | b :: rest => return (← ask w name b, b :: rest)
    | _ =>
      match ws.drop 1 with
      | sign :: rest =>
        match read (sign :: rest) with
        | .operator (.comparison name) =>
          match rest with
          | [] => throw (.missingArgument name.toList)
          | b :: rest => return (← compare w word name b, b :: rest)
        | _ => return (!word.isEmpty, ws)
      | [] => return (!word.isEmpty, ws)

end

/-- How the words of a condition are read at first. Three words with a comparison between two others are
one. Of three words or four, the first may deny the others (denying twice is no more than denying once),
and parentheses around them count for nothing. -/
def opening : Nat → Bool → List Octets → Bool × Reading × List Octets
  | 0, denied, ws => (denied, read ws, ws)
  | depth + 1, denied, ws =>
    match ws with
    | first :: others =>
      if ws.length = 3 && isComparison (others.head?.getD []) then (denied, .operand, ws)
      else if ws.length = 3 || ws.length = 4 then
        if first == ['('] && ws.getLast? == some [')'] then
          let inner := others.dropLast
          (denied, read inner, inner)
        else if first == ['!'] then opening depth true others
        else (denied, read ws, ws)
      else (denied, read ws, ws)
    | [] => (denied, .nothing, [])

def holds (w : World) (ws : List Octets) : Except Fault Bool := do
  if ws.isEmpty then return false
  let (denied, r, ws) := opening ws.length false ws
  let (answer, rest) ← anyOf w (8 * ws.length + 16) r ws
  match rest with
  | a :: _ :: _ => throw (.unexpectedOperator a)
  | _ => return answer != denied

def unbracketed (ws : List Octets) : Except Fault (List Octets) :=
  if ws.getLast? == some [']'] then .ok ws.dropLast else .error .missingBracket

end SmokeSuite.Shell.Test
