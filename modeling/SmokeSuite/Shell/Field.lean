import SmokeSuite.Files.Tree
import SmokeSuite.Shell.Pattern

namespace SmokeSuite.Shell

inductive Splitting where
  | none
  | fields
  | zeros
  deriving DecidableEq, Inhabited

structure Stretch where
  cells : List Cell
  splitting : Splitting
  deriving DecidableEq, Inhabited

namespace Field

def standardSeparators : Octets := [' ', '\t', '\n']

structure Splitter where
  /-- The fields that are complete, the last one first. -/
  fields : List (List Cell) := []
  current : List Cell := []
  /-- Whether a blank has just ended a field, so that more of them belong to it. -/
  isBlank : Bool := false
  limit : Option Nat := Option.none
  /-- How much of the last field is left of what may be cut off it. -/
  cut : Option Nat := Option.none
  before : Splitting := .none
  deriving Inhabited

namespace Splitter

def push (s : Splitter) (c : Cell) : Splitter := { s with current := c :: s.current }

def complete (s : Splitter) : Splitter :=
  { s with fields := s.current.reverse :: s.fields, current := [] }

/-- Adds a character of the last field, which is not split any more. Blanks at its end are cut off, and
one other separator if nothing else follows. -/
def pushLast (s : Splitter) (isSeparator isBlank : Bool) (c : Cell) : Splitter :=
  if isBlank then { s with cut := s.cut.or (some s.current.length) }.push c
  else
    { s with cut := if isSeparator && s.isBlank then s.cut else Option.none, isBlank := false }.push c

/-- Adds a character that may be a separator. `hard` tells that each separator counts, blank or not. -/
def pushChar (hard isSeparator isBlank : Bool) (s : Splitter) (c : Cell) : Splitter :=
  if s.limit = some 0 then s.pushLast isSeparator isBlank c
  else if s.isBlank then
    if isSeparator then { s with isBlank := isBlank } else { s with isBlank := false }.push c
  else if isSeparator then
    let s := if hard then s else { s with isBlank }
    if s.current.isEmpty && s.isBlank then { s with isBlank := false }
    else if s.limit = some 1 then
      { s with cut := some s.current.length, limit := some 0 }.push c
    else { s with limit := s.limit.map (· - 1) }.complete
  else { s with isBlank := false }.push c

def pushStretch (ifs : Octets) (s : Splitter) (t : Stretch) : Splitter :=
  match t.splitting with
  | .none => t.cells.foldl push s
  | splitting =>
    let ifs := if splitting == .zeros then [] else ifs
    let hard := splitting == .zeros || s.before == .zeros
    let s := t.cells.foldl (fun s c => match c with
      | .mark => s.push .mark
      | .char c q =>
        let isSeparator := c == '\x00' || ifs.contains c
        let isBlank := isSeparator && (c == '\x00' || standardSeparators.contains c)
        pushChar hard isSeparator isBlank s (.char c q)) { s with isBlank := false }
    { s with before := splitting }

def finish (s : Splitter) : List (List Cell) :=
  let s := if s.before == .zeros then s.complete
    else
      let s := match s.cut with
        | some n => { s with current := s.current.drop (s.current.length - n) }
        | Option.none => s
      if s.current.isEmpty then s else s.complete
  s.fields.reverse

end Splitter

def split (ifs : Option Octets) (ss : List Stretch) : List (List Cell) :=
  (ss.foldl (Splitter.pushStretch (ifs.getD standardSeparators)) {}).finish

/-- The fields of an expanded word, so many at most; the last one holds all that is left. -/
def splitLimited (ifs : Option Octets) (limit : Nat) (ss : List Stretch) : List (List Cell) :=
  (ss.foldl (Splitter.pushStretch (ifs.getD standardSeparators)) { limit := some limit }).finish

def isPattern (f : List Cell) : Bool :=
  f.any fun c => match c with
    | .char c _ => c == '*' || c == '?' || c == '['
    | .mark => false

/-- The names in a path that is a pattern. A slash ends a name even behind a backslash. -/
def names (s : Octets) : List Octets := go (s.length + 1) [] s
where
  go : Nat → Octets → Octets → List Octets
    | 0, _, _ => []
    | _ + 1, name, [] => [name.reverse]
    | fuel + 1, name, '/' :: r => name.reverse :: go fuel [] r
    | fuel + 1, name, '\\' :: '/' :: r => name.reverse :: go fuel [] r
    | fuel + 1, name, '\\' :: c :: r => go fuel (c :: '\\' :: name) r
    | fuel + 1, name, c :: r => go fuel (c :: name) r

def hasClosing : Nat → Octets → Bool
  | 0, _ => false
  | fuel + 1, s =>
    match if s.head? == some '\\' then s.drop 1 else s with
    | [] => false
    | _ :: r => r.head? == some ']' || hasClosing fuel r

def isNamePattern : Octets → Bool
  | [] => false
  | '\\' :: _ :: r => isNamePattern r
  | '*' :: _ | '?' :: _ => true
  | '[' :: r =>
    hasClosing r.length (if r.head? == some '!' then r.drop 1 else r) || isNamePattern r
  | _ :: r => isNamePattern r

def plainName : Octets → Octets
  | [] => []
  | '\\' :: c :: r => c :: plainName r
  | c :: r => c :: plainName r

def entries (files : FileTree) (directory : Location) (path : Octets) : List Octets :=
  let path : Octets := if path.isEmpty then ['.'] else path
  match files.follow directory path.toPath with
  | .ok (l, .directory) => ['.'] :: ['.', '.'] :: (files.names l).map Octets.ofString
  | _ => []

/-- The paths that begin in a given way and go on as patterns say. A name with a dot in front is found
only if the pattern begins with one. -/
def matching (files : FileTree) (directory : Location) : Octets → List Octets → List Octets
  | start, [] => [start]
  | start, name :: rest =>
    let sep : Octets := if rest.isEmpty then [] else ['/']
    if !isNamePattern name then
      let path : Octets := start ++ plainName name ++ sep
      if rest.isEmpty && (files.at? directory path.toPath).isNone then []
      else matching files directory path rest
    else
      let p := Pattern.ofText name
      let showsDots := (plainName name).head? == some '.'
      ((entries files directory start).filter fun n =>
        (showsDots || n.head? != some '.') && Pattern.fits p n).flatMap fun n =>
          matching files directory (start ++ n ++ sep) rest

/-- The names of files that a field's pattern matches, or its text if there are none. -/
def named (files : FileTree) (directory : Location) (f : List Cell) : List Octets :=
  let ns := names (Cell.pattern false f)
  let found := if isPattern f && ns.any isNamePattern then matching files directory [] ns else []
  if found.isEmpty then [Cell.text f] else List.mergeSort found fun a b => !(b < a)

end Field

end SmokeSuite.Shell
