import SmokeSuite.Text.Octets

namespace SmokeSuite.Shell

/-- What stands in for a parameter that has no value, or what else is done about it. -/
inductive Fallback where
  | use
  | assign
  | fail
  | replace
  deriving DecidableEq, Inhabited

inductive Access where
  | read
  | write
  /-- Writes to a file that may be there even if that is not allowed otherwise. -/
  | overwrite
  | append
  | update
  deriving DecidableEq, Inhabited

mutual

inductive Part where
  | text (quoted : Bool) (s : Octets)
  | quoted (parts : List Part)
  | parameter (name : Octets) (form : Form)
  | output (commands : Command)
  | arithmetic (expression : List Part)

inductive Form where
  | value
  | length
  /-- `emptyCounts` tells that an empty value is as good as none. -/
  | fallback (kind : Fallback) (emptyCounts : Bool) (word : List Part)
  | trim (atEnd longest : Bool) (pattern : List Part)
  | bad

inductive Redirect where
  | file (channel : Nat) (access : Access) (path : List Part)
  | duplicate (channel : Nat) (source : List Part)
  /-- The document of a number: it is read only after the line of the redirection. -/
  | document (channel number : Nat)

inductive Command where
  | nothing
  | simple (line : Nat) (assignments : List (Octets × List Part)) (words : List (List Part))
    (redirects : List Redirect)
  | redirected (line : Nat) (body : Command) (redirects : List Redirect)
  | subshell (line : Nat) (body : Command) (redirects : List Redirect)
  | background (line : Nat) (body : Command) (redirects : List Redirect)
  | pipeline (stages : List Command) (waits : Bool)
  | negated (body : Command)
  | sequence (first second : Command)
  /-- The second command runs if the first one succeeds, or if it fails. -/
  | both (first second : Command)
  | either (first second : Command)
  | conditional (test body otherwise : Command)
  | loop (ending : Bool) (test body : Command)
  | forEach (line : Nat) (name : Octets) (words : List (List Part)) (body : Command)
  | choice (line : Nat) (word : List Part) (branches : List (List (List Part) × Command))
  | function (name : Octets) (body : Command)

end

abbrev Word := List Part

instance : Inhabited Part := ⟨.text false []⟩

instance : Inhabited Form := ⟨.value⟩

instance : Inhabited Redirect := ⟨.document 0 0⟩

instance : Inhabited Command := ⟨.nothing⟩

def isNameStart (c : Char) : Bool := c.isAlpha || c == '_'

def isNameChar (c : Char) : Bool := c.isAlphanum || c == '_'

def isName (s : Octets) : Bool :=
  match s with
  | [] => false
  | c :: r => isNameStart c && r.all isNameChar

def isSpecial (c : Char) : Bool :=
  c == '@' || c == '*' || c == '#' || c == '?' || c == '-' || c == '$' || c == '!'

/-- The commands of the shell that belong to the language itself: no function takes their names, and a
fault in one of them ends the script. -/
def isSpecialCommand (name : Octets) : Bool :=
  [".", ":", "break", "continue", "eval", "exec", "exit", "export", "local", "readonly", "return", "set",
    "shift", "times", "trap", "unset"].contains (String.ofList name)

def bareText? : Word → Option Octets
  | [] => some []
  | [.text false t] => some t
  | _ => none

def assignment? (w : Word) : Option (Octets × Word) :=
  match w with
  | .text false t :: rest =>
    let name := t.takeWhile (· != '=')
    if isName name && name.length < t.length then
      let value := t.drop (name.length + 1)
      some (name, if value.isEmpty then rest else .text false value :: rest)
    else none
  | _ => none

end SmokeSuite.Shell
