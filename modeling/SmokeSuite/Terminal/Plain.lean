namespace SmokeSuite.Terminal

inductive Phase where
  | text
  | escape
  /-- Behind an escape character and characters that only prepare the last one. -/
  | prepared
  | control
  | command
  /-- In a string for a device, or one that no device reads. -/
  | string
  deriving DecidableEq, Inhabited

namespace Phase

def escapeMark : Char := '\x1b'

def breaksOff (c : Char) : Bool := c == '\x18' || c == '\x1a'

def isControl (c : Char) : Bool := c < ' '

/-- Control characters that are white space; they keep their effect also inside of a sequence. -/
def isSpacing (c : Char) : Bool := c == '\t' || c == '\n' || c == '\x0c' || c == '\r'

def delete : Char := '\x7f'

def ofEscaped (c : Char) : Phase :=
  match c with
  | '[' => .control
  | ']' => .command
  | 'P' | 'X' | '^' | '_' => .string
  | c => if c < '0' then .prepared else .text

/-- The phase behind a character of ASCII that is no control character. -/
def behind (p : Phase) (c : Char) : Phase :=
  match p with
  | .text => .text
  | .escape => ofEscaped c
  | .prepared => if c < '0' then .prepared else .text
  | .control => if c < '@' then .control else .text
  | .command => .command
  | .string => .string

/-- Reads a character: the phase behind it, and what is shown of it. A character beyond ASCII that
stands inside of a sequence loses its first byte there, and the rest of it is no text. -/
def read (p : Phase) (c : Char) : Phase × List Char :=
  if c == escapeMark then (.escape, [])
  else if breaksOff c then (.text, [])
  else if c == delete then (p, [])
  else if c.toNat ≥ 0x80 then
    if p == .text then (.text, [c]) else (.text, List.replicate (c.utf8Size - 1) '\uFFFD')
  else if isControl c then
    match p with
    | .command => (if c == '\x07' then .text else .command, [])
    | .string => (.string, [])
    | p => if isSpacing c then (.text, [c]) else (p, [])
  else (p.behind c, if p == .text then [c] else [])

def shown (p : Phase) : List Char → List Char
  | [] => []
  | c :: r => (p.read c).2 ++ (p.read c).1.shown r

end Phase

def plain (s : String) : String := String.ofList (Phase.text.shown s.toList)

end SmokeSuite.Terminal
