import SmokeSuite.Shell.WordReader

namespace SmokeSuite.Shell

structure Outlook where
  skipsLines : Bool := false
  keywords : Bool := false
  aliases : Bool := false
  isMark : Bool := false

namespace Outlook

def command : Outlook := { keywords := true, aliases := true }

def laterCommand : Outlook := { skipsLines := true, keywords := true, aliases := true }

end Outlook

inductive ListPlace where
  | line
  /-- It is a part of a command and may not be empty. -/
  | body
  | branch
  deriving DecidableEq, Inhabited

/-- How lists of commands are read, and single commands. -/
structure Grammar where
  list : ListPlace → Reading Command
  command : Outlook → Reading Command

namespace Reading

def skipComment : Nat → Reading Unit
  | 0 => pure ()
  | fuel + 1 => fun s =>
    match s.next? with
    | none => .ok ((), s)
    | some ('\n', _) => .ok ((), s)
    | some (_, s) => skipComment fuel s

/-- The sign of a redirection behind `<` or `>`, with the number in front of it if there is one. -/
def redirectSign (c : Char) (number : Option Nat) : Reading RedirectSign := do
  if c == '>' then
    let channel := number.getD 1
    if ← skip? '>' then return .file channel .append
    if ← skip? '|' then return .file channel .overwrite
    if ← skip? '&' then return .duplicate channel
    return .file channel .write
  else
    let channel := number.getD 0
    if ← skip? '<' then return .document channel (← skip? '-')
    if ← skip? '&' then return .duplicate channel
    if ← skip? '>' then return .file channel .update
    return .file channel .read

def isQuotedWord (w : Word) : Bool :=
  w.any fun p => match p with
    | .text quoted _ => quoted
    | .quoted _ => true
    | _ => false

def channelNumber? (w : Word) : Option (Option Nat) :=
  match w with
  | [] => some none
  | [.text false [c]] => if c.isDigit then some (some (c.toNat - '0'.toNat)) else none
  | _ => none

def wordToken (g : Grammar) (isMark : Bool) : Reading Token := do
  let taken ← parts (g.list .branch) none pieces (if isMark then .mark else .word) {}
  let w := taken.word
  match ← peekJoined, channelNumber? w with
  | some '<', some number => do
    discard nextJoined
    return .redirect (← redirectSign '<' number)
  | some '>', some number => do
    discard nextJoined
    return .redirect (← redirectSign '>' number)
  | _, _ => return .word w (isQuotedWord w)

def freshToken (g : Grammar) (isMark : Bool) : Nat → Reading Token
  | 0 => pure .end
  | fuel + 1 => do
    let before ← get
    match ← nextJoined with
    | none => return .end
    | some ' ' | some '\t' => freshToken g isMark fuel
    | some '#' => do
      skipComment pieces
      freshToken g isMark fuel
    | some '\n' => do
      countLine
      return .newline
    | some '&' => return if ← skip? '&' then .and else .background
    | some '|' => return if ← skip? '|' then .or else .pipe
    | some ';' => return if ← skip? ';' then .endBranch else .semicolon
    | some '(' => return .open
    | some ')' => return .close
    | some _ => do
      set before
      wordToken g isMark

def anyToken (g : Grammar) (isMark : Bool) : Reading Token := do
  match (← get).kept with
  | some t => do
    modify fun s => { s with kept := none }
    return t
  | none => freshToken g isMark pieces

def skipLines (g : Grammar) : Nat → Token → Reading Token
  | 0, t => pure t
  | fuel + 1, t =>
    match t with
    | .newline => do
      readDocuments (g.list .branch)
      modify fun s => { s with followsAlias := false }
      skipLines g fuel (← freshToken g false pieces)
    | t => pure t

/-- Reads a token. Where aliases count, the text of one is read in place of its name. -/
def tokenFrom (g : Grammar) (o : Outlook) : Nat → Reading Token
  | 0 => pure .end
  | fuel + 1 => do
    let t ← anyToken g o.isMark
    let t ← if o.skipsLines then skipLines g pieces t else pure t
    let s ← get
    let o := { o with aliases := o.aliases || s.followsAlias }
    set { s with followsAlias := false }
    match t with
    | .word w false =>
      match bareText? w with
      | none => return t
      | some text =>
        match if o.keywords then Keyword.ofText? text else none with
        | some k => return .keyword k
        | none =>
          if !o.aliases || s.isReadingAlias text then return t
          else match s.aliases.lookup text with
            | none => return t
            | some value => do
              modify fun s => if value.isEmpty then s else s.pushAlias text value
              tokenFrom g o fuel
    | t => return t

def token (g : Grammar) (o : Outlook) : Reading Token := tokenFrom g o pieces

def keep (t : Token) : Reading Unit := modify fun s => { s with kept := some t }

def expect (g : Grammar) (o : Outlook) (wanted : Token) (matches? : Token → Bool) : Reading Unit := do
  let t ← token g o
  if matches? t then return
  else fault (.unexpected t (some wanted))

def expectKeyword (g : Grammar) (o : Outlook) (k : Keyword) : Reading Unit :=
  expect g o (.keyword k) fun t => match t with
    | .keyword found => found == k
    | _ => false

def here : Reading Nat := do return (← get).line

def markText : Word → Octets
  | [] => []
  | .text _ t :: r => t ++ markText r
  | .quoted ps :: r => quotedText ps ++ markText r
  | _ :: r => markText r
where
  quotedText : List Part → Octets
    | [] => []
    | .text _ t :: r => t ++ quotedText r
    | _ :: r => quotedText r

def target (g : Grammar) (sign : RedirectSign) : Reading Redirect := do
  let isMark := match sign with
    | .document .. => true
    | _ => false
  match ← token g { isMark } with
  | .word w isQuoted =>
    match sign with
    | .file channel access => return .file channel access w
    | .duplicate channel => return .duplicate channel w
    | .document channel stripsTabs => do
      let number := (← get).lastDocument + 1
      modify fun s => { s with
        lastDocument := number
        pending := s.pending ++ [⟨number, markText w, stripsTabs, isQuoted⟩] }
      return .document channel number
  | t => fault (.unexpected t none)

def redirects (g : Grammar) : Nat → Outlook → List Redirect → Reading (List Redirect)
  | 0, _, taken => pure taken.reverse
  | fuel + 1, o, taken => do
    match ← token g o with
    | .redirect sign => redirects g fuel {} ((← target g sign) :: taken)
    | t => do
      keep t
      return taken.reverse

/-- The rest of a simple command, which is a function if parentheses follow its only word. -/
def simple (g : Grammar) (line : Nat) :
    Nat → List (Octets × Word) → List Word → List Redirect → Reading Command
  | 0, _, _, _ => pure .nothing
  | fuel + 1, assignments, words, rs => do
    let finish : Reading Command :=
      return .simple line assignments.reverse words.reverse rs.reverse
    match ← token g { aliases := words.isEmpty } with
    | .word w _ =>
      match words, assignment? w with
      | [], some a => simple g line fuel (a :: assignments) words rs
      | words, _ => simple g line fuel assignments (w :: words) rs
    | .redirect sign => simple g line fuel assignments words ((← target g sign) :: rs)
    | .open =>
      match assignments, words, rs with
      | [], [w], [] => do
        expect g {} .close fun t => match t with
          | .close => true
          | _ => false
        match bareText? w with
        | some name =>
          if isName name && !isSpecialCommand name then
            return .function name (← g.command .laterCommand)
          else fault .badFunctionName
        | none => fault .badFunctionName
      | _, _, _ => do
        keep .open
        finish
    | t => do
      keep t
      finish

def conditional (g : Grammar) : Nat → Reading Command
  | 0 => pure .nothing
  | fuel + 1 => do
    let test ← g.list .body
    expectKeyword g {} .then
    let body ← g.list .body
    match ← token g {} with
    | .keyword .elif => return .conditional test body (← conditional g fuel)
    | .keyword .else => return .conditional test body (← g.list .body)
    | t => do
      keep t
      return .conditional test body .nothing

def loop (g : Grammar) (ending : Bool) : Reading Command := do
  let test ← g.list .body
  expectKeyword g {} .do
  let body ← g.list .body
  expectKeyword g {} .done
  return .loop ending test body

def loopWords (g : Grammar) : Nat → List Word → Reading (List Word × Token)
  | 0, taken => pure (taken.reverse, .end)
  | fuel + 1, taken => do
    match ← token g {} with
    | .word w _ => loopWords g fuel (w :: taken)
    | t => return (taken.reverse, t)

def forEach (g : Grammar) (line : Nat) : Reading Command := do
  let name ← match ← token g {} with
    | .word w false =>
      match bareText? w with
      | some name => if isName name then pure name else fault .badLoopVariable
      | none => fault .badLoopVariable
    | _ => fault .badLoopVariable
  let words ← match ← token g .laterCommand with
    | .keyword .in => do
      let (words, t) ← loopWords g pieces []
      match t with
      | .newline | .semicolon => pure words
      | t => fault (.unexpected t none)
    | t => do
      match t with
      | .semicolon => pure ()
      | t => keep t
      pure [[.quoted [.parameter ['@'] .value]]]
  expectKeyword g .laterCommand .do
  let body ← g.list .body
  expectKeyword g {} .done
  return .forEach line name words body

def patterns (g : Grammar) : Nat → Token → List Word → Reading (List Word)
  | 0, _, taken => pure taken.reverse
  | fuel + 1, t, taken => do
    let taken := match t with
      | .word w _ => w :: taken
      | .keyword k => [.text false k.text.toList] :: taken
      | _ => taken
    match ← token g {} with
    | .pipe => patterns g fuel (← token g {}) taken
    | .close => return taken.reverse
    | t => fault (.unexpected t (some .close))

def branches (g : Grammar) :
    Nat → List (List Word × Command) → Reading (List (List Word × Command))
  | 0, taken => pure taken.reverse
  | fuel + 1, taken => do
    let o : Outlook := { skipsLines := true, keywords := true }
    match ← token g o with
    | .keyword .esac => return taken.reverse
    | t => do
      let t ← match t with
        | .open => token g {}
        | t => pure t
      let ps ← patterns g pieces t []
      let body ← g.list .branch
      let taken := (ps, body) :: taken
      match ← token g o with
      | .keyword .esac => return taken.reverse
      | .endBranch => branches g fuel taken
      | t => fault (.unexpected t (some .endBranch))

def choice (g : Grammar) (line : Nat) : Reading Command := do
  match ← token g {} with
  | .word w _ => do
    expectKeyword g .laterCommand .in
    return .choice line w (← branches g pieces [])
  | t => fault (.unexpected t (some (.word [] false)))

def compound (g : Grammar) (line : Nat) (c : Command) : Reading Command := do
  let rs ← redirects g pieces .command []
  match c with
  | .subshell _ body _ => return .subshell line body rs
  | c => return if rs.isEmpty then c else .redirected line c rs

def command (g : Grammar) (o : Outlook) : Reading Command := do
  let line ← here
  match ← token g o with
  | .keyword .if => do
    let c ← conditional g pieces
    expectKeyword g {} .fi
    compound g line c
  | .keyword .while => do compound g line (← loop g false)
  | .keyword .until => do compound g line (← loop g true)
  | .keyword .for => do compound g line (← forEach g line)
  | .keyword .case => do compound g line (← choice g line)
  | .keyword .open => do
    let c ← g.list .body
    expectKeyword g {} .close
    compound g line c
  | .open => do
    let c ← g.list .body
    expect g {} .close fun t => match t with
      | .close => true
      | _ => false
    compound g line (.subshell line c [])
  | .word w isQuoted => do
    keep (.word w isQuoted)
    simple g (← here) pieces [] [] []
  | .redirect sign => do
    keep (.redirect sign)
    simple g (← here) pieces [] [] []
  | t => fault (.unexpected t none)

def stages (g : Grammar) : Nat → List Command → Reading (List Command)
  | 0, taken => pure taken.reverse
  | fuel + 1, taken => do
    match ← token g {} with
    | .pipe => stages g fuel ((← command g .laterCommand) :: taken)
    | t => do
      keep t
      return taken.reverse

def pipeline (g : Grammar) (o : Outlook) : Reading Command := do
  let isNegated ← match ← token g o with
    | .keyword .not => pure true
    | t => do
      keep t
      pure false
  let first ← command g (if isNegated then .command else {})
  let c ← match ← stages g pieces [first] with
    | [c] => pure c
    | cs => pure (.pipeline cs true)
  return if isNegated then .negated c else c

def andOr (g : Grammar) : Nat → Command → Reading Command
  | 0, c => pure c
  | fuel + 1, c => do
    match ← token g {} with
    | .and => do andOr g fuel (.both c (← pipeline g .laterCommand))
    | .or => do andOr g fuel (.either c (← pipeline g .laterCommand))
    | t => do
      keep t
      return c

def unwaited (line : Nat) : Command → Command
  | .pipeline stages _ => .pipeline stages false
  | .redirected line body rs => .background line body rs
  | c => .background line c []

def append (taken : Option Command) (c : Command) : Command :=
  match taken with
  | none => c
  | some before => .sequence before c

/-- A list of commands behind those that were read; nothing at the end of a script. -/
def listFrom (g : Grammar) (place : ListPlace) :
    Nat → Option Command → Bool → Reading (Option Command)
  | 0, taken, _ => pure taken
  | fuel + 1, taken, mayEnd => do
    let atEnd (taken : Option Command) : Reading (Option Command) := do
      readDocuments (g.list .branch)
      keep .end
      return taken
    let t ← token g { Outlook.command with skipsLines := place != .line }
    match t with
    | .newline => do
      readDocuments (g.list .branch)
      return some (taken.getD .nothing)
    | .end => atEnd (if place == .line then taken else some (taken.getD .nothing))
    | t => do
      keep t
      if mayEnd && t.endsList then return some (taken.getD .nothing)
      let c ← andOr g pieces (← pipeline g {})
      let mayEnd := place != .line
      match ← token g {} with
      | .background => listFrom g place fuel (some (append taken (unwaited (← here) c))) mayEnd
      | .semicolon => listFrom g place fuel (some (append taken c)) mayEnd
      | .newline => do
        keep .newline
        listFrom g place fuel (some (append taken c)) mayEnd
      | .end => atEnd (some (append taken c))
      | t =>
        if place == .line then fault (.unexpected t none)
        else do
          keep t
          return some (append taken c)

def list (g : Grammar) (place : ListPlace) : Reading (Option Command) :=
  listFrom g place pieces none (place == .branch)

end Reading

/-- The grammar for commands that lie in each other so deep at most. -/
def Grammar.ofDepth : Nat → Grammar
  | 0 => ⟨fun _ => Reading.fault (.unexpected .end none),
    fun _ => Reading.fault (.unexpected .end none)⟩
  | depth + 1 =>
    { list := fun place s => (do return (← Reading.list (ofDepth depth) place).getD .nothing) s
      command := fun o s => Reading.command (ofDepth depth) o s }

def Grammar.maxDepth : Nat := 100000

/-- Reads the next line of commands; there is none at the end of the script. -/
def Source.readLine (s : Source) : Except (Fault × Source) (Option Command × Source) :=
  Reading.list (Grammar.ofDepth Grammar.maxDepth) .line { s with kept := none }

end SmokeSuite.Shell
