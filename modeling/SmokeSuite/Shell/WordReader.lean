import SmokeSuite.Shell.Source

namespace SmokeSuite.Shell

def isMeta (c : Char) : Bool :=
  c == ' ' || c == '\t' || c == '\n' || c == ';' || c == '&' || c == '|' || c == '<' || c == '>' ||
    c == '(' || c == ')'

/-- Parts of a word that are read so far, backwards. -/
structure Pieces where
  parts : List Part := []
  /-- Text that belongs to no part yet, backwards. -/
  text : Octets := []
  isQuoted : Bool := false

namespace Pieces

def flush (p : Pieces) : Pieces :=
  if p.text.isEmpty then p
  else { p with parts := .text p.isQuoted p.text.reverse :: p.parts, text := [] }

def put (p : Pieces) (quoted : Bool) (c : Char) : Pieces :=
  if quoted == p.isQuoted then { p with text := c :: p.text }
  else { p.flush with text := [c], isQuoted := quoted }

def add (p : Pieces) (part : Part) : Pieces := { p.flush with parts := part :: p.flush.parts }

def word (p : Pieces) : Word := p.flush.parts.reverse

end Pieces

/-- Where a part of a word stands, which settles where it ends and what is special in it. -/
inductive Surroundings where
  | word
  /-- The mark of a document, in which only quotes are special. -/
  | mark
  | quote (inBraces : Bool)
  /-- Inside the braces of a parameter that is quoted or not. -/
  | braces (quoted : Bool)
  /-- In a document that is not taken as it is. -/
  | document
  | arithmetic (depth : Nat)
  deriving DecidableEq, Inhabited

namespace Surroundings

def isQuoting : Surroundings → Bool
  | .word | .mark | .braces false => false
  | .quote _ | .braces true | .document | .arithmetic _ => true

def escapes (s : Surroundings) (c : Char) : Bool :=
  !s.isQuoting || c == '\\' || c == '\x60' || c == '$' || (c == '"' && s != .document) ||
    (c == '\x7d' && (s == .quote true || s == .braces true))

def faultAtEnd (s : Surroundings) (inDocument : Bool) : Option Fault :=
  match s with
  | .word | .mark | .document => none
  | .arithmetic _ => some .missingParens
  | .quote _ | .braces true => some (if inDocument then .missingBrace else .unterminatedQuote)
  | .braces false => some .missingBrace

end Surroundings

namespace Reading

def skipMark? (p : Pending) : Reading Bool := fun s =>
  let line := if p.stripsTabs then s.ahead.dropWhile (· == '\t') else s.ahead
  let s := { s with ahead := line }
  if !p.mark.isPrefixOf line then .ok (false, s)
  else match line.drop p.mark.length with
    | [] => .ok (true, { s with ahead := [], line := s.line + 1, isDocumentOver := true })
    | '\n' :: r => .ok (true, { s with ahead := r, line := s.line + 1, isDocumentOver := true })
    | _ => .ok (false, s)

/-- Counts a line that ended. In a document its mark may come next. -/
def endLine (document : Option Pending) : Reading Unit := do
  countLine
  match document with
  | some p => discard (skipMark? p)
  | none => pure ()

def singleQuoted (document : Option Pending) : Nat → Octets → Reading Octets
  | 0, taken => pure taken.reverse
  | fuel + 1, taken => do
    match ← next with
    | none => fault (if document.isSome then .missingBrace else .unterminatedQuote)
    | some '\'' => pure taken.reverse
    | some c => do
      if c == '\n' then endLine document
      singleQuoted document fuel (c :: taken)

def backquoted (quoted : Bool) : Nat → Octets → Reading Octets
  | 0, taken => pure taken.reverse
  | fuel + 1, taken => do
    match ← nextJoined with
    | none => fault .endInBackquotes
    | some '\x60' => pure taken.reverse
    | some '\\' =>
      match ← next with
      | none => fault .endInBackquotes
      | some c =>
        let isEscape := c == '\\' || c == '\x60' || c == '$' || (quoted && c == '"')
        if c == '\n' then countLine
        backquoted quoted fuel (if isEscape then c :: taken else c :: '\\' :: taken)
    | some c => do
      if c == '\n' then countLine
      backquoted quoted fuel (c :: taken)

def inText (commands : Reading Command) (text : Octets) : Reading Command := fun s =>
  let inner : Source :=
    { ahead := text, aliases := s.aliases, documents := s.documents, lastDocument := s.lastDocument }
  match commands inner with
  | .error e => .error e
  | .ok (c, inner) =>
    .ok (c, { s with documents := inner.documents, lastDocument := inner.lastDocument })

def inParens (commands : Reading Command) : Reading Command := do
  let outer ← get
  set { outer with pending := [] }
  let c ← commands
  let inner ← get
  match inner.kept with
  | some .close => do
    set { inner with kept := none, pending := outer.pending }
    pure c
  | found => fault (.unexpected (found.getD .end) (some .close))

mutual

/-- Reads parts up to the end of their surroundings, which is taken unless it is the end of a word. -/
def parts (commands : Reading Command) (document : Option Pending) :
    Nat → Surroundings → Pieces → Reading Pieces
  | 0, _, taken => pure taken
  | fuel + 1, here, taken => do
    let before ← get
    match ← nextJoined with
    | none =>
      match here.faultAtEnd document.isSome with
      | some f => fault f
      | none => pure taken
    | some c =>
      match here, c with
      | .quote _, '"' => pure taken
      | .braces _, '\x7d' => pure taken
      | .arithmetic depth, '(' =>
        parts commands document fuel (.arithmetic (depth + 1)) (taken.put true c)
      | .arithmetic (depth + 1), ')' =>
        parts commands document fuel (.arithmetic depth) (taken.put true c)
      | .arithmetic 0, ')' =>
        if ← skip? ')' then pure taken
        else parts commands document fuel here (taken.put true c)
      | .arithmetic _, '\'' | .arithmetic _, '"' | .document, '"' =>
        parts commands document fuel here (taken.put true c)
      | _, '\\' =>
        match ← next with
        | none => parts commands document fuel here (taken.put true '\\')
        | some d =>
          let taken := if here.escapes d then taken else taken.put true '\\'
          parts commands document fuel here (taken.put true d)
      | _, '"' => do
        let inBraces := match here with
          | .braces _ => true
          | _ => false
        let inner ← parts commands document fuel (.quote inBraces) {}
        parts commands document fuel here (taken.add (.quoted inner.word))
      | _, '\x60' =>
        if here == .mark then parts commands document fuel here (taken.put true c)
        else do
          let text ← backquoted here.isQuoting pieces []
          let body ← inText commands text
          parts commands document fuel here (taken.add (.output body))
      | _, '$' => do
        if here == .mark then parts commands document fuel here (taken.put false c)
        else match ← dollar commands document fuel here with
          | some p => parts commands document fuel here (taken.add p)
          | none => parts commands document fuel here (taken.put here.isQuoting c)
      | _, _ =>
        if !here.isQuoting && c == '\'' then do
          let t ← singleQuoted document pieces []
          parts commands document fuel here (taken.add (.quoted [.text true t]))
        else if (here == .word || here == .mark) && isMeta c then do
          set before
          pure taken
        else do
          if c == '\n' then endLine document
          parts commands document fuel here (taken.put here.isQuoting c)

def dollar (commands : Reading Command) (document : Option Pending) :
    Nat → Surroundings → Reading (Option Part)
  | 0, _ => pure none
  | fuel + 1, here => do
    match ← peekJoined with
    | some '(' => do
      discard nextJoined
      if ← skip? '(' then do
        let expression ← parts commands document fuel (.arithmetic 0) {}
        pure (some (.arithmetic expression.word))
      else pure (some (.output (← inParens commands)))
    | some '\x7b' => do
      discard nextJoined
      pure (some (← braced commands document fuel here.isQuoting))
    | some c =>
      if isNameStart c then pure (some (.parameter (← takeWhile isNameChar pieces []) .value))
      else if c.isDigit || isSpecial c then do
        discard nextJoined
        pure (some (.parameter [c] .value))
      else pure none
    | none => pure none

def braced (commands : Reading Command) (document : Option Pending) :
    Nat → Bool → Reading Part
  | 0, _ => pure (.parameter [] .bad)
  | fuel + 1, quoted => do
    let word (quoted : Bool) : Reading Word := do
      return (← parts commands document fuel (.braces quoted) {}).word
    let bad (name : Octets) : Reading Part := do
      discard (word quoted)
      return .parameter name .bad
    let name? : Reading (Option Octets) := do
      match ← peekJoined with
      | some c =>
        if isNameStart c then return some (← takeWhile isNameChar pieces [])
        else if c.isDigit then return some (← takeWhile Char.isDigit pieces [])
        else return none
      | none => return none
    let length (name : Octets) : Reading Part := do
      if (← peekJoined) == some '\x7d' then do
        discard (word quoted)
        return .parameter name .length
      else bad name
    let formed (name : Octets) : Reading Part := do
      let emptyCounts ← skip? ':'
      let fallback (kind : Fallback) : Reading Part := do
        return .parameter name (.fallback kind emptyCounts (← word quoted))
      match ← nextJoined with
      | some '\x7d' => if emptyCounts then bad name else return .parameter name .value
      | some '-' => fallback .use
      | some '+' => fallback .replace
      | some '?' => fallback .fail
      | some '=' => fallback .assign
      | some c =>
        if !emptyCounts && (c == '%' || c == '#') then do
          let longest ← skip? c
          return .parameter name (.trim (c == '%') longest (← word false))
        else bad name
      | none => bad name
    match ← name? with
    | some name => formed name
    | none =>
      match ← peekJoined with
      | none | some '\x7d' => bad []
      | some '#' => do
        discard nextJoined
        match ← name? with
        | some name => length name
        | none => do
          let before ← get
          match ← nextJoined with
          | none => bad []
          | some c =>
            if c == '\x7d' || (← peekJoined) != some '\x7d' then do
              set before
              formed ['#']
            else if isSpecial c then length [c]
            else bad []
      | some c => do
        discard nextJoined
        if isSpecial c then formed [c] else bad []

end

def documentParts (commands : Reading Command) (p : Pending) : Reading Word := do
  discard (skipMark? p)
  let taken ← parts commands (some p) pieces .document {}
  modify fun s => { s with isDocumentOver := false }
  return taken.word

def plainDocument (p : Pending) : Nat → Octets → Reading Octets
  | 0, taken => pure taken.reverse
  | fuel + 1, taken => do
    match ← next with
    | none => do
      modify fun s => { s with isDocumentOver := false }
      return taken.reverse
    | some c => do
      if c == '\n' then endLine (some p)
      plainDocument p fuel (c :: taken)

def readDocuments (commands : Reading Command) : Reading Unit := do
  let pending := (← get).pending
  modify fun s => { s with pending := [] }
  for p in pending do
    let w ← if p.isPlain then do
        discard (skipMark? p)
        let t ← plainDocument p pieces []
        pure [Part.text true t]
      else documentParts commands p
    modify fun s => { s with documents := (p.number, w) :: s.documents }

end Reading

end SmokeSuite.Shell
