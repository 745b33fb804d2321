import SmokeSuite.Yaml.Lexer.Tag

namespace SmokeSuite.Yaml

/-- A place where a key may have begun: the number of tokens before it, and whether it must be a key
because a block collection has its entries in that column. -/
structure KeyPlace where
  required : Bool
  number : Nat
  place : Place

/-- Reading in progress. Whether a word is a key shows only at the colon after it, so the place of each word
that may be one is kept; the tokens that a key needs are then put in front of it. -/
structure Lexer where
  cursor : Cursor
  /-- The columns of the open block collections, from inside out. -/
  indents : List Nat := []
  /-- The key that may have begun in the current collection. -/
  key : Option KeyPlace := none
  /-- The same for the collections around it, one for each open flow collection. -/
  outerKeys : List (Option KeyPlace) := []
  /-- Whether a key may begin here. -/
  keyAllowed : Bool := true
  /-- The tokens so far, the last one first, and their number. -/
  tokens : List Token := []
  count : Nat := 0

namespace Lexer

def place (l : Lexer) : Place := l.cursor.place

def inFlow (l : Lexer) : Bool := !l.outerKeys.isEmpty

def emit (l : Lexer) (symbol : Symbol) (start stop : Place) : Lexer :=
  { l with tokens := ⟨symbol, start, stop⟩ :: l.tokens, count := l.count + 1 }

def emitHere (l : Lexer) (symbol : Symbol) : Lexer := l.emit symbol l.place l.place

def emitNext (l : Lexer) (symbol : Symbol) (n : Nat) : Lexer :=
  let stop := l.cursor.skip n
  { l.emit symbol l.place stop.place with cursor := stop }

/-- Puts a token where `number` tokens stood before it. -/
def insert (l : Lexer) (number : Nat) (symbol : Symbol) (place : Place) : Lexer :=
  let after := l.count - number
  { l with
    tokens := l.tokens.take after ++ ⟨symbol, place, place⟩ :: l.tokens.drop after
    count := l.count + 1 }

/-- Moves to the next token, over white space and comments. Tabs count as white space only where no
key may begin; a new line in block context allows one. -/
def skipToToken (inFlow keyAllowed inComment : Bool) (p : Place) : List Char → Bool × Cursor
  | [] => (keyAllowed, ⟨p, []⟩)
  | '\r' :: '\n' :: r => skipToToken inFlow (keyAllowed || !inFlow) false (p.nextLine ['\r', '\n']) r
  | c :: r =>
    if isBreak c then skipToToken inFlow (keyAllowed || !inFlow) false (p.nextLine [c]) r
    else if inComment || (c == '\uFEFF' && p.column == 0) || c == ' ' ||
        (c == '\t' && (inFlow || !keyAllowed)) then
      skipToToken inFlow keyAllowed inComment (p.next c) r
    else if c == '#' then skipToToken inFlow keyAllowed true (p.next c) r
    else (keyAllowed, ⟨p, c :: r⟩)

def maxKeyLength : Nat := 1024

def KeyPlace.isFresh (k : KeyPlace) (here : Place) : Bool :=
  k.place.line == here.line && here.index ≤ k.place.index + maxKeyLength

def giveUp (k : Option KeyPlace) : Option Unit :=
  match k with
  | some k => if k.required then none else some ()
  | none => some ()

def refresh (here : Place) (k : Option KeyPlace) : Option (Option KeyPlace) :=
  match k with
  | some k' => if KeyPlace.isFresh k' here then some k else (giveUp k).map fun _ => none
  | none => some none

def dropStaleKeys (l : Lexer) : Option Lexer := do
  let key ← refresh l.place l.key
  let outerKeys ← l.outerKeys.mapM (refresh l.place)
  some { l with key, outerKeys }

def dropKey (l : Lexer) : Option Lexer := do
  giveUp l.key
  some { l with key := none }

def saveKey (l : Lexer) : Option Lexer :=
  if l.keyAllowed then do
    let required := !l.inFlow && l.indents.head? == some l.place.column
    let l ← l.dropKey
    some { l with key := some ⟨required, l.count, l.place⟩ }
  else some l

/-- Opens a block collection where the column is deeper than the last one, in front of the token
`number` if one is given. -/
def openBlock (l : Lexer) (symbol : Symbol) (number : Option Nat) (place : Place) : Lexer :=
  if !l.inFlow && l.indents.head?.all (· < place.column) then
    let l := { l with indents := place.column :: l.indents }
    match number with
    | some number => l.insert number symbol place
    | none => l.emit symbol place place
  else l

/-- Closes block collections from inside out, as long as they are deeper than `keep` says. -/
def closeBlocks (l : Lexer) (closes : Nat → Bool) : Lexer :=
  if l.inFlow then l
  else
    let closed := l.indents.takeWhile closes
    { closed.foldl (fun l _ => l.emitHere .blockEnd) l with
      indents := l.indents.dropWhile closes }

def closeAll (l : Lexer) : Lexer := l.closeBlocks fun _ => true

def finish (l : Lexer) : Option Lexer := do
  let p := l.place
  let p := if p.column = 0 then p else { p with line := p.line + 1, column := 0 }
  let l ← { l with cursor := ⟨p, []⟩ }.closeAll.dropKey
  some (l.emitHere .streamEnd)

def readDirective (l : Lexer) : Option Lexer := do
  let l ← l.closeAll.dropKey
  let (symbol, stop, cursor) ← directive l.cursor
  some { l.emit symbol l.place stop with cursor, keyAllowed := false }

def readDocumentMark (l : Lexer) (symbol : Symbol) : Option Lexer := do
  let l ← l.closeAll.dropKey
  some { l.emitNext symbol 3 with keyAllowed := false }

def openFlow (l : Lexer) (symbol : Symbol) : Option Lexer := do
  let l ← l.saveKey
  some { l.emitNext symbol 1 with
    key := none, outerKeys := l.key :: l.outerKeys, keyAllowed := true }

def closeFlow (l : Lexer) (symbol : Symbol) : Option Lexer := do
  let l ← l.dropKey
  let l := match l.outerKeys with
    | k :: ks => { l with key := k, outerKeys := ks }
    | [] => l
  some { l.emitNext symbol 1 with keyAllowed := false }

def readFlowEntry (l : Lexer) : Option Lexer := do
  let l ← l.dropKey
  some { l.emitNext .flowEntry 1 with keyAllowed := true }

def openHere (l : Lexer) (symbol : Symbol) : Option Lexer :=
  if l.inFlow then some l
  else if l.keyAllowed then some (l.openBlock symbol none l.place)
  else none

def readBlockEntry (l : Lexer) : Option Lexer := do
  let l ← (← l.openHere .blockSequenceStart).dropKey
  some { l.emitNext .blockEntry 1 with keyAllowed := true }

def readKey (l : Lexer) : Option Lexer := do
  let l ← (← l.openHere .blockMappingStart).dropKey
  some { l.emitNext .key 1 with keyAllowed := !l.inFlow }

/-- A colon makes a key of what may have been one. -/
def readValue (l : Lexer) : Option Lexer :=
  match l.key with
  | some k =>
    let l := (l.insert k.number .key k.place).openBlock .blockMappingStart (some k.number) k.place
    some { { l with key := none, keyAllowed := false }.emitNext .value 1 with keyAllowed := false }
  | none => do
    let l ← l.openHere .blockMappingStart
    some { l.emitNext .value 1 with keyAllowed := !l.inFlow }

def readAnchor (l : Lexer) (symbol : List Char → Symbol) : Option Lexer := do
  let l ← l.saveKey
  let (name, cursor) ← anchorName (l.cursor.skip 1)
  some { l.emit (symbol name) l.place cursor.place with cursor, keyAllowed := false }

def readTag (l : Lexer) : Option Lexer := do
  let l ← l.saveKey
  let ((handle, suffix), cursor) ← tag l.inFlow l.cursor
  some { l.emit (.tag handle suffix) l.place cursor.place with cursor, keyAllowed := false }

def readBlockScalar (l : Lexer) (style : Style) : Option Lexer := do
  let l ← l.dropKey
  let (text, cursor) ← block (style == .folded) l.indents.head? (l.cursor.skip 1)
  some { l.emit (.scalar style text) l.place cursor.place with cursor, keyAllowed := true }

def readQuoted (l : Lexer) (style : Style) : Option Lexer := do
  let l ← l.saveKey
  let c := l.cursor.skip 1
  let (text, cursor) ←
    if style == .singleQuoted then singleQuoted {} c.place c.ahead
    else doubleQuoted {} 0 0 c.place c.ahead
  some { l.emit (.scalar style text) l.place cursor.place with cursor, keyAllowed := false }

/-- A plain scalar that ends with its line allows a key on the next one. -/
def readPlain (l : Lexer) : Option Lexer := do
  let l ← l.saveKey
  let indent := (l.indents.head?.map (· + 1)).getD 0
  let (f, cursor) ← plain indent l.inFlow {} true l.place l.cursor.ahead
  some { l.emit (.scalar .plain f.text.reverse) l.place cursor.place with
    cursor, keyAllowed := f.broken }

def isIndicator (c : Char) : Bool :=
  ['-', '?', ':', ',', '[', ']', '\x7b', '\x7d', '#', '&', '*', '!', '|', '>', '\'', '"', '%', '@',
    '\x60'].contains c

/-- Reads the token in front of the cursor, which stands on no white space. -/
def readToken (l : Lexer) : Option Lexer :=
  match l.cursor.ahead with
  | [] => l.finish
  | c :: r =>
    if l.place.column == 0 && c == '%' then l.readDirective
    else if l.place.column == 0 && hasDocumentMark (c :: r) then
      l.readDocumentMark (if c == '-' then .documentStart else .documentEnd)
    else if c == '[' then l.openFlow .flowSequenceStart
    else if c == '\x7b' then l.openFlow .flowMappingStart
    else if c == ']' then l.closeFlow .flowSequenceEnd
    else if c == '\x7d' then l.closeFlow .flowMappingEnd
    else if c == ',' then l.readFlowEntry
    else if c == '-' && endsWord r then l.readBlockEntry
    else if c == '?' && (l.inFlow || endsWord r) then l.readKey
    else if c == ':' && (l.inFlow || endsWord r) then l.readValue
    else if c == '*' then l.readAnchor .alias
    else if c == '&' then l.readAnchor .anchor
    else if c == '!' then l.readTag
    else if c == '|' && !l.inFlow then l.readBlockScalar .literal
    else if c == '>' && !l.inFlow then l.readBlockScalar .folded
    else if c == '\'' then l.readQuoted .singleQuoted
    else if c == '"' then l.readQuoted .doubleQuoted
    else if !(isSpace c || isIndicator c) || c == '-' || (!l.inFlow && (c == '?' || c == ':')) then
      l.readPlain
    else none

/-- Moves to the next token and reads it. Block collections end where the column is less than
theirs. -/
def step (l : Lexer) : Option Lexer := do
  let (keyAllowed, cursor) := skipToToken l.inFlow l.keyAllowed false l.place l.cursor.ahead
  let l ← { l with cursor, keyAllowed }.dropStaleKeys
  (l.closeBlocks (cursor.place.column < ·)).readToken

/-- How many tokens will stay as they are, whatever follows: those in front of the first that may be
a key. -/
def settled (l : Lexer) : Nat :=
  (l.key :: l.outerKeys).foldl (fun n k => match k with
    | some k => min n k.number
    | none => n) l.count

/-- The first `n` tokens, and behind them the mark that no more can be read. -/
def brokenOff (l : Lexer) (n : Nat) : List Token :=
  l.tokens.reverse.take n ++ [⟨.fault, l.place, l.place⟩]

/-- Reads all tokens, of which `n` are settled. Each takes at least one character. -/
def run : Nat → Nat → Lexer → List Token
  | 0, n, l => l.brokenOff n
  | fuel + 1, n, l =>
    match l.dropStaleKeys with
    | none => l.brokenOff n
    | some l =>
      match l.step with
      | none => l.brokenOff l.settled
      | some next =>
        if (next.tokens.head?.map (·.symbol)) == some .streamEnd then next.tokens.reverse
        else run fuel l.settled next

end Lexer

/-- The mark that may stand in front of a text to tell its encoding. -/
def encodingMark : Char := '\uFEFF'

/-- The tokens of a text, up to its end or the first fault. A character that is not allowed is found
before anything is read. -/
def tokens (text : List Char) : List Token :=
  if text.all isAllowed then
    let content := if text.head? == some encodingMark then text.tail else text
    Lexer.run (content.length + 1) 0 { cursor := ⟨{}, content⟩ }
  else [⟨.fault, {}, {}⟩]

end SmokeSuite.Yaml
