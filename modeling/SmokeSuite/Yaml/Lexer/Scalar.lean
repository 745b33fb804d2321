import SmokeSuite.Yaml.Token

namespace SmokeSuite.Yaml.Lexer

/-- A scalar that is being read, with the white space that waits for the next character. All texts
have their last character first. -/
structure Folding where
  text : List Char := []
  spaces : List Char := []
  leading : List Char := []
  trailing : List Char := []
  broken : Bool := false
  deriving Inhabited

namespace Folding

def join (f : Folding) : Folding :=
  let filling :=
    if !f.broken then f.spaces
    else if f.leading == ['\n'] then (if f.trailing.isEmpty then [' '] else f.trailing)
    else f.trailing ++ f.leading
  { text := filling ++ f.text }

def push (f : Folding) (c : Char) : Folding :=
  let f := f.join
  { f with text := c :: f.text }

/-- Takes a space or tab. Beside a line end it does not count. -/
def pushSpace (f : Folding) (c : Char) : Folding :=
  if f.broken then f else { f with spaces := c :: f.spaces }

def pushBreak (f : Folding) (c : Char) : Folding :=
  if f.broken then { f with trailing := foldedBreak c :: f.trailing }
  else { f with spaces := [], leading := [foldedBreak c], broken := true }

def hideBreak (f : Folding) : Folding := { f.join with broken := true }

def result (f : Folding) : List Char := f.join.text.reverse

end Folding

/-- The characters that may not follow a colon inside a flow collection's plain scalar. -/
def isFlowIndicator (c : Char) : Bool :=
  c == ',' || c == '?' || c == '[' || c == ']' || c == '\x7b' || c == '\x7d'

def endsPlain (inFlow : Bool) : List Char → Bool
  | ':' :: r => endsWord r
  | c :: _ =>
    inFlow && (c == ',' || c == '[' || c == ']' || c == '\x7b' || c == '\x7d')
  | [] => true

/-- Whether a colon stands where a flow collection's plain scalar allows none. -/
def badColon (inFlow : Bool) : List Char → Bool
  | ':' :: c :: _ => inFlow && isFlowIndicator c
  | _ => false

/-- Reads a plain scalar whose lines stand in column `indent` or later. `fresh` tells that a word
begins here. Returns what was read and stops before the character that ends it, after white space. -/
def plain (indent : Nat) (inFlow : Bool) (f : Folding) (fresh : Bool) (p : Place) :
    List Char → Option (Folding × Cursor)
  | [] => some (f, ⟨p, []⟩)
  | '\r' :: '\n' :: r => plain indent inFlow (f.pushBreak '\n') true (p.nextLine ['\r', '\n']) r
  | c :: r =>
    if isBreak c then plain indent inFlow (f.pushBreak c) true (p.nextLine [c]) r
    else if isSpace c then
      if f.broken && p.column < indent && c == '\t' then none
      else plain indent inFlow (f.pushSpace c) true (p.next c) r
    else if fresh && (c == '#' || (!inFlow && f.broken && p.column < indent) ||
        (p.column == 0 && hasDocumentMark (c :: r))) then some (f, ⟨p, c :: r⟩)
    else if badColon inFlow (c :: r) then none
    else if endsPlain inFlow (c :: r) then some (f, ⟨p, c :: r⟩)
    else plain indent inFlow (f.push c) false (p.next c) r

def singleQuoted (f : Folding) (p : Place) : List Char → Option (List Char × Cursor)
  | [] => none
  | '\r' :: '\n' :: r => singleQuoted (f.pushBreak '\n') (p.nextLine ['\r', '\n']) r
  | '\'' :: '\'' :: r => singleQuoted (f.push '\'') ((p.next '\'').next '\'') r
  | '\'' :: r => some (f.result, ⟨p.next '\'', r⟩)
  | c :: r =>
    if isBreak c then singleQuoted (f.pushBreak c) (p.nextLine [c]) r
    else if isSpace c then singleQuoted (f.pushSpace c) (p.next c) r
    else if p.column == 0 && hasDocumentMark (c :: r) then none
    else singleQuoted (f.push c) (p.next c) r

def shortEscape? (c : Char) : Option Char :=
  match c with
  | '0' => some '\x00'
  | 'a' => some '\x07'
  | 'b' => some '\x08'
  | 't' => some '\t'
  | '\t' => some '\t'
  | 'n' => some '\n'
  | 'v' => some '\x0b'
  | 'f' => some '\x0c'
  | 'r' => some '\r'
  | 'e' => some '\x1b'
  | ' ' => some ' '
  | '"' => some '"'
  | '/' => some '/'
  | '\\' => some '\\'
  | 'N' => some '\u0085'
  | '_' => some '\u00a0'
  | 'L' => some '\u2028'
  | 'P' => some '\u2029'
  | _ => none

def escapeLength? (c : Char) : Option Nat :=
  match c with
  | 'x' => some 2
  | 'u' => some 4
  | 'U' => some 8
  | _ => none

def hexValue? (c : Char) : Option Nat :=
  if c.isDigit then some (c.toNat - '0'.toNat)
  else if 'a' ≤ c && c ≤ 'f' then some (c.toNat - 'a'.toNat + 10)
  else if 'A' ≤ c && c ≤ 'F' then some (c.toNat - 'A'.toNat + 10)
  else none

def charOfCode? (n : Nat) : Option Char := if n.isValidChar then some (Char.ofNat n) else none

/-- Reads up to the closing double quote. `digits` digits of an escape are still to come, and `code`
is the number that they have written so far. -/
def doubleQuoted (f : Folding) (digits code : Nat) (p : Place) :
    List Char → Option (List Char × Cursor)
  | [] => none
  | c :: r =>
    match digits with
    | n + 1 =>
      match hexValue? c with
      | none => none
      | some v =>
        if n = 0 then
          match charOfCode? (code * 16 + v) with
          | none => none
          | some d => doubleQuoted (f.push d) 0 0 (p.next c) r
        else doubleQuoted f n (code * 16 + v) (p.next c) r
    | 0 =>
      match c, r with
      | '\r', '\n' :: r => doubleQuoted (f.pushBreak '\n') 0 0 (p.nextLine ['\r', '\n']) r
      | '"', r => some (f.result, ⟨p.next '"', r⟩)
      | '\\', '\r' :: '\n' :: r => doubleQuoted f.hideBreak 0 0 ((p.next '\\').nextLine ['\r', '\n']) r
      | '\\', d :: r =>
        if isBreak d then doubleQuoted f.hideBreak 0 0 ((p.next '\\').nextLine [d]) r
        else match shortEscape? d, escapeLength? d with
          | some e, _ => doubleQuoted (f.push e) 0 0 ((p.next '\\').next d) r
          | none, some n => doubleQuoted f n 0 ((p.next '\\').next d) r
          | none, none => none
      | c, r =>
        if isBreak c then doubleQuoted (f.pushBreak c) 0 0 (p.nextLine [c]) r
        else if isSpace c then doubleQuoted (f.pushSpace c) 0 0 (p.next c) r
        else if p.column == 0 && hasDocumentMark (c :: r) then none
        else doubleQuoted (f.push c) 0 0 (p.next c) r
termination_by s => s.length
decreasing_by all_goals simp_all; try omega

/-- What becomes of the line ends behind a block scalar. -/
inductive Chomping where
  | strip
  | clip
  | keep
  deriving DecidableEq

/-- A block scalar that is being read; texts have their last character first. -/
structure Block where
  text : List Char := []
  leading : List Char := []
  trailing : List Char := []
  /-- Whether the line before began with white space. Such lines are not folded. -/
  leadingBlank : Bool := false

namespace Block

def startLine (b : Block) (folds : Bool) (c : Char) : Block :=
  let filling :=
    if folds && b.leading == ['\n'] && !b.leadingBlank && !isSpace c then
      (if b.trailing.isEmpty then [' '] else b.trailing)
    else b.trailing ++ b.leading
  { text := filling ++ b.text, leadingBlank := isSpace c }

def result (b : Block) (chomping : Chomping) : List Char :=
  let text := match chomping with
    | .strip => b.text
    | .clip => b.leading ++ b.text
    | .keep => b.trailing ++ (b.leading ++ b.text)
  text.reverse

end Block

/-- Where reading a block scalar stands: before the text of a line, where the column may still have
to be found from the deepest blank line so far, or inside a line. -/
inductive BlockState where
  | margin (deepest : Nat)
  | line

/-- Reads the lines of a block scalar. Its column is given, or found from the first line with text;
it is at least `least`. -/
def blockLines (folds : Bool) (least : Nat) (column : Option Nat) (b : Block) (st : BlockState)
    (p : Place) : List Char → Option (Block × Cursor)
  | [] => some (b, ⟨p, []⟩)
  | '\r' :: '\n' :: r =>
    match st with
    | .margin deepest =>
      blockLines folds least column { b with trailing := '\n' :: b.trailing }
        (.margin (max deepest p.column)) (p.nextLine ['\r', '\n']) r
    | .line => blockLines folds least column { b with leading := ['\n'] } (.margin 0) (p.nextLine ['\r', '\n']) r
  | c :: r =>
    match st with
    | .line =>
      if isBreak c then
        blockLines folds least column { b with leading := [foldedBreak c] } (.margin 0)
          (p.nextLine [c]) r
      else blockLines folds least column { b with text := c :: b.text } .line (p.next c) r
    | .margin deepest =>
      let inMargin := column.all (p.column < ·)
      if c == ' ' && inMargin then blockLines folds least column b (.margin deepest) (p.next c) r
      else
        let deepest := max deepest p.column
        if c == '\t' && inMargin then none
        else if isBreak c then
          blockLines folds least column { b with trailing := foldedBreak c :: b.trailing }
            (.margin deepest) (p.nextLine [c]) r
        else
          let found := column.getD (max deepest least)
          if p.column = found then
            let b := b.startLine folds c
            blockLines folds least (some found) { b with text := c :: b.text } .line (p.next c) r
          else some (b, ⟨p, c :: r⟩)

/-- The indicators of a block scalar, in either order: its indentation, which is not zero, and its
chomping. -/
def blockHeader (c : Cursor) : Option (Option Nat × Chomping × Cursor) :=
  let chomping? (d : Char) : Option Chomping :=
    if d == '+' then some .keep else if d == '-' then some .strip else none
  let indentation (d : Char) : Option Nat := if d == '0' then none else some (d.toNat - '0'.toNat)
  match c.ahead with
  | [] => some (none, .clip, c)
  | d :: r =>
    match chomping? d with
    | some chomping =>
      match r with
      | e :: _ =>
        if e.isDigit then (indentation e).map fun n => (some n, chomping, c.skip 2)
        else some (none, chomping, c.skip 1)
      | [] => some (none, chomping, c.skip 1)
    | none =>
      if d.isDigit then
        (indentation d).map fun n =>
          match r.head?.bind chomping? with
          | some chomping => (some n, chomping, c.skip 2)
          | none => (some n, .clip, c.skip 1)
      else some (none, .clip, c)

/-- Reads a block scalar after its first character. `indent` is the column of the collection around
it, if there is one. -/
def block (folds : Bool) (indent : Option Nat) (c : Cursor) : Option (List Char × Cursor) := do
  let (increment, chomping, c) ← blockHeader c
  let c := (c.skipWhile isSpace).skipComment
  let c ← c.finishLine
  let column := increment.map (indent.getD 0 + ·)
  let least := max 1 ((indent.map (· + 1)).getD 0)
  let (b, c) ← blockLines folds least column {} (.margin 0) c.place c.ahead
  some (b.result chomping, c)

end SmokeSuite.Yaml.Lexer
