import SmokeSuite.Yaml.Token
import SmokeSuite.Yaml.Lexer.Scalar
import SmokeSuite.Yaml.Tag

namespace SmokeSuite.Yaml.Lexer

def endsAnchor (s : List Char) : Bool :=
  endsWord s || ['?', ':', ',', ']', '\x7d', '%', '@', '\x60'].contains (s.headD ' ')

def anchorName (c : Cursor) : Option (List Char × Cursor) :=
  let (name, c) := c.span isNameChar
  if name.isEmpty || !endsAnchor c.ahead then none else some (name, c)

/-- The characters of a tag that need no escape; a few more are allowed between angle brackets. -/
def isTagChar (bracketed : Bool) (c : Char) : Bool :=
  isNameChar c || [';', '/', '?', ':', '@', '&', '=', '+', '$', '.', '!', '~', '*', '\'', '(',
    ')'].contains c || (bracketed && [',', '[', ']'].contains c)

def escapedByte? : List Char → Option (UInt8 × List Char)
  | '%' :: a :: b :: r =>
    match hexValue? a, hexValue? b with
    | some a, some b => some (UInt8.ofNat (a * 16 + b), r)
    | _, _ => none
  | _ => none

def sequenceLength? (b : UInt8) : Option Nat :=
  if b < 0x80 then some 1
  else if 0xC0 ≤ b && b < 0xE0 then some 2
  else if 0xE0 ≤ b && b < 0xF0 then some 3
  else if 0xF0 ≤ b && b < 0xF8 then some 4
  else none

def escapedBytes : Nat → List Char → Option (List UInt8 × List Char)
  | 0, s => some ([], s)
  | n + 1, s => do
    let (b, s) ← escapedByte? s
    if b &&& 0xC0 != 0x80 then none
    else
      let (bs, s) ← escapedBytes n s
      some (b :: bs, s)

def tagBytes (bracketed : Bool) : Nat → Cursor → Option (List UInt8 × Cursor)
  | 0, c => some ([], c)
  | fuel + 1, c =>
    match c.ahead with
    | '%' :: _ => do
      let (b, r) ← escapedByte? c.ahead
      let n ← sequenceLength? b
      let (bs, _) ← escapedBytes (n - 1) r
      let (others, c) ← tagBytes bracketed fuel (c.skip (3 * n))
      some (b :: bs ++ others, c)
    | d :: _ =>
      if isTagChar bracketed d then do
        let (others, c) ← tagBytes bracketed fuel (c.skip 1)
        some (String.utf8EncodeChar d ++ others, c)
      else some ([], c)
    | [] => some ([], c)

/-- The bytes of a tag behind `before`, which has been read. The two may not both be empty. -/
def tagUri (bracketed : Bool) (before : List Char) (c : Cursor) : Option (List UInt8 × Cursor) := do
  let (bytes, c) ← tagBytes bracketed (c.ahead.length + 1) c
  if before.isEmpty && bytes.isEmpty then none
  else some (Tag.endAtZero (Text.Utf8.encode (before.drop 1) ++ bytes), c)

def tagHandle (inDirective : Bool) (c : Cursor) : Option (List Char × Cursor) :=
  match c.ahead with
  | '!' :: _ =>
    let (name, c) := (c.skip 1).span isNameChar
    match c.ahead with
    | '!' :: _ => some ('!' :: name ++ ['!'], c.skip 1)
    | _ => if inDirective && !name.isEmpty then none else some ('!' :: name, c)
  | _ => none

/-- A handle and a suffix. A tag of one exclamation mark has no handle. -/
def tagParts (c : Cursor) : Option ((List Char × List UInt8) × Cursor) :=
  match c.ahead with
  | '!' :: '<' :: _ => do
    let (uri, c) ← tagUri true [] (c.skip 2)
    match c.ahead with
    | '>' :: _ => some (([], uri), c.skip 1)
    | _ => none
  | _ => do
    let (handle, c) ← tagHandle false c
    if handle.length > 1 && handle.getLast? == some '!' then do
      let (suffix, c) ← tagUri false [] c
      some ((handle, suffix), c)
    else do
      let (suffix, c) ← tagUri false handle c
      some ((if suffix.isEmpty then ([], Tag.nonSpecific.bytes) else (['!'], suffix)), c)

/-- Reads a tag. White space or, in a flow collection, a comma follows it. -/
def tag (inFlow : Bool) (c : Cursor) : Option ((List Char × List UInt8) × Cursor) := do
  let (parts, c) ← tagParts c
  if endsWord c.ahead || (inFlow && c.ahead.head? == some ',') then some (parts, c) else none

def versionNumber (c : Cursor) : Option (Nat × Cursor) :=
  let (ds, c) := c.span Char.isDigit
  if ds.isEmpty || ds.length > 9 then none
  else some (ds.foldl (fun n d => 10 * n + (d.toNat - '0'.toNat)) 0, c)

def versionDirective (c : Cursor) : Option (Symbol × Cursor) := do
  let (major, c) ← versionNumber (c.skipWhile isSpace)
  match c.ahead with
  | '.' :: _ =>
    let (minor, c) ← versionNumber (c.skip 1)
    some (.versionDirective major minor, c)
  | _ => none

def tagDirective (c : Cursor) : Option (Symbol × Cursor) := do
  let (handle, c) ← tagHandle true (c.skipWhile isSpace)
  if (c.ahead.head?.map isSpace).getD false then
    let (expansion, c) ← tagUri true [] (c.skipWhile isSpace)
    if endsWord c.ahead then some (.tagDirective handle expansion, c) else none
  else none

/-- Reads a directive with its whole line. Also returns the place behind its last part. -/
def directive (c : Cursor) : Option (Symbol × Place × Cursor) := do
  let (name, c) := (c.skip 1).span isNameChar
  if name.isEmpty || !endsWord c.ahead then none
  else
    let (symbol, c) ←
      if name == ['Y', 'A', 'M', 'L'] then versionDirective c
      else if name == ['T', 'A', 'G'] then tagDirective c
      else none
    let rest ← ((c.skipWhile isSpace).skipComment).finishLine
    some (symbol, c.place, rest)

end SmokeSuite.Yaml.Lexer
