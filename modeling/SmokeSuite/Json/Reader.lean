import SmokeSuite.Json.Basic
import SmokeSuite.Decimal.Binary64

namespace SmokeSuite.Json

inductive ReadError where
  | endInList
  | endInObject
  | endInString
  | endInValue
  | colonExpected
  | listCommaOrEndExpected
  | objectCommaOrEndExpected
  | identExpected
  | valueExpected
  | invalidEscape
  | invalidNumber
  | numberOutOfRange
  | controlCharacterInString
  | keyNotString
  | loneSurrogate
  | endOfHexEscape
  | trailingComma
  | trailingCharacters
  | tooDeep
  deriving DecidableEq, Inhabited

def ReadError.message : ReadError → String
  | .endInList => "EOF while parsing a list"
  | .endInObject => "EOF while parsing an object"
  | .endInString => "EOF while parsing a string"
  | .endInValue => "EOF while parsing a value"
  | .colonExpected => "expected `:`"
  | .listCommaOrEndExpected => "expected `,` or `]`"
  | .objectCommaOrEndExpected => "expected `,` or `\x7d`"
  | .identExpected => "expected ident"
  | .valueExpected => "expected value"
  | .invalidEscape => "invalid escape"
  | .invalidNumber => "invalid number"
  | .numberOutOfRange => "number out of range"
  | .controlCharacterInString =>
    "control character (\\u0000-\\u001F) found while parsing a string"
  | .keyNotString => "key must be a string"
  | .loneSurrogate => "lone leading surrogate in hex escape"
  | .endOfHexEscape => "unexpected end of hex escape"
  | .trailingComma => "trailing comma"
  | .trailingCharacters => "trailing characters"
  | .tooDeep => "recursion limit exceeded"

def maxDepth : Nat := 127

def isSpace (c : Char) : Bool := c == ' ' || c == '\n' || c == '\t' || c == '\r'

def skipSpace (s : List Char) : List Char := s.dropWhile isSpace

def readName : List Char → List Char → Except ReadError (List Char)
  | [], s => .ok s
  | _ :: _, [] => .error .endInValue
  | n :: ns, c :: s => if n = c then readName ns s else .error .identExpected

def readDigits (s : List Char) : Except ReadError (List Char × List Char) :=
  match s with
  | [] => .error .endInValue
  | c :: _ =>
    if c.isDigit then .ok (s.takeWhile Char.isDigit, s.dropWhile Char.isDigit)
    else .error .invalidNumber

/-- The digits before the point: a zero stands alone. -/
def readWhole (s : List Char) : Except ReadError (List Char × List Char) := do
  let (ds, r) ← readDigits s
  match ds with
  | '0' :: _ :: _ => .error .invalidNumber
  | _ => .ok (ds, r)

def readFraction : List Char → Except ReadError (List Char × List Char)
  | '.' :: s => readDigits s
  | s => .ok ([], s)

def readPower : List Char → Except ReadError (Int × List Char)
  | c :: s =>
    if c == 'e' || c == 'E' then do
      let (negative, s) := match s with
        | '-' :: r => (true, r)
        | '+' :: r => (false, r)
        | r => (false, r)
      let (ds, r) ← readDigits s
      let n : Int := Decimal.ofDigits ds
      .ok (if negative then -n else n, r)
    else .ok (0, c :: s)
  | [] => .ok (0, [])

def readNumber (negative : Bool) (s : List Char) : Except ReadError (Json × List Char) := do
  let (whole, s) ← readWhole s
  let (part, s) ← readFraction s
  let (power, s) ← readPower s
  let d : Decimal := ⟨negative, Decimal.ofDigits (whole ++ part), power - part.length⟩
  if (Binary64.ofDecimal d).isSome then .ok (.number d, s) else .error .numberOutOfRange

def hexValue? (c : Char) : Option Nat :=
  if c.isDigit then some (c.toNat - '0'.toNat)
  else if 'a' ≤ c && c ≤ 'f' then some (c.toNat - 'a'.toNat + 10)
  else if 'A' ≤ c && c ≤ 'F' then some (c.toNat - 'A'.toNat + 10)
  else none

def readHex : List Char → Except ReadError (Nat × List Char)
  | a :: b :: c :: d :: s =>
    match hexValue? a, hexValue? b, hexValue? c, hexValue? d with
    | some a, some b, some c, some d => .ok (((a * 16 + b) * 16 + c) * 16 + d, s)
    | _, _, _, _ => .error .invalidEscape
  | _ => .error .endInString

def readLowHalf (high : Nat) : List Char → Except ReadError (Char × List Char)
  | '\\' :: 'u' :: s => do
    let (low, s) ← readHex s
    if 0xDC00 ≤ low && low ≤ 0xDFFF then
      .ok (Char.ofNat (0x10000 + (high - 0xD800) * 0x400 + (low - 0xDC00)), s)
    else .error .loneSurrogate
  | [] | ['\\'] => .error .endInString
  | _ => .error .endOfHexEscape

def readEscape : List Char → Except ReadError (Char × List Char)
  | [] => .error .endInString
  | 'u' :: s => do
    let (n, s) ← readHex s
    if 0xDC00 ≤ n && n ≤ 0xDFFF then .error .loneSurrogate
    else if 0xD800 ≤ n && n ≤ 0xDBFF then readLowHalf n s
    else .ok (Char.ofNat n, s)
  | c :: s =>
    match c with
    | '"' => .ok ('"', s)
    | '\\' => .ok ('\\', s)
    | '/' => .ok ('/', s)
    | 'b' => .ok ('\x08', s)
    | 'f' => .ok ('\x0c', s)
    | 'n' => .ok ('\n', s)
    | 'r' => .ok ('\r', s)
    | 't' => .ok ('\t', s)
    | _ => .error .invalidEscape

def readChars : Nat → List Char → Except ReadError (List Char × List Char)
  | 0, _ => .error .endInString
  | _ + 1, [] => .error .endInString
  | _ + 1, '"' :: s => .ok ([], s)
  | fuel + 1, '\\' :: s => do
    let (c, s) ← readEscape s
    let (cs, s) ← readChars fuel s
    .ok (c :: cs, s)
  | fuel + 1, c :: s =>
    if c.toNat < 0x20 then .error .controlCharacterInString
    else do
      let (cs, s) ← readChars fuel s
      .ok (c :: cs, s)

def readString (s : List Char) : Except ReadError (String × List Char) := do
  let (cs, r) ← readChars (s.length + 1) s
  .ok (String.ofList cs, r)

mutual

/-- A value inside `depth` others. The fuel bounds the characters that may be read. -/
def readValue : Nat → Nat → List Char → Except ReadError (Json × List Char)
  | 0, _, _ => .error .endInValue
  | fuel + 1, depth, s =>
    match skipSpace s with
    | [] => .error .endInValue
    | 'n' :: r => do .ok (.null, ← readName ['u', 'l', 'l'] r)
    | 't' :: r => do .ok (.bool true, ← readName ['r', 'u', 'e'] r)
    | 'f' :: r => do .ok (.bool false, ← readName ['a', 'l', 's', 'e'] r)
    | '-' :: r => readNumber true r
    | '"' :: r => do
      let (t, r) ← readString r
      .ok (.string t, r)
    | '[' :: r =>
      if depth = maxDepth then .error .tooDeep
      else do
        let (js, r) ← readFirstItem fuel (depth + 1) r
        .ok (.array js, r)
    | '\x7b' :: r =>
      if depth = maxDepth then .error .tooDeep
      else do
        let (ms, r) ← readFirstMember fuel (depth + 1) r
        .ok (.object ms, r)
    | c :: r => if c.isDigit then readNumber false (c :: r) else .error .valueExpected

def readFirstItem : Nat → Nat → List Char → Except ReadError (List Json × List Char)
  | 0, _, _ => .error .endInList
  | fuel + 1, depth, s =>
    match skipSpace s with
    | [] => .error .endInList
    | ']' :: r => .ok ([], r)
    | r => do
      let (j, r) ← readValue fuel depth r
      let (js, r) ← readItems fuel depth r
      .ok (j :: js, r)

def readItems : Nat → Nat → List Char → Except ReadError (List Json × List Char)
  | 0, _, _ => .error .endInList
  | fuel + 1, depth, s =>
    match skipSpace s with
    | [] => .error .endInList
    | ']' :: r => .ok ([], r)
    | ',' :: r =>
      match skipSpace r with
      | [] => .error .endInValue
      | ']' :: _ => .error .trailingComma
      | r => do
        let (j, r) ← readValue fuel depth r
        let (js, r) ← readItems fuel depth r
        .ok (j :: js, r)
    | _ => .error .listCommaOrEndExpected

def readMember : Nat → Nat → List Char → Except ReadError ((String × Json) × List Char)
  | 0, _, _ => .error .endInObject
  | fuel + 1, depth, s => do
    let (k, r) ← readString s
    match skipSpace r with
    | [] => .error .endInObject
    | ':' :: r =>
      let (j, r) ← readValue fuel depth r
      .ok ((k, j), r)
    | _ => .error .colonExpected

def readFirstMember : Nat → Nat → List Char → Except ReadError ((List (String × Json)) × List Char)
  | 0, _, _ => .error .endInObject
  | fuel + 1, depth, s =>
    match skipSpace s with
    | [] => .error .endInObject
    | '\x7d' :: r => .ok ([], r)
    | '"' :: r => do
      let (m, r) ← readMember fuel depth r
      let (ms, r) ← readMembers fuel depth r
      .ok (m :: ms, r)
    | _ => .error .keyNotString

def readMembers : Nat → Nat → List Char → Except ReadError ((List (String × Json)) × List Char)
  | 0, _, _ => .error .endInObject
  | fuel + 1, depth, s =>
    match skipSpace s with
    | [] => .error .endInObject
    | '\x7d' :: r => .ok ([], r)
    | ',' :: r =>
      match skipSpace r with
      | [] => .error .endInValue
      | '"' :: r => do
        let (m, r) ← readMember fuel depth r
        let (ms, r) ← readMembers fuel depth r
        .ok (m :: ms, r)
      | '\x7d' :: _ => .error .trailingComma
      | _ => .error .keyNotString
    | _ => .error .objectCommaOrEndExpected

end

def read (text : String) : Except ReadError Json := do
  let s := text.toList
  let (j, r) ← readValue (2 * s.length + 2) 0 s
  if (skipSpace r).isEmpty then .ok j else .error .trailingCharacters

end SmokeSuite.Json
