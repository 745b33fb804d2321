import SmokeSuite.Duration.Basic
import SmokeSuite.Decimal.Basic
import SmokeSuite.Text.Blank

namespace SmokeSuite.Duration

inductive ReadError where
  | empty
  | numberExpected (offset : Nat)
  | invalidCharacter (offset : Nat)
  | unitMissing (value : Nat)
  | unknownUnit (unit : String)
  | overflow
  /-- The nanoseconds fill another second and there is no room for it. -/
  | carryOverflow
  deriving DecidableEq, Inhabited

def ReadError.message : ReadError → String
  | .empty => "value was empty"
  | .numberExpected offset => s!"expected number at {offset}"
  | .invalidCharacter offset => s!"invalid character at {offset}"
  | .unitMissing value => s!"time unit needed, for example {value}sec or {value}ms"
  | .unknownUnit unit =>
    "unknown time unit \"" ++ unit ++ "\", supported units: ns, us/µs, ms, sec, min, hours, days, " ++
      "weeks, months, years (and few variations)"
  | .overflow =>
    "number is too large or cannot be represented without a lack of precision " ++
      "(values below 1ns are not supported)"
  | .carryOverflow => "overflow in Duration::new"

inductive Unit where
  | nanosecond | microsecond | millisecond | second | minute | hour | day | week | month | year
  deriving DecidableEq

def Unit.ofName? (name : String) : Option Unit :=
  if ["nanos", "nsec", "ns"].contains name then some .nanosecond
  else if ["usec", "us", "µs"].contains name then some .microsecond
  else if ["millis", "msec", "ms"].contains name then some .millisecond
  else if ["seconds", "second", "secs", "sec", "s"].contains name then some .second
  else if ["minutes", "minute", "mins", "min", "m"].contains name then some .minute
  else if ["hours", "hour", "hrs", "hr", "h"].contains name then some .hour
  else if ["days", "day", "d"].contains name then some .day
  else if ["weeks", "week", "wks", "wk", "w"].contains name then some .week
  else if ["months", "month", "M"].contains name then some .month
  else if ["years", "year", "yrs", "yr", "y"].contains name then some .year
  else none

/-- How many whole seconds, or else nanoseconds, a unit has. -/
inductive Size where
  | nanos (n : Nat)
  | seconds (n : Nat)

def Unit.size : Unit → Size
  | .nanosecond => .nanos 1
  | .microsecond => .nanos 1000
  | .millisecond => .nanos 1000000
  | .second => .seconds 1
  | .minute => .seconds Duration.minute
  | .hour => .seconds Duration.hour
  | .day => .seconds Duration.day
  | .week => .seconds Duration.week
  | .month => .seconds Duration.month
  | .year => .seconds Duration.year

/-- The size in which a part of the unit must be a whole number: nanoseconds up to the minute,
seconds above it. A nanosecond has no parts. -/
def Unit.grain : Unit → Option Size
  | .nanosecond => none
  | .second => some (.nanos nanosPerSecond)
  | .minute => some (.nanos (Duration.minute * nanosPerSecond))
  | u => some u.size

def checked (n : Nat) : Except ReadError Nat :=
  if n < secondsLimit then .ok n else .error .overflow

/-- Seconds and nanoseconds as a duration. A full second among the nanoseconds is carried. -/
def carried (seconds nanos : Nat) : Except ReadError Duration :=
  let total := seconds + nanos / nanosPerSecond
  if total < secondsLimit then .ok ⟨total, nanos % nanosPerSecond⟩ else .error .carryOverflow

def add (out : Duration) (seconds nanos : Nat) : Except ReadError Duration := do
  let nanos ← checked (out.nanos + nanos)
  let (seconds, nanos) ←
    if nanos > nanosPerSecond then
      (checked (seconds + nanos / nanosPerSecond)).map (·, nanos % nanosPerSecond)
    else .ok (seconds, nanos)
  let seconds ← checked (out.seconds + seconds)
  carried seconds nanos

/-- A number before its unit: whole part, and the part behind the point as a quotient. -/
structure Amount where
  whole : Nat
  part : Option (Nat × Nat)

def addAmount (out : Duration) (a : Amount) (u : Unit) : Except ReadError Duration := do
  let out ← match u.size with
    | .nanos n => do add out 0 (← checked (a.whole * n))
    | .seconds n => do add out (← checked (a.whole * n)) 0
  match a.part, u.grain with
  | none, _ => .ok out
  | some _, none => .error .overflow
  | some (num, den), some size => do
    let fraction (n : Nat) : Except ReadError Nat := do
      let scaled ← checked (num * n)
      if scaled % den = 0 then .ok (scaled / den) else .error .overflow
    match size with
    | .nanos n => do add out 0 (← fraction n)
    | .seconds n => do add out (← fraction n) 0

/-- Where reading stands: the bytes read so far and the text ahead. -/
structure Place where
  offset : Nat
  ahead : List Char

def Place.after (p : Place) (c : Char) (rest : List Char) : Place := ⟨p.offset + c.utf8Size, rest⟩

def isUnitLetter (c : Char) : Bool := c.isAlpha || c == 'µ'

/-- The first digit of a number, with blanks before it; `none` at the end of the text. Anything else
is reported at `start`, where the blanks begin. -/
def readFirstDigit (start offset : Nat) : List Char → Except ReadError (Option (Nat × Place))
  | [] => .ok none
  | c :: r =>
    if c.isDigit then .ok (some (Decimal.digitValue c, ⟨offset + 1, r⟩))
    else if Text.isBlank c then readFirstDigit start (offset + c.utf8Size) r
    else .error (.numberExpected start)

/-- The digits behind the point. `last` is the place after the last of them. -/
def readPart (last offset num den : Nat) : List Char → Except ReadError ((Nat × Nat) × Place)
  | [] => if den = 1 then .error (.invalidCharacter last) else .ok ((num, den), ⟨last, []⟩)
  | c :: r =>
    if c.isDigit then do
      let den ← checked (den * 10)
      let num ← checked (num * 10 + Decimal.digitValue c)
      readPart (offset + 1) (offset + 1) num den r
    else if Text.isBlank c then readPart (offset + c.utf8Size) (offset + c.utf8Size) num den r
    else if isUnitLetter c then
      if den = 1 then .error (.invalidCharacter last) else .ok ((num, den), ⟨last, c :: r⟩)
    else .error (.invalidCharacter last)

def readAmount (offset whole : Nat) : List Char → Except ReadError (Amount × Place)
  | [] => .ok (⟨whole, none⟩, ⟨offset, []⟩)
  | c :: r =>
    if c.isDigit then do
      let whole ← checked (whole * 10)
      let whole ← checked (whole + Decimal.digitValue c)
      readAmount (offset + 1) whole r
    else if Text.isBlank c then readAmount (offset + c.utf8Size) whole r
    else if isUnitLetter c then .ok (⟨whole, none⟩, ⟨offset, c :: r⟩)
    else if c == '.' then do
      let (part, place) ← readPart offset (offset + 1) 0 1 r
      .ok (⟨whole, some part⟩, place)
    else .error (.invalidCharacter offset)

/-- The letters of a unit. It ends at a digit, at a blank, which it takes with it, or with the
text. -/
def readUnit (offset : Nat) : List Char → Except ReadError (List Char × Place)
  | [] => .ok ([], ⟨offset, []⟩)
  | c :: r =>
    if c.isDigit then .ok ([], ⟨offset, c :: r⟩)
    else if Text.isBlank c then .ok ([], ⟨offset + c.utf8Size, r⟩)
    else if isUnitLetter c then do
      let (cs, place) ← readUnit (offset + c.utf8Size) r
      .ok (c :: cs, place)
    else .error (.invalidCharacter offset)

def readSum : Nat → Duration → Nat → Place → Except ReadError Duration
  | 0, out, _, _ => .ok out
  | fuel + 1, out, digit, place => do
    let (amount, place) ← readAmount place.offset digit place.ahead
    let (name, place) ← readUnit place.offset place.ahead
    match Unit.ofName? (String.ofList name) with
    | none =>
      if name.isEmpty then .error (.unitMissing amount.whole)
      else .error (.unknownUnit (String.ofList name))
    | some u => do
      let out ← addAmount out amount u
      match ← readFirstDigit place.offset place.offset place.ahead with
      | none => .ok out
      | some (digit, place) => readSum fuel out digit place

def read (text : String) : Except ReadError Duration :=
  if text == "0" then .ok zero
  else do
    match ← readFirstDigit 0 0 text.toList with
    | none => .error .empty
    | some (digit, place) => readSum (text.length + 1) zero digit place

end SmokeSuite.Duration
