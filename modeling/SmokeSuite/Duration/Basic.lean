namespace SmokeSuite

structure Duration where
  seconds : Nat
  nanos : Nat
  deriving DecidableEq, Inhabited

namespace Duration

def secondsLimit : Nat := UInt64.size

def nanosPerSecond : Nat := 1000000000

def zero : Duration := ⟨0, 0⟩

def ofNanos (n : Nat) : Duration := ⟨n / nanosPerSecond, n % nanosPerSecond⟩

def ofMillis (n : Nat) : Duration := ofNanos (n * 1000000)

def ofSeconds (n : Nat) : Duration := ⟨n, 0⟩

def totalNanos (d : Duration) : Nat := d.seconds * nanosPerSecond + d.nanos

def minute : Nat := 60
def hour : Nat := 60 * minute
def day : Nat := 24 * hour
def week : Nat := 7 * day
def month : Nat := 2630016
def year : Nat := 31557600

def part (n : Nat) (unit : String) : List String := if n = 0 then [] else [toString n ++ unit]

def pluralPart (n : Nat) (unit : String) : List String :=
  part n (if n > 1 then unit ++ "s" else unit)

def parts (d : Duration) : List String :=
  let inYear := d.seconds % year
  let inMonth := inYear % month
  let inDay := inMonth % day
  pluralPart (d.seconds / year) "year" ++
  pluralPart (inYear / month) "month" ++
  pluralPart (inMonth / day) "day" ++
  part (inDay / hour) "h" ++
  part (inDay % hour / minute) "m" ++
  part (inDay % minute) "s" ++
  part (d.nanos / 1000000) "ms" ++
  part (d.nanos / 1000 % 1000) "us" ++
  part (d.nanos % 1000) "ns"

def toText (d : Duration) : String :=
  if d.parts.isEmpty then "0s" else " ".intercalate d.parts

end Duration

end SmokeSuite
