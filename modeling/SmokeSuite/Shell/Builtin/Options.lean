import SmokeSuite.Shell.Session

namespace SmokeSuite.Shell.Options

def letters (plain valued : Octets) : List Octets → Octets → Run (List (Char × Octets) × List Octets)
  | rest, [] => return ([], rest)
  | rest, c :: cs => do
    if plain.contains c then
      let (found, rest) ← letters plain valued rest cs
      return ((c, []) :: found, rest)
    else if valued.contains c then
      if cs.isEmpty then
        match rest with
        | value :: rest => return ([(c, value)], rest)
        | [] => Run.fault ("No arg for -".toList ++ [c] ++ " option".toList)
      else return ([(c, cs)], rest)
    else Run.fault ("Illegal option -".toList ++ [c])

/-- Reads the options at the start of some arguments. The number bounds the words. -/
def readFrom (plain valued : Octets) :
    Nat → List Octets → Run (List (Char × Octets) × List Octets)
  | 0, ws => return ([], ws)
  | fuel + 1, ws =>
    match ws with
    | ['-', '-'] :: rest => return ([], rest)
    | ('-' :: c :: cs) :: rest => do
      let (first, rest) ← letters plain valued rest (c :: cs)
      let (others, rest) ← readFrom plain valued fuel rest
      return (first ++ others, rest)
    | ws => return ([], ws)

def read (plain valued : String) (ws : List Octets) : Run (List (Char × Octets) × List Octets) :=
  readFrom plain.toList valued.toList (ws.length + 1) ws

def none (ws : List Octets) : Run (List Octets) := do return (← read "" "" ws).2

end SmokeSuite.Shell.Options
