import SmokeSuite.Shell.Command

namespace SmokeSuite.Shell

/-- A character of an expanded word, or a mark where a quote stood, which keeps a word from vanishing. -/
inductive Cell where
  | char (c : Char) (isQuoted : Bool)
  | mark
  deriving DecidableEq, Inhabited

namespace Cell

def ofText (isQuoted : Bool) (s : Octets) : List Cell := s.map (.char · isQuoted)

def text (cs : List Cell) : Octets :=
  cs.filterMap fun c => match c with
    | .char c _ => some c
    | .mark => none

/-- The text as a pattern, where a backslash stands in front of what was quoted. A backslash that was not
quoted takes the meaning from what follows already. -/
def pattern : Bool → List Cell → Octets
  | _, [] => []
  | escaped, .mark :: r => pattern escaped r
  | escaped, .char c true :: r => if escaped then c :: pattern false r else '\\' :: c :: pattern false r
  | escaped, .char c false :: r => c :: pattern (c == '\\' && !escaped) r

end Cell

namespace Pattern

/-- What a class holds: the characters between two, or the ones that a condition describes. -/
inductive Member where
  | range (first last : Char)
  | named (name : String)
  deriving DecidableEq, Inhabited

inductive Piece where
  | literal (c : Char)
  | any
  | star
  | oneOf (isNegated : Bool) (members : List Member)
  deriving DecidableEq, Inhabited

/-- Whether a character belongs to a named class; there is no such class if there is no answer. -/
def inNamed? (name : String) (c : Char) : Option Bool :=
  let isGraph := '!' ≤ c && c ≤ '~'
  match name with
  | "alnum" => some c.isAlphanum
  | "alpha" => some c.isAlpha
  | "blank" => some (c == ' ' || c == '\t')
  | "cntrl" => some (c < ' ' || c == '\x7f')
  | "digit" => some c.isDigit
  | "graph" => some isGraph
  | "lower" => some c.isLower
  | "print" => some (isGraph || c == ' ')
  | "punct" => some (isGraph && !c.isAlphanum)
  | "space" => some (c == ' ' || ('\t' ≤ c && c ≤ '\r'))
  | "upper" => some c.isUpper
  | "xdigit" => some (c.isDigit || ('a' ≤ c && c ≤ 'f') || ('A' ≤ c && c ≤ 'F'))
  | _ => none

def order (c : Char) : Int := if c.toNat < 128 then c.toNat else (c.toNat : Int) - 256

def Member.has (m : Member) (c : Char) : Bool :=
  match m with
  | .range first last => order first ≤ order c && order c ≤ order last
  | .named name => (inNamed? name c).getD false

def named? (s : Octets) : Option (Member × Octets) :=
  match s with
  | ':' :: r =>
    let name := r.takeWhile (· != ':')
    match r.drop name.length with
    | ':' :: ']' :: rest =>
      let name := String.ofList name
      (inNamed? name ' ').map fun _ => (.named name, rest)
    | _ => none
  | _ => none

/-- The members of a class and what follows it. A closing bracket in the first place does not close it. -/
def readClass : Nat → Bool → Octets → Option (List Member × Octets)
  | 0, _, _ => none
  | _ + 1, _, [] => none
  | fuel + 1, isFirst, c :: r =>
    if c == ']' && !isFirst then some ([], r)
    else match if c == '[' then named? r else none with
      | some (m, rest) => do
        let (ms, rest) ← readClass fuel false rest
        some (m :: ms, rest)
      | none => do
        let (c, r) ← if c == '\\' then (match r with
            | d :: r => some (d, r)
            | [] => none) else some (c, r)
        match r with
        | '-' :: high :: rest =>
          if high == ']' then
            let (ms, rest) ← readClass fuel false r
            some (.range c c :: ms, rest)
          else
            let (high, rest) ← if high == '\\' then (match rest with
                | d :: rest => some (d, rest)
                | [] => none) else some (high, rest)
            let (ms, rest) ← readClass fuel false rest
            some (.range c high :: ms, rest)
        | r =>
          let (ms, rest) ← readClass fuel false r
          some (.range c c :: ms, rest)

/-- The pieces of a pattern. A bracket that is not closed stands for itself. -/
def read : Nat → Octets → List Piece
  | 0, _ => []
  | _ + 1, [] => []
  | fuel + 1, c :: r =>
    match c with
    | '*' => .star :: read fuel r
    | '?' => .any :: read fuel r
    | '\\' =>
      match r with
      | d :: r => .literal d :: read fuel r
      | [] => [.literal '\\']
    | '[' =>
      let (isNegated, body) := match r with
        | '!' :: b => (true, b)
        | b => (false, b)
      match readClass (body.length + 1) true body with
      | some (members, rest) => .oneOf isNegated members :: read fuel rest
      | none => .literal '[' :: read fuel r
    | c => .literal c :: read fuel r

def ofText (s : Octets) : List Piece := read (s.length + 1) s

def ofCells (cs : List Cell) : List Piece := ofText (Cell.pattern false cs)

def suffixes : Octets → List Octets
  | [] => [[]]
  | c :: r => (c :: r) :: suffixes r

/-- What a piece may leave of texts that are suffixes of one, in order of length. -/
def Piece.leave : Piece → List Octets → List Octets
  | .literal c, ts => ts.filterMap fun t => match t with
    | d :: r => if c = d then some r else none
    | [] => none
  | .any, ts => ts.filterMap List.tail?
  | .star, ts => (ts.head?.map suffixes).getD []
  | .oneOf isNegated members, ts => ts.filterMap fun t => match t with
    | d :: r => if members.any (·.has d) != isNegated then some r else none
    | [] => none

def rests (p : List Piece) (t : Octets) : List Octets := p.foldl (fun ts piece => piece.leave ts) [t]

def fits (p : List Piece) (t : Octets) : Bool := (rests p t).any List.isEmpty

def head (t : Octets) : Octets := t.takeWhile (· != '\x00')

/-- Takes a match off the start of a text. What stands behind a zero byte goes only with all of it. -/
def trimStart (longest : Bool) (p : List Piece) (t : Octets) : Octets :=
  let first := head t
  let others := t.drop first.length
  let rs := rests p first
  if longest && !others.isEmpty && rs.any List.isEmpty then []
  else ((if longest then rs.getLast? else rs.head?).getD first) ++ others

def trimEnd (longest : Bool) (p : List Piece) (t : Octets) : Octets :=
  let matching := (suffixes t).filter fun s => fits p (head s)
  match if longest then matching.head? else matching.getLast? with
  | some tail => t.take (t.length - tail.length)
  | none => t

end Pattern

end SmokeSuite.Shell
