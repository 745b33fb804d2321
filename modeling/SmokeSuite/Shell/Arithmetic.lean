import SmokeSuite.Shell.Command
import SmokeSuite.Text.Integer

namespace SmokeSuite.Shell.Arithmetic

def wrap (n : Int) : Int := Int.bmod n UInt64.size

inductive Operator where
  | times
  | over
  | modulo
  | plus
  | minus
  | left
  | right
  | less
  | atMost
  | greater
  | atLeast
  | equal
  | unequal
  | and
  | xor
  | or
  deriving DecidableEq, Inhabited

def Operator.weakness : Operator → Nat
  | .times | .over | .modulo => 0
  | .plus | .minus => 1
  | .left | .right => 2
  | .less | .atMost | .greater | .atLeast => 3
  | .equal | .unequal => 4
  | .and => 5
  | .xor => 6
  | .or => 7

inductive Token where
  | end
  | number (n : Int)
  | name (s : Octets)
  | binary (o : Operator)
  | assign (o : Option Operator)
  | both
  | either
  | not
  | complement
  | question
  | colon
  | open
  | close
  | stray
  deriving DecidableEq, Inhabited

def signs : List (String × Token) :=
  [("<<=", .assign (some .left)), (">>=", .assign (some .right)), ("&&", .both), ("||", .either),
    ("==", .binary .equal), ("!=", .binary .unequal), ("<=", .binary .atMost),
    (">=", .binary .atLeast), ("<<", .binary .left), (">>", .binary .right),
    ("+=", .assign (some .plus)), ("-=", .assign (some .minus)), ("*=", .assign (some .times)),
    ("/=", .assign (some .over)), ("%=", .assign (some .modulo)), ("&=", .assign (some .and)),
    ("|=", .assign (some .or)), ("^=", .assign (some .xor)), ("+", .binary .plus),
    ("-", .binary .minus), ("*", .binary .times), ("/", .binary .over), ("%", .binary .modulo),
    ("<", .binary .less), (">", .binary .greater), ("=", .assign none), ("!", .not),
    ("~", .complement), ("&", .binary .and), ("|", .binary .or), ("^", .binary .xor),
    ("?", .question), (":", .colon), ("(", .open), (")", .close)]

def firstToken (s : Octets) : Token × Octets :=
  let s := s.dropWhile fun c => c == ' ' || c == '\t' || c == '\n'
  match s with
  | [] => (.end, [])
  | c :: r =>
    if c.isDigit then
      let n := Integer.read 0 s
      (.number n.value, n.rest)
    else if isNameStart c then (.name (c :: r.takeWhile isNameChar), r.dropWhile isNameChar)
    else match signs.find? fun (sign, _) => sign.toList.isPrefixOf s with
      | some (sign, t) => (t, s.drop sign.length)
      | none => (.stray, s)

/-- Why an expression has no value. -/
inductive Fault where
  | divisionByZero
  | wantsPrimary
  | wantsEnd
  | wantsClose
  | wantsColon
  /-- A variable holds something else than a number. -/
  | badNumber (value : Octets)
  | constant (name : Octets)
  | overflow
  deriving DecidableEq, Inhabited

def Fault.message (f : Fault) (expression : Octets) : Octets :=
  let ofExpression (what : String) : Octets :=
    ("arithmetic expression: " ++ what ++ ": \"").toList ++ expression ++ ['"']
  match f with
  | .divisionByZero => ofExpression "division by zero"
  | .wantsPrimary => ofExpression "expecting primary"
  | .wantsEnd => ofExpression "expecting EOF"
  | .wantsClose => ofExpression "expecting ')'"
  | .wantsColon => ofExpression "expecting ':'"
  | .badNumber value => "Illegal number: ".toList ++ value
  | .constant name => name ++ ": is read only".toList
  | .overflow => []

structure Scope where
  value? : Octets → Option Octets
  isConstant : Octets → Bool

/-- The expression that is left, from its first token on, and the variables that were set so far, the
last one first. -/
structure State where
  token : Token
  rest : Octets
  assigned : List (Octets × Int) := []

abbrev Evaluation := StateT State (Except Fault)

def advance : Evaluation Unit := modify fun s =>
  let (token, rest) := firstToken s.rest
  { s with token, rest }

def ofBool (b : Bool) : Int := if b then 1 else 0

def Operator.apply (o : Operator) (a b : Int) : Except Fault Int :=
  let bits (f : BitVec 64 → BitVec 64 → BitVec 64) : Int :=
    (f (BitVec.ofInt 64 a) (BitVec.ofInt 64 b)).toInt
  let shift := (b % 64).toNat
  let divided (f : Int → Int → Int) : Except Fault Int :=
    if b = 0 then .error .divisionByZero
    else if a = Integer.minValue && b = -1 then .error .overflow
    else .ok (f a b)
  match o with
  | .times => .ok (wrap (a * b))
  | .over => divided Int.tdiv
  | .modulo => divided Int.tmod
  | .plus => .ok (wrap (a + b))
  | .minus => .ok (wrap (a - b))
  | .left => .ok (wrap (a * Int.pow 2 shift))
  | .right => .ok (Int.fdiv a (Int.pow 2 shift))
  | .less => .ok (ofBool (a < b))
  | .atMost => .ok (ofBool (a ≤ b))
  | .greater => .ok (ofBool (b < a))
  | .atLeast => .ok (ofBool (b ≤ a))
  | .equal => .ok (ofBool (a == b))
  | .unequal => .ok (ofBool (a != b))
  | .and => .ok (bits (· &&& ·))
  | .xor => .ok (bits (· ^^^ ·))
  | .or => .ok (bits (· ||| ·))

def valueOf (scope : Scope) (name : Octets) : Evaluation Int := do
  match (← get).assigned.lookup name with
  | some n => return n
  | none =>
    let text := (scope.value? name).getD []
    match Integer.ofText? 0 text with
    | some n => return n
    | none => throw (.badNumber text)

def assign (scope : Scope) (name : Octets) (n : Int) : Evaluation Unit := do
  if scope.isConstant name then throw (.constant name)
  modify fun s => { s with assigned := (name, n) :: s.assigned }

mutual

/-- An assignment or a choice. `idle` tells that nothing is carried out. The first number bounds the
tokens. -/
def assignment (scope : Scope) : Nat → Bool → Evaluation Int
  | 0, _ => throw .wantsPrimary
  | fuel + 1, idle => do
    let before ← get
    match before.token with
    | .name name => do
      advance
      match (← get).token with
      | .assign o => do
        advance
        let n ← assignment scope fuel idle
        if idle then return n
        let n ← match o with
          | none => pure n
          | some o => do liftM (o.apply (← valueOf scope name) n)
        assign scope name n
        return n
      | _ => do
        set before
        choice scope fuel idle
    | _ => choice scope fuel idle

def choice (scope : Scope) : Nat → Bool → Evaluation Int
  | 0, _ => throw .wantsPrimary
  | fuel + 1, idle => do
    let a ← either scope fuel idle
    if (← get).token != .question then return a
    advance
    let b ← assignment scope fuel (idle || a == 0)
    if (← get).token != .colon then throw .wantsColon
    advance
    let c ← choice scope fuel (idle || a != 0)
    return if a != 0 then b else c

def either (scope : Scope) : Nat → Bool → Evaluation Int
  | 0, _ => throw .wantsPrimary
  | fuel + 1, idle => do
    let a ← both scope fuel idle
    if (← get).token != .either then return a
    advance
    let b ← either scope fuel (idle || a != 0)
    return ofBool (a != 0 || b != 0)

def both (scope : Scope) : Nat → Bool → Evaluation Int
  | 0, _ => throw .wantsPrimary
  | fuel + 1, idle => do
    let a ← operators scope fuel 8 idle
    if (← get).token != .both then return a
    advance
    let b ← both scope fuel (idle || a == 0)
    return ofBool (a != 0 && b != 0)

def operators (scope : Scope) : Nat → Nat → Bool → Evaluation Int
  | 0, _, _ => throw .wantsPrimary
  | fuel + 1, limit, idle => do operatorsFrom scope fuel limit idle (← primary scope fuel idle)

def operatorsFrom (scope : Scope) : Nat → Nat → Bool → Int → Evaluation Int
  | 0, _, _, _ => throw .wantsPrimary
  | fuel + 1, limit, idle, a => do
    match (← get).token with
    | .binary o =>
      if o.weakness < limit then do
        advance
        let b ← operators scope fuel o.weakness idle
        let c ← if idle then pure b else liftM (o.apply a b)
        operatorsFrom scope fuel limit idle c
      else return a
    | _ => return a

def primary (scope : Scope) : Nat → Bool → Evaluation Int
  | 0, _ => throw .wantsPrimary
  | fuel + 1, idle => do
    let t := (← get).token
    match t with
    | .number n => do
      advance
      return n
    | .name name => do
      advance
      if idle then return 0 else valueOf scope name
    | .open => do
      advance
      let n ← assignment scope fuel idle
      if (← get).token != .close then throw .wantsClose
      advance
      return n
    | .binary .plus => do
      advance
      primary scope fuel idle
    | .binary .minus => do
      advance
      return wrap (-(← primary scope fuel idle))
    | .not => do
      advance
      return ofBool ((← primary scope fuel idle) == 0)
    | .complement => do
      advance
      return -(← primary scope fuel idle) - 1
    | _ => throw .wantsPrimary

end

def evaluate (scope : Scope) (s : Octets) : Except Fault (Int × List (Octets × Int)) := do
  let (token, rest) := firstToken s
  let (n, final) ← (assignment scope (16 * s.length + 64) false).run { token, rest }
  if final.token != .end then throw .wantsEnd
  return (n, final.assigned.reverse)

end SmokeSuite.Shell.Arithmetic
