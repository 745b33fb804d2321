import SmokeSuite.Glob.Pattern

namespace SmokeSuite.Glob

inductive Expression where
  | byte (b : UInt8)
  | any
  | oneOf (negated : Bool) (ranges : List ByteRange)
  /-- An expression with a sign behind it that says how often it may stand there. -/
  | repeated (e : Expression) (sign : Char)
  | group (branches : List (List Expression))
  deriving Inhabited

namespace Expression

def anything : Expression := .repeated .any '*'

def slash : Expression := .byte Glob.slash

/-- The characters that do not stand for themselves in a regular expression. -/
def specialCharacters : List Char := "\\.+*?()|[]\x7b\x7d^$#&-~".toList

def hexDigit (n : Nat) : Char := (Nat.digitChar n).toUpper

def byteText (b : UInt8) : List Char :=
  let c := Char.ofNat b.toNat
  if b ≥ 0x80 then ['\\', 'x', hexDigit (b.toNat / 16), hexDigit (b.toNat % 16)]
  else if specialCharacters.contains c then ['\\', c]
  else [c]

def rangeText (r : ByteRange) : List Char :=
  if r.low == r.high then byteText r.low else byteText r.low ++ '-' :: byteText r.high

mutual

def text : Expression → List Char
  | .byte b => byteText b
  | .any => ['.']
  | .oneOf negated ranges =>
    '[' :: (if negated then ['^'] else []) ++ ranges.flatMap rangeText ++ [']']
  | .repeated e sign => e.text ++ [sign]
  | .group branches => "(?:".toList ++ branchesText branches ++ [')']

def sequenceText : List Expression → List Char
  | [] => []
  | e :: es => e.text ++ sequenceText es

def branchesText : List (List Expression) → List Char
  | [] => []
  | [es] => sequenceText es
  | es :: branches => sequenceText es ++ '|' :: branchesText branches

end

def levelOf (parts : Nat) : Nat := if parts ≥ 2 then 1 else 0

mutual

def depth : Expression → Nat
  | .byte _ | .any => 0
  | .oneOf _ ranges => 1 + levelOf ranges.length
  | .repeated e _ => 1 + e.depth
  | .group branches => 1 + levelOf branches.length + branchesDepth branches

def greatestDepth : List Expression → Nat
  | [] => 0
  | e :: es => max e.depth (greatestDepth es)

def branchesDepth : List (List Expression) → Nat
  | [] => 0
  | es :: branches => max (levelOf es.length + greatestDepth es) (branchesDepth branches)

end

end Expression

mutual

def Piece.expressions : Piece → List Expression
  | .literal bytes => bytes.map .byte
  | .any => [.any]
  | .star => [.anything]
  | .leadingDirectories =>
    [.group [[.repeated .slash '?'], [.anything, .slash]]]
  | .everythingBelow => [.slash, .anything]
  | .innerDirectories => [.group [[.slash], [.slash, .anything, .slash]]]
  | .oneOf negated ranges => [.oneOf negated ranges]
  | .alternatives branches =>
    match branchExpressions branches with
    | [] => []
    | es => [.group es]

def expressionsOf : List Piece → List Expression
  | [] => []
  | p :: ps => p.expressions ++ expressionsOf ps

def branchExpressions : List (List Piece) → List (List Expression)
  | [] => []
  | ps :: branches =>
    match expressionsOf ps with
    | [] => branchExpressions branches
    | es => es :: branchExpressions branches

end

namespace Pattern

def expressions (p : Pattern) : List Expression :=
  if isEverything p then [.anything] else expressionsOf p

def expressionText (p : Pattern) : String :=
  String.ofList ("(?-u)^".toList ++ Expression.sequenceText p.expressions ++ ['$'])

/-- How deep the expression nests. It is a sequence, because of the marks at its ends. -/
def depth (p : Pattern) : Nat := 1 + Expression.greatestDepth p.expressions

end Pattern

end SmokeSuite.Glob
