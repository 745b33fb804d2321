import SmokeSuite.Glob.Expression
import SmokeSuite.Glob.Reader

namespace SmokeSuite.Glob

/-- How a set finds out whether a pattern matches a text. -/
inductive Method where
  /-- By the last component of the text. -/
  | name
  | whole
  /-- By what the last component has from its last dot on. -/
  | nameEnding
  | start
  | ending
  /-- By an expression, which is tried if the last component ends as the pattern does from its last dot
  on. -/
  | expressionByEnding
  | expression
  deriving DecidableEq, Inhabited

namespace Method

def dot : UInt8 := 0x2E

def literalBytes? : Pattern → Option (List UInt8)
  | [] => some []
  | .literal bytes :: ps => (literalBytes? ps).map (bytes ++ ·)
  | _ :: _ => none

def dropLeading : Pattern → Pattern
  | .leadingDirectories :: ps => ps
  | ps => ps

def dropStar : Pattern → Pattern
  | .star :: ps => ps
  | ps => ps

/-- The bytes of a pattern, if there are any and it stands for them alone. -/
def nonEmptyBytes? (p : Pattern) : Option (List UInt8) := (literalBytes? p).filter (!·.isEmpty)

def isName : Pattern → Bool
  | .leadingDirectories :: ps => (nonEmptyBytes? ps).any (!·.contains slash)
  | _ => false

def isNameEnding (p : Pattern) : Bool :=
  match dropLeading p with
  | .star :: ps => (literalBytes? ps).any fun
    | b :: r => b == dot && !r.contains dot && !r.contains slash
    | [] => false
  | _ => false

def isStart (p : Pattern) : Bool :=
  match p.getLast? with
  | some .star => (nonEmptyBytes? p.dropLast).isSome
  | some .everythingBelow => (literalBytes? p.dropLast).isSome
  | _ => false

def isEnding (p : Pattern) : Bool :=
  (nonEmptyBytes? (dropStar (dropLeading p))).any (· != [slash])

def requiresEnding (p : Pattern) : Bool :=
  let isPlain : Piece → Bool := fun
    | .literal bytes => bytes != [slash] && bytes != [dot]
    | _ => false
  match p.reverse.dropWhile isPlain with
  | .literal bytes :: _ => bytes == [dot]
  | _ => false

def ofPattern (p : Pattern) : Method :=
  if isName p then .name
  else if (nonEmptyBytes? p).isSome then .whole
  else if isNameEnding p then .nameEnding
  else if isStart p then .start
  else if isEnding p then .ending
  else if requiresEnding p then .expressionByEnding
  else .expression

def usesName (m : Method) : Bool := m == .name || m == .nameEnding || m == .expressionByEnding

end Method

/-- Why a set cannot be built. -/
inductive SetError where
  | malformed (pattern : String) (cause : ReadError)
  /-- Among the expressions that are tried together, the one at this index nests too deep. -/
  | tooDeep (index : Nat)
  /-- This expression, which is tried by itself, nests too deep. -/
  | tooDeepAlone (expression : String)
  deriving DecidableEq, Inhabited

def SetError.depthText (index : Nat) : String := "error parsing pattern " ++ toString index

def SetError.message : SetError → String
  | .malformed pattern cause => cause.messageFor pattern
  | .tooDeep index => depthText index
  | .tooDeepAlone expression => "error parsing glob '" ++ expression ++ "': " ++ depthText 0

def maxDepth : Nat := 250

abbrev PatternSet := List Pattern

namespace PatternSet

def isTooDeep (p : Pattern) : Bool := p.depth > maxDepth

/-- Refuses patterns whose expressions nest too deep. Those tried by themselves come first. -/
def checkDepth (s : PatternSet) : Except SetError Unit :=
  match (s.filter (Method.ofPattern · == .expressionByEnding)).find? isTooDeep with
  | some p => .error (.tooDeepAlone p.expressionText)
  | none =>
    match (s.filter (Method.ofPattern · == .expression)).findIdx? isTooDeep with
    | some index => .error (.tooDeep index)
    | none => .ok ()

/-- The set of the patterns that some texts write. The first text that is no pattern is named. -/
def ofTexts (texts : List String) : Except SetError PatternSet := do
  let s ← texts.mapM fun text => (read text).mapError (.malformed text)
  checkDepth s
  pure s

def upwards : List UInt8 := [Method.dot, Method.dot]

def lastName? (text : List UInt8) : Option (List UInt8) :=
  let component := (text.reverse.takeWhile (· != slash)).reverse
  if text.isEmpty || component == upwards then none else some component

/-- Whether one of the patterns matches a whole text. A method that looks at the last component finds
nothing in a text without one. -/
def matchesText (s : PatternSet) (text : String) : Bool :=
  let bytes := Text.Utf8.encode text.toList
  s.any fun p =>
    p.matchesBytes bytes && !((Method.ofPattern p).usesName && (lastName? bytes).isNone)

end PatternSet

end SmokeSuite.Glob
