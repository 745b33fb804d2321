import SmokeSuite.Text.Utf8

namespace SmokeSuite.Yaml

structure Tag where
  bytes : List UInt8
  deriving DecidableEq, Inhabited

namespace Tag

def ofText (s : String) : Tag := ⟨Text.Utf8.encode s.toList⟩

def endAtZero (bytes : List UInt8) : List UInt8 := bytes.takeWhile (· != 0)

def nonSpecific : Tag := ofText "!"

def bool : Tag := ofText "tag:yaml.org,2002:bool"
def int : Tag := ofText "tag:yaml.org,2002:int"
def float : Tag := ofText "tag:yaml.org,2002:float"
def null : Tag := ofText "tag:yaml.org,2002:null"

def localMark : UInt8 := 0x21

def isLocal (t : Tag) : Bool := t.bytes.head? == some localMark

/-- The name in a local tag, if it is text: what stands behind the mark, or the mark if nothing does. -/
def localName? (t : Tag) : Option String :=
  match t.bytes with
  | b :: name =>
    if b == localMark then
      (Text.Utf8.decode? (if name.isEmpty then [b] else name)).map String.ofList
    else none
  | [] => none

/-- What tells a local name from others. One more mark in front of it makes no difference. -/
def comparedName (name : String) : String :=
  match name.toList with
  | '!' :: c :: r => String.ofList (c :: r)
  | _ => name

end Tag

end SmokeSuite.Yaml
