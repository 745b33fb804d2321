import SmokeSuite.Yaml.Tree
import SmokeSuite.Yaml.Scalar

namespace SmokeSuite.Yaml

inductive Value where
  | null
  | bool (b : Bool)
  | int (n : Int)
  | float (x : FloatValue)
  | string (s : String)
  | sequence (items : List Value)
  | mapping (entries : List (Value × Value))
  | tagged (name : String) (value : Value)
  deriving Inhabited

namespace Value

mutual

/-- Equality. Mappings are equal if one's entries are in the other and there are as many. -/
def same : Value → Value → Bool
  | .null, .null => true
  | .bool a, .bool b => a == b
  | .int a, .int b => a == b
  | .float a, .float b => a.same b
  | .string a, .string b => a == b
  | .sequence as, .sequence bs => sameItems as bs
  | .mapping as, .mapping bs => as.length == bs.length && allIn as bs
  | .tagged s a, .tagged t b => Tag.comparedName s == Tag.comparedName t && same a b
  | _, _ => false

def sameItems : List Value → List Value → Bool
  | [], [] => true
  | a :: as, b :: bs => same a b && sameItems as bs
  | _, _ => false

def allIn : List (Value × Value) → List (Value × Value) → Bool
  | [], _ => true
  | (k, v) :: es, bs => bs.any (fun (k', v') => same k k' && same v v') && allIn es bs

end

end Value

namespace Tree

def untaggedScalar (style : Style) (text : String) : Option Value :=
  if style == .plain then
    match meaning text with
    | .null => some .null
    | .bool b => some (.bool b)
    | .int n .word => some (.int n)
    | .int _ .doubleWord => none
    | .float x => some (.float x)
    | .text => some (.string text)
  else some (.string text)

def unnamedScalar (tag : Option Tag) (style : Style) (text : String) : Option Value :=
  match tag with
  | none => untaggedScalar style text
  | some tag =>
    if tag == Tag.bool then (boolOf? text).map .bool
    else if tag == Tag.int then
      match keptInt? text with
      | some (n, .word) => some (.int n)
      | _ => none
    else if tag == Tag.float then (floatOf? text).map .float
    else if tag == Tag.null then if isNull text then some .null else none
    else if tag.isLocal then untaggedScalar style text
    else some (.string text)

def withName (name : Option String) (v : Value) : Value :=
  match name with
  | some name => .tagged name v
  | none => v

mutual

def toValue? : Tree → Option Value
  | .scalar _ tag style text =>
    match tag.bind Tag.localName? with
    | some name => (untaggedScalar style text).map (.tagged name)
    | none => unnamedScalar tag style text
  | .sequence _ tag items =>
    (itemValues items).map fun vs => withName (tag.bind Tag.localName?) (.sequence vs)
  | .mapping _ tag entries =>
    (entryValues [] entries).map fun es => withName (tag.bind Tag.localName?) (.mapping es)
  | .cut => none

def itemValues : List Tree → Option (List Value)
  | [] => some []
  | t :: ts => do
    let v ← toValue? t
    let vs ← itemValues ts
    some (v :: vs)

def entryValues (seen : List (Value × Value)) :
    List (Option String × Tree × Tree) → Option (List (Value × Value))
  | [] => some []
  | (_, k, v) :: es => do
    let k ← toValue? k
    if seen.any (fun e => e.1.same k) then none
    else
      let v ← toValue? v
      let es ← entryValues ((k, v) :: seen) es
      some ((k, v) :: es)

end

end Tree

end SmokeSuite.Yaml
