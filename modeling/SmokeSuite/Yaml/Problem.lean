import SmokeSuite.Yaml.Fault
import SmokeSuite.Yaml.Tree
import SmokeSuite.Yaml.Scalar
import SmokeSuite.Text.Quoted

namespace SmokeSuite.Yaml

inductive Step where
  | index (n : Nat)
  | field (name : String)
  /-- An entry whose key is not written in place. -/
  | unnamed
  deriving DecidableEq

/-- The steps from the root, the last one first. -/
abbrev Path := List Step

namespace Path

mutual

def text : Path → String
  | [] => "."
  | .index n :: up => text up ++ "[" ++ toString n ++ "]"
  | .field name :: up => before up ++ name
  | .unnamed :: up => before up ++ "?"

def before : Path → String
  | [] => ""
  | .index n :: up => text up ++ "[" ++ toString n ++ "]."
  | .field name :: up => before up ++ name ++ "."
  | .unnamed :: up => before up ++ "?."

end

end Path

inductive Found where
  | null
  | bool (b : Bool)
  | int (n : Int) (width : Width)
  | float (x : FloatValue)
  | string (s : String)
  | sequence
  | mapping

def Found.text : Found → String
  | .null => "unit value"
  | .bool b => "boolean `" ++ toString b ++ "`"
  | .int n .word => "integer `" ++ toString n ++ "`"
  | .int n .doubleWord => "integer `" ++ toString n ++ "` as " ++ (if n < 0 then "i128" else "u128")
  | .float x => "floating point `" ++ x.text ++ "`"
  | .string s => "string " ++ String.ofList (Text.quoted s.toList)
  | .sequence => "sequence"
  | .mapping => "map"

inductive Mismatch where
  | wrongType (found : Found) (expected : String)
  | wrongValue (found : Found) (expected : String)
  | unknownVariant (name : String) (known : List String)
  | unknownField (name : String) (known : List String)
  | duplicateField (name : String)
  | missingField (name : String)

def namesText (names : List String) : String :=
  ", ".intercalate (names.map fun n => "`" ++ n ++ "`")

def Mismatch.text : Mismatch → String
  | .wrongType found expected => "invalid type: " ++ found.text ++ ", expected " ++ expected
  | .wrongValue found expected => "invalid value: " ++ found.text ++ ", expected " ++ expected
  | .unknownVariant name known =>
    "unknown variant `" ++ name ++ "`, expected one of " ++ namesText known
  | .unknownField name known => "unknown field `" ++ name ++ "`, expected one of " ++ namesText known
  | .duplicateField name => "duplicate field `" ++ name ++ "`"
  | .missingField name => "missing field `" ++ name ++ "`"

/-- A mismatch and its site, once that is known. -/
structure Problem where
  mismatch : Mismatch
  site : Option (Path × Place) := none

namespace Problem

def text (p : Problem) : String :=
  match p.site with
  | some (step :: up, _) => Path.text (step :: up) ++ ": " ++ p.mismatch.text
  | _ => p.mismatch.text

def placeText (p : Problem) : String :=
  match p.site with
  | some (_, place) => place.text
  | none => ""

end Problem

inductive Halt where
  | cut
  | misfit (problem : Problem)

namespace Tree

/-- What a scalar is, for a message; a core tag that does not fit is the mismatch itself. -/
def scalarMismatch (tag : Option Tag) (style : Style) (text expected : String) : Mismatch :=
  let unfit (kind : String) : Mismatch := .wrongValue (.string text) kind
  let found (f : Found) : Mismatch := .wrongType f expected
  let untagged : Mismatch :=
    if style == .plain then
      match meaning text with
      | .null => found .null
      | .bool b => found (.bool b)
      | .int n w => found (.int n w)
      | .float x => found (.float x)
      | .text => found (.string text)
    else found (.string text)
  match tag with
  | none => untagged
  | some tag =>
    if tag == Tag.bool then ((boolOf? text).map fun b => found (.bool b)).getD (unfit "a boolean")
    else if tag == Tag.int then
      ((keptInt? text).map fun (n, w) => found (.int n w)).getD (unfit "an integer")
    else if tag == Tag.float then
      ((floatOf? text).map fun x => found (.float x)).getD (unfit "a float")
    else if tag == Tag.null then if isNull text then found .null else unfit "null"
    else if tag.isLocal then untagged
    else found (.string text)

/-- What is wrong with a tree at a path that is not what is expected. -/
def refuse (t : Tree) (path : Path) (expected : String) : Halt :=
  let at_ (place : Place) (m : Mismatch) : Halt := .misfit ⟨m, some (path, place)⟩
  match t with
  | .scalar place tag style text => at_ place (scalarMismatch tag style text expected)
  | .sequence place .. => at_ place (.wrongType .sequence expected)
  | .mapping place .. => at_ place (.wrongType .mapping expected)
  | .cut => .cut

end Tree

end SmokeSuite.Yaml
