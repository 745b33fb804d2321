import SmokeSuite.Yaml.Tag
import SmokeSuite.Yaml.Token

namespace SmokeSuite.Yaml

/-- What may stand in front of a node. -/
structure Properties where
  anchor : Option (List Char) := none
  tag : Option Tag := none
  deriving DecidableEq, Inhabited

inductive Node (Target : Type) where
  | alias (place : Place) (target : Target)
  | scalar (place : Place) (properties : Properties) (style : Style) (text : List Char)
  | sequence (place : Place) (properties : Properties) (items : List (Node Target))
  | mapping (place : Place) (properties : Properties) (entries : List (Node Target × Node Target))
  /-- Where the text breaks off. -/
  | cut
  deriving Inhabited

namespace Node

variable {Target : Type}

def empty (place : Place) : Node Target := .scalar place {} .plain []

/-- How many marks some nodes take, and whether they are whole. -/
structure Extent where
  marks : Nat := 0
  isWhole : Bool := true
  deriving DecidableEq, Inhabited

namespace Extent

def append (a b : Extent) : Extent := ⟨a.marks + b.marks, a.isWhole && b.isWhole⟩

/-- The marks of a collection around it: for its start, and for its end if that is reached. -/
def enclose (e : Extent) : Extent := { e with marks := e.marks + (if e.isWhole then 2 else 1) }

end Extent

mutual

def extent : Node Target → Extent
  | .alias .. | .scalar .. => { marks := 1 }
  | .sequence _ _ items => (extentOfItems items).enclose
  | .mapping _ _ entries => (extentOfEntries entries).enclose
  | .cut => { isWhole := false }

def extentOfItems : List (Node Target) → Extent
  | [] => {}
  | n :: ns => (extent n).append (extentOfItems ns)

def extentOfEntries : List (Node Target × Node Target) → Extent
  | [] => {}
  | (k, v) :: es => ((extent k).append (extent v)).append (extentOfEntries es)

end

end Node

abbrev NamedNode := Node (List Char)

end SmokeSuite.Yaml
