import SmokeSuite.Yaml.Decoder
import SmokeSuite.Yaml.Document
import SmokeSuite.Yaml.Value

namespace SmokeSuite.Yaml

/-- Why a text cannot be read for something: it has a fault, or its tree does not fit. In the second
case it may still lack a value, for whatever is wrong anywhere in the text. -/
inductive LoadError where
  | faulty (fault : Fault)
  | misfit (problem : Problem) (hasValue : Bool)

namespace LoadError

def text : LoadError → String
  | .faulty fault => fault.text
  | .misfit problem _ => problem.text

def placeText : LoadError → String
  | .faulty fault => (fault.place?.map Place.text).getD ""
  | .misfit problem _ => problem.placeText

/-- Whether the text has a value, though it is not the one that was wanted. -/
def hasValue : LoadError → Bool
  | .faulty _ => false
  | .misfit _ hasValue => hasValue

end LoadError

def Document.hasValue (d : Document) : Bool := d.fault.isNone && d.tree.toValue?.isSome

/-- Reads a text with a decoder. A fault counts where the tree is cut, and behind the tree. -/
def load {α : Type} (d : Decoder α) (content : String) : Except LoadError α :=
  let document := read content
  match d [] document.tree, document.fault with
  | .ok x, none => .ok x
  | .ok _, some fault => .error (.faulty fault)
  | .error .cut, fault => .error (.faulty (fault.getD .malformed))
  | .error (.misfit problem), _ => .error (.misfit problem document.hasValue)

theorem load_of_whole {α : Type} {d : Decoder α} {content : String} {x : α}
    (hx : d [] (read content).tree = .ok x) (hwhole : (read content).fault = none) :
    load d content = .ok x := by
  simp only [load, hx, hwhole]

end SmokeSuite.Yaml
