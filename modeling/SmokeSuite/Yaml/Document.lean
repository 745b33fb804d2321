import SmokeSuite.Yaml.Fault
import SmokeSuite.Yaml.Lexer
import SmokeSuite.Yaml.Node.Reader
import SmokeSuite.Yaml.Tree

namespace SmokeSuite.Yaml

/-- What a text describes, and its first fault if it has one. -/
structure Document where
  tree : Tree
  fault : Option Fault := none
  deriving Inhabited

namespace Document

abbrev LinkedNode := Node Nat

abbrev Names := List (List Char × Nat)

/-- The nodes with an anchor, in the order in which they begin. -/
abbrev Slots := List (Nat × LinkedNode)

/-- Where linking stands: the names so far, and the first fault. -/
structure Linking where
  names : Names := []
  fault : Option Fault := none

abbrev Link := StateM Linking

def define (anchor : Option (List Char)) : Link (Option Nat) :=
  match anchor with
  | none => pure none
  | some name =>
    modifyGet fun st =>
      (some st.names.length,
        { st with names := (name, st.names.length) :: st.names.filter (·.1 != name) })

/-- The slot of a name; one that is not defined before is a fault. -/
def resolve (place : Place) (name : List Char) : Link LinkedNode :=
  modifyGet fun st =>
    match st.names.lookup name with
    | some slot => (.alias place slot, st)
    | none => (.cut, { st with fault := some (.unknownAnchor place) })

def inSlot (slot : Option Nat) (n : LinkedNode) : Slots := (slot.map (·, n)).toList

def isSound : Link Bool := return (← get).fault.isNone

mutual

/-- Replaces the names of aliases by slots. Behind a fault, nodes are cut. -/
def link : NamedNode → Link (LinkedNode × Slots)
  | .cut => pure (.cut, [])
  | .alias place name => do
    if ← isSound then return (← resolve place name, []) else return (.cut, [])
  | .scalar place properties style text => do
    if ← isSound then
      let n : LinkedNode := .scalar place properties style text
      return (n, inSlot (← define properties.anchor) n)
    else return (.cut, [])
  | .sequence place properties items => do
    if ← isSound then
      let slot ← define properties.anchor
      let (items, inner) ← linkItems items
      let n : LinkedNode := .sequence place properties items
      return (n, inSlot slot n ++ inner)
    else return (.cut, [])
  | .mapping place properties entries => do
    if ← isSound then
      let slot ← define properties.anchor
      let (entries, inner) ← linkEntries entries
      let n : LinkedNode := .mapping place properties entries
      return (n, inSlot slot n ++ inner)
    else return (.cut, [])

def linkItems : List NamedNode → Link (List LinkedNode × Slots)
  | [] => pure ([], [])
  | n :: ns => do
    let (n, first) ← link n
    let (ns, others) ← linkItems ns
    return (n :: ns, first ++ others)

def linkEntries : List (NamedNode × NamedNode) → Link (List (LinkedNode × LinkedNode) × Slots)
  | [] => pure ([], [])
  | (k, v) :: es => do
    let (k, first) ← link k
    let (v, second) ← link v
    let (es, others) ← linkEntries es
    return ((k, v) :: es, first ++ second ++ others)

end

def maxDepth : Nat := 128

def aliasesPerMark : Nat := 100

/-- Where filling in stands: the aliases so far, and the fault that cut the tree. -/
structure Filling where
  count : Nat := 0
  fault : Option Fault := none

/-- What filling in needs: the anchored nodes, the greatest number of aliases, and the fault for which
nodes are cut. -/
structure Source where
  slots : Slots
  limit : Nat
  fault : Fault

abbrev Fill := ReaderT Source (StateM Filling)

def cutFor (f : Fault) : Fill Tree := do
  modify fun st => { st with fault := st.fault.or (some f) }
  return .cut

def follow : LinkedNode → Fill (Except Fault LinkedNode)
  | .alias _ slot => do
    let source ← read
    let count := (← get).count
    if count ≥ source.limit then return .error .tooManyAliases
    modify fun st => { st with count := count + 1 }
    match source.slots.reverse.lookup slot with
    | some n => return .ok n
    | none => return .error source.fault
  | .cut => return .error (← read).fault
  | n => return .ok n

def label : LinkedNode → Option String
  | .scalar _ _ _ text => some (String.ofList text)
  | _ => none

def fill : Nat → LinkedNode → Fill Tree
  | depth, n => do
    if let some f := (← get).fault then return ← cutFor f
    match ← follow n, depth with
    | .error f, _ => cutFor f
    | .ok (.scalar place properties style text), _ =>
      return .scalar place properties.tag style (String.ofList text)
    | .ok (.sequence place properties items), depth + 1 =>
      return .sequence place properties.tag (← items.mapM (fill depth))
    | .ok (.mapping place properties entries), depth + 1 =>
      return .mapping place properties.tag (← entries.mapM fun (k, v) => do
        let key ← fill depth k
        let value ← fill depth v
        return (label k, key, value))
    | .ok (.sequence place ..), 0 | .ok (.mapping place ..), 0 => cutFor (.tooDeep place)
    | .ok _, _ => cutFor .malformed

/-- The document of a node. `fault` is the one that cut the node or that stands behind it. -/
def ofNode (root : NamedNode) (fault : Option Fault) : Document :=
  let ((n, slots), linking) := (link root).run {}
  let fault := linking.fault.or fault
  let source : Source :=
    { slots, limit := aliasesPerMark * n.extent.marks, fault := fault.getD .malformed }
  let (tree, filling) := (fill maxDepth n).run source |>.run {}
  { tree, fault := filling.fault.or fault }

/-- Reads the directives in front of a document: at most one for the version, and one for each tag
handle. -/
def directives (versioned : Bool) (handles : Node.Handles) :
    List Token → Option (Node.Handles × List Token)
  | ⟨.versionDirective major minor, _, _⟩ :: r =>
    if versioned || major != 1 || (minor != 1 && minor != 2) then none
    else directives true handles r
  | ⟨.tagDirective handle expansion, _, _⟩ :: r =>
    if (handles.lookup handle).isSome then none
    else directives versioned ((handle, expansion) :: handles) r
  | r => some (handles, r)

def content (handles : Node.Handles) (ts : List Token) : Part NamedNode :=
  match Node.next ts with
  | .versionDirective .. | .tagDirective .. | .documentStart | .documentEnd | .streamEnd =>
    .whole (.empty (Node.placeOf ts)) ts
  | _ => Node.readRoot handles ts

/-- The first document of some tokens. It needs a mark of its start only after directives. -/
def first (ts : List Token) : Part NamedNode :=
  match Node.next ts with
  | .streamEnd => .whole (.empty (Node.placeOf ts)) ts
  | .versionDirective .. | .tagDirective .. | .documentStart =>
    match directives false [] ts with
    | some (handles, ⟨.documentStart, _, _⟩ :: r) => content (handles ++ Node.defaultHandles) r
    | _ => .cut
  | _ => Node.readRoot Node.defaultHandles ts

def skipEnds (ts : List Token) : List Token :=
  ts.dropWhile fun t => t.symbol == .documentEnd

/-- The fault of the tokens behind a document's node. Behind the end of the document nothing may
follow, be it well-formed or not. -/
def faultBehind (ts : List Token) : Option Fault :=
  match Node.next ts, Node.next (skipEnds ts) with
  | .fault, _ => some .malformed
  | _, .streamEnd => none
  | _, _ => some .severalDocuments

end Document

/-- The document of a text. A text without any content describes an empty scalar. -/
def readChars (text : List Char) : Document :=
  let root := Document.first (tokens text)
  .ofNode root.value (match root.rest with
    | some r => Document.faultBehind r
    | none => some .malformed)

def read (text : String) : Document := readChars text.toList

end SmokeSuite.Yaml
