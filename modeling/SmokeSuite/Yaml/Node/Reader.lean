import SmokeSuite.Yaml.Node

namespace SmokeSuite.Yaml

/-- What was read from some tokens, and the tokens behind it if it did not break off. -/
structure Part (α : Type) where
  value : α
  rest : Option (List Token)

namespace Part

variable {α β : Type}

def whole (value : α) (rest : List Token) : Part α := ⟨value, some rest⟩

def broken (value : α) : Part α := ⟨value, none⟩

def map (f : α → β) (p : Part α) : Part β := ⟨f p.value, p.rest⟩

def cons (p : Part α) (others : List Token → Part (List α)) : Part (List α) :=
  match p.rest with
  | some r => (others r).map (p.value :: ·)
  | none => broken [p.value]

def cut : Part NamedNode := broken .cut

def cutItems : Part (List NamedNode) := broken [.cut]

def cutEntries : Part (List (NamedNode × NamedNode)) := broken [(.cut, .cut)]

def pair (key : Part NamedNode) (value : List Token → Part NamedNode) :
    Part (NamedNode × NamedNode) :=
  match key.rest with
  | some r => (value r).map (key.value, ·)
  | none => broken (key.value, .cut)

end Part

namespace Node

abbrev Handles := List (List Char × List UInt8)

def defaultHandles : Handles :=
  [(['!'], Tag.nonSpecific.bytes), (['!', '!'], Text.Utf8.encode "tag:yaml.org,2002:".toList)]

def expandTag (handles : Handles) (handle : List Char) (suffix : List UInt8) : Option Tag :=
  if handle.isEmpty then some ⟨suffix⟩ else (handles.lookup handle).map fun bytes => ⟨bytes ++ suffix⟩

def readProperties (handles : Handles) : List Token → Option (Properties × List Token)
  | ⟨.anchor name, _, _⟩ :: ⟨.tag handle suffix, _, _⟩ :: r =>
    (expandTag handles handle suffix).map fun tag => (⟨some name, some tag⟩, r)
  | ⟨.tag handle suffix, _, _⟩ :: ⟨.anchor name, _, _⟩ :: r =>
    (expandTag handles handle suffix).map fun tag => (⟨some name, some tag⟩, r)
  | ⟨.anchor name, _, _⟩ :: r => some (⟨some name, none⟩, r)
  | ⟨.tag handle suffix, _, _⟩ :: r =>
    (expandTag handles handle suffix).map fun tag => (⟨none, some tag⟩, r)
  | r => some ({}, r)

def next (ts : List Token) : Symbol := (ts.head?.map (·.symbol)).getD .streamEnd

def placeOf (ts : List Token) : Place := (ts.head?.map (·.start)).getD {}

/-- An empty scalar in front of some tokens, if they do not break off. -/
def readNothing (ts : List Token) : Part NamedNode :=
  if next ts == .fault then .cut else .whole (empty (placeOf ts)) ts

mutual

/-- Reads a node. `inBlock` allows block collections, and `indentless` a block sequence that is not
deeper than the mapping around it. The fuel bounds the tokens. -/
def read (handles : Handles) : Nat → Bool → Bool → List Token → Part NamedNode
  | 0, _, _, _ => .cut
  | fuel + 1, inBlock, indentless, ts =>
    match ts, readProperties handles ts with
    | ⟨.alias name, place, _⟩ :: r, _ => .whole (.alias place name) r
    | _, none => .cut
    | _, some (properties, r) =>
      let place := placeOf ts
      let bare : Part NamedNode :=
        if properties = {} then .cut else .whole (.scalar place properties .plain []) r
      match next r with
      | .scalar style text =>
        let isTagged := properties.tag != some Tag.nonSpecific
        let properties := if isTagged then properties else { properties with tag := none }
        .whole (.scalar place properties style text) r.tail
      | .flowSequenceStart =>
        (readFlowItems handles fuel true r.tail).map (.sequence place properties)
      | .flowMappingStart =>
        (readFlowEntries handles fuel true r.tail).map (.mapping place properties)
      | .blockEntry =>
        if indentless then (readIndentlessItems handles fuel r).map (.sequence place properties)
        else bare
      | .blockSequenceStart =>
        if inBlock then (readBlockItems handles fuel r.tail).map (.sequence place properties)
        else bare
      | .blockMappingStart =>
        if inBlock then (readBlockEntries handles fuel r.tail).map (.mapping place properties)
        else bare
      | .fault => .cut
      | _ => bare

def readBlockItems (handles : Handles) : Nat → List Token → Part (List NamedNode)
  | 0, _ => .cutItems
  | fuel + 1, ts =>
    match ts with
    | ⟨.blockEntry, _, stop⟩ :: r =>
      let item : Part NamedNode := match next r with
        | .blockEntry | .blockEnd => .whole (empty stop) r
        | _ => read handles fuel true false r
      item.cons (readBlockItems handles fuel)
    | ⟨.blockEnd, _, _⟩ :: r => .whole [] r
    | _ => .cutItems

/-- The items of a block sequence that has no tokens for its start and end. -/
def readIndentlessItems (handles : Handles) : Nat → List Token → Part (List NamedNode)
  | 0, _ => .cutItems
  | fuel + 1, ts =>
    match ts with
    | ⟨.blockEntry, _, stop⟩ :: r =>
      let item : Part NamedNode := match next r with
        | .blockEntry | .key | .value | .blockEnd => .whole (empty stop) r
        | _ => read handles fuel true false r
      item.cons (readIndentlessItems handles fuel)
    | ⟨.fault, _, _⟩ :: _ => .cutItems
    | r => .whole [] r

def readBlockEntries (handles : Handles) : Nat → List Token → Part (List (NamedNode × NamedNode))
  | 0, _ => .cutEntries
  | fuel + 1, ts =>
    let part (stop : Place) (r : List Token) : Part NamedNode :=
      match next r with
      | .key | .value | .blockEnd => .whole (empty stop) r
      | _ => read handles fuel true true r
    let value : List Token → Part NamedNode := fun
      | ⟨.value, _, stop⟩ :: r => part stop r
      | r => readNothing r
    match ts with
    | ⟨.key, _, stop⟩ :: r => ((part stop r).pair value).cons (readBlockEntries handles fuel)
    | ⟨.blockEnd, _, _⟩ :: r => .whole [] r
    | _ => .cutEntries

/-- The items of a flow sequence, up to its end. A key among them begins a mapping of one entry. -/
def readFlowItems (handles : Handles) : Nat → Bool → List Token → Part (List NamedNode)
  | 0, _, _ => .cutItems
  | fuel + 1, first, ts =>
    if next ts == .flowSequenceEnd then .whole [] ts.tail
    else if !first && next ts != .flowEntry then .cutItems
    else
      match if first then ts else ts.tail with
      | ⟨.flowSequenceEnd, _, _⟩ :: r => .whole [] r
      | ⟨.key, place, _⟩ :: r =>
        ((readFlowPair handles fuel r).map (.mapping place {})).cons (readFlowItems handles fuel false)
      | r => (read handles fuel false false r).cons (readFlowItems handles fuel false)

/-- The one entry of a mapping inside a flow sequence. A missing key takes the next token with it. The
mapping ends in front of the next token, if there is one. -/
def readFlowPair (handles : Handles) : Nat → List Token → Part (List (NamedNode × NamedNode))
  | 0, _ => .cutEntries
  | fuel + 1, ts =>
    let key : Part NamedNode := match next ts with
      | .value | .flowEntry | .flowSequenceEnd =>
        .whole (empty ((ts.head?.map (·.stop)).getD {})) ts.tail
      | _ => read handles fuel false false ts
    let value : List Token → Part NamedNode := fun
      | ⟨.value, _, _⟩ :: r =>
        match next r with
        | .flowEntry | .flowSequenceEnd => .whole (empty (placeOf r)) r
        | _ => read handles fuel false false r
      | r => readNothing r
    (key.pair value).cons fun r => if next r == .fault then .cutEntries else .whole [] r

def readFlowEntries (handles : Handles) :
    Nat → Bool → List Token → Part (List (NamedNode × NamedNode))
  | 0, _, _ => .cutEntries
  | fuel + 1, first, ts =>
    let part (r : List Token) : Part NamedNode :=
      match next r with
      | .value | .flowEntry | .flowMappingEnd => .whole (empty (placeOf r)) r
      | _ => read handles fuel false false r
    let value : List Token → Part NamedNode := fun
      | ⟨.value, _, _⟩ :: r =>
        match next r with
        | .flowEntry | .flowMappingEnd => .whole (empty (placeOf r)) r
        | _ => read handles fuel false false r
      | r => readNothing r
    if next ts == .flowMappingEnd then .whole [] ts.tail
    else if !first && next ts != .flowEntry then .cutEntries
    else
      match if first then ts else ts.tail with
      | ⟨.flowMappingEnd, _, _⟩ :: r => .whole [] r
      | ⟨.key, _, _⟩ :: r => ((part r).pair value).cons (readFlowEntries handles fuel false)
      | r =>
        ((read handles fuel false false r).pair readNothing).cons (readFlowEntries handles fuel false)

end

def readRoot (handles : Handles) (ts : List Token) : Part NamedNode :=
  read handles (3 * ts.length + 3) true false ts

end Node

end SmokeSuite.Yaml
