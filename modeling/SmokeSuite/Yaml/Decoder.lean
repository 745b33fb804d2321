import SmokeSuite.Yaml.Problem

namespace SmokeSuite.Yaml

/-- Reads a tree that is found at a path. -/
abbrev Decoder (α : Type) := Path → Tree → Except Halt α

namespace Decoder

variable {α σ : Type}

def locate (path : Path) (place : Place) (r : Except Halt α) : Except Halt α :=
  r.mapError fun
    | .misfit p => .misfit { p with site := p.site.or (some (path, place)) }
    | .cut => .cut

def fail (path : Path) (place : Place) (m : Mismatch) : Except Halt α :=
  .error (.misfit ⟨m, some (path, place)⟩)

def failInside (m : Mismatch) : Except Halt α := .error (.misfit ⟨m, none⟩)

def text (expected : String) : Decoder String
  | _, .scalar _ _ _ s => .ok s
  | path, t => .error (t.refuse path expected)

def string : Decoder String := text "a string"

/-- Whether a scalar may be read as a core type: it is plain, or a literal with the type's tag. -/
def isOpen (coreTag : Tag) (tag : Option Tag) (style : Style) : Bool :=
  style == .plain || (style == .literal && tag == some coreTag)

def bool : Decoder Bool
  | path, t@(.scalar _ tag style s) =>
    match isOpen Tag.bool tag style, boolOf? s with
    | true, some b => .ok b
    | _, _ => .error (t.refuse path "a boolean")
  | path, t => .error (t.refuse path "a boolean")

def word32 : Decoder UInt32
  | path, t@(.scalar place tag style s) =>
    match isOpen Tag.int tag style, (unsignedOf? s.toList).filter (· < UInt64.size) with
    | true, some n =>
      if n < UInt32.size then .ok (UInt32.ofNat n)
      else fail path place (.wrongValue (.int n .word) "u32")
    | _, _ => .error (t.refuse path "u32")
  | path, t => .error (t.refuse path "u32")

/-- Nothing, where a plain null stands. -/
def optional (d : Decoder α) : Decoder (Option α)
  | path, t@(.scalar _ tag .plain s) =>
    match tag with
    | none => if s == "" || isNull s then .ok none else (d path t).map some
    | some tag =>
      if tag == Tag.null then
        if isNull s then .ok none else failInside (.wrongValue (.string s) "null")
      else (d path t).map some
  | path, t => (d path t).map some

def items (d : Decoder α) (path : Path) : Nat → List Tree → Except Halt (List α)
  | _, [] => .ok []
  | n, t :: ts => do
    let x ← d (.index n :: path) t
    let xs ← items d path (n + 1) ts
    .ok (x :: xs)

/-- A list; nothing is the empty list. -/
def list (d : Decoder α) : Decoder (List α)
  | path, .sequence place _ ts => locate path place (items d path 0 ts)
  | path, t => if t.isMissing then .ok [] else .error (t.refuse path "a sequence")

def variant (named : String → Option α) (known : List String) : Decoder α
  | path, t =>
    match t.localName?, t with
    | some name, t =>
      match named name with
      | none => failInside (.unknownVariant name known)
      | some x =>
        match t with
        | .scalar place _ style s =>
          if style == .plain && (s == "" || isNull s) then .ok x
          else fail path place (.wrongValue (.string s) "null")
        | t => .error (t.refuse path "unit")
    | none, .scalar place _ _ s =>
      match named s with
      | some x => .ok x
      | none => fail path place (.unknownVariant s known)
    | none, t => .error (t.refuse path "a YAML tag starting with '!'")

/-- A field of a record that is being read: its name, whether it has been read, and how it is. -/
structure Field (σ : Type) where
  name : String
  isRead : σ → Bool
  read : σ → Path → Tree → Except Halt σ

def field (name : String) (get : σ → Option α) (set : σ → α → σ) (d : Decoder α) : Field σ where
  name
  isRead draft := (get draft).isSome
  read draft path t := (d path t).map (set draft)

def fieldOf (fields : List (Field σ)) (path : Path) : Tree → Except Halt (Field σ)
  | .scalar place _ _ name =>
    match fields.find? (·.name == name) with
    | some f => .ok f
    | none => fail path place (.unknownField name (fields.map (·.name)))
  | t => .error (t.refuse path "field identifier")

def entries (fields : List (Field σ)) (path : Path) (draft : σ) :
    List (Option String × Tree × Tree) → Except Halt σ
  | [] => .ok draft
  | (label, key, value) :: es => do
    let f ← fieldOf fields path key
    if f.isRead draft then failInside (.duplicateField f.name)
    else
      let step := (label.map Step.field).getD .unnamed
      let draft ← f.read draft (step :: path) value
      entries fields path draft es

def required (name : String) (x : Option α) : Except Halt α :=
  match x with
  | some x => .ok x
  | none => failInside (.missingField name)

/-- A record whose entries are read into a draft, which is then finished. Nothing is the record
without entries. -/
def record (name : String) (fields : List (Field σ)) (draft : σ) (finish : σ → Except Halt α) :
    Decoder α
  | path, .mapping place _ es => locate path place (entries fields path draft es >>= finish)
  | path, t@(.scalar place ..) =>
    if t.isMissing then locate path place (finish draft)
    else .error (t.refuse path ("struct " ++ name))
  | path, t => .error (t.refuse path ("struct " ++ name))

end Decoder

end SmokeSuite.Yaml
