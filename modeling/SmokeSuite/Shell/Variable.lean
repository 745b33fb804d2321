import SmokeSuite.Shell.Command

namespace SmokeSuite.Shell

structure Variable where
  name : Octets
  /-- Nothing for a variable that has attributes but is not set. -/
  value : Option Octets
  isExported : Bool := false
  isConstant : Bool := false
  isFixed : Bool := false
  deriving DecidableEq, Inhabited

abbrev Variables := List Variable

namespace Variables

def find? (vs : Variables) (name : Octets) : Option Variable := List.find? (·.name == name) vs

def value? (vs : Variables) (name : Octets) : Option Octets := (vs.find? name).bind (·.value)

def isConstant (vs : Variables) (name : Octets) : Bool := (vs.find? name).any (·.isConstant)

def put : Variables → Variable → Variables
  | [], v => [v]
  | w :: ws, v => if w.name == v.name then v :: ws else w :: put ws v

def set (vs : Variables) (name value : Octets) : Variables :=
  vs.put { (vs.find? name).getD { name, value := none } with value := some value }

def remove (vs : Variables) (name : Octets) : Variables := vs.filter (·.name != name)

/-- Takes the value from a variable, and the attributes unless it has a place of its own. -/
def unset (vs : Variables) (name : Octets) : Variables :=
  match vs.find? name with
  | some v => if v.isFixed then vs.put { v with value := none } else vs.remove name
  | none => vs

def orders : Nat := 39

def order (name : Octets) : Nat :=
  name.foldl (fun n c => n + c.toNat) ((name.head?.map fun c => 16 * c.toNat).getD 0) % orders

def ordered (vs : Variables) : Variables := List.mergeSort vs fun v w => order v.name ≤ order w.name

def environment (vs : Variables) : List (Octets × Octets) :=
  vs.ordered.filterMap fun v => if v.isExported then v.value.map fun value => (v.name, value) else none

def sorted (vs : Variables) : Variables := List.mergeSort vs fun v w => !(w.name < v.name)

end Variables

/-- A text in quotes, so that a shell reads it as one word. Single quotes stand in double ones. -/
def singleQuoted (s : Octets) : Octets := go (s.length + 1) s
where
  go : Nat → Octets → Octets
    | 0, _ => []
    | fuel + 1, s =>
      let plain := s.takeWhile (· != '\'')
      let rest := s.drop plain.length
      let quotes := rest.takeWhile (· == '\'')
      let rest := rest.drop quotes.length
      '\'' :: plain ++ ['\''] ++
        (if quotes.isEmpty then [] else '"' :: quotes ++ ['"']) ++
        (if rest.isEmpty then [] else go fuel rest)

/-- The name and the value of a variable as a shell reads them; a variable that is not set has no
value. -/
def Variable.text (v : Variable) : Octets :=
  v.name ++ (match v.value with
    | some value => '=' :: singleQuoted value
    | none => [])

end SmokeSuite.Shell
