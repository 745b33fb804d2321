import SmokeSuite.Decimal.Basic

namespace SmokeSuite

inductive Json where
  | null
  | bool (b : Bool)
  | number (d : Decimal)
  | string (s : String)
  | array (items : List Json)
  | object (members : List (String × Json))
  deriving Inhabited

namespace Json

def nat (n : Nat) : Json := .number ⟨false, n, 0⟩

def strings (ss : List String) : Json := .array (ss.map .string)

def optional (s : Option String) : Json := (s.map .string).getD .null

def member? (j : Json) (name : String) : Option Json :=
  match j with
  | .object ms => ms.lookup name
  | _ => none

end Json

end SmokeSuite
