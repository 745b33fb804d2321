namespace SmokeSuite.Terminal

inductive Colour where
  | red
  | green
  | yellow
  deriving DecidableEq, Inhabited

def Colour.code : Colour → Nat
  | .red => 31
  | .green => 32
  | .yellow => 33

structure Style where
  bold : Bool := false
  dimmed : Bool := false
  underlined : Bool := false
  colour : Option Colour := none
  deriving DecidableEq, Inhabited

def sequence (codes : List Nat) : String := "\x1b[" ++ ";".intercalate (codes.map toString) ++ "m"

def reset : String := sequence [0]

namespace Style

def codes (s : Style) : List Nat :=
  (if s.bold then [1] else []) ++ (if s.dimmed then [2] else []) ++
    (if s.underlined then [4] else []) ++ (s.colour.map (·.code)).toList

def apply (s : Style) (text : String) : String := sequence s.codes ++ text ++ reset

/-- A text in the style, with a sequence for each of its numbers. A style without any leaves the text
as it is. -/
def applyEach (s : Style) (text : String) : String :=
  if s.codes.isEmpty then text
  else String.join (s.codes.map fun n => sequence [n]) ++ text ++ reset

end Style

end SmokeSuite.Terminal
