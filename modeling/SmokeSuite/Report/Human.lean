import SmokeSuite.Report.Basic
import SmokeSuite.Terminal.Style

namespace SmokeSuite

open Terminal

def Verdict.colour : Verdict → Colour
  | .passed => .green
  | .failed _ => .red
  | .skipped _ | .xfailed _ => .yellow
  | .xpassed _ strict => if strict then .red else .yellow

namespace Report

def labelWidth : Nat := 7

/-- A text in a style, if colours are wanted. -/
def inStyle (colours : Bool) (style : Style) (text : String) : String :=
  if colours then style.apply text else text

def padded (width : Nat) (s : String) : String :=
  s ++ String.ofList (List.replicate (width - s.length) ' ')

def headerLine (r : Report) (colours : Bool) : String :=
  let e := r.environment
  inStyle colours { bold := true } "gvsmoke" ++ " os=" ++ e.osIdText ++ " build_system=" ++
    e.buildSystemText ++ " system=" ++ e.system.name ++ (if e.asan then " asan" else "")

def resultLine (colours : Bool) (c : CheckResult) : String :=
  inStyle colours { colour := some c.verdict.colour } (padded labelWidth c.verdict.label) ++
    " " ++ c.id ++ (match c.verdict.detail with
      | some detail => " - " ++ detail
      | none => "")

def tallyLine (r : Report) (colours : Bool) : String :=
  let colour := if r.tally.isSuccess then Colour.green else Colour.red
  inStyle colours { dimmed := true } "=====" ++ " " ++
    inStyle colours { bold := true, colour := some colour } r.tally.toText

def toHuman (r : Report) (colours : Bool) : String :=
  let lines := r.headerLine colours :: r.results.map (resultLine colours) ++ [r.tallyLine colours]
  String.join (lines.map (· ++ "\n"))

end Report

end SmokeSuite
