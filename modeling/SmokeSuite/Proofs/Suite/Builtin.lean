import SmokeSuite.Failure
import SmokeSuite.Suite.Builtin

namespace SmokeSuite.Suite

/-- A text that is given by its characters is read from these. -/
theorem ofYaml_ofList {cs : List Char} {s : Suite}
    (htree : (decoder [] (Yaml.readChars cs).tree).toOption = some s)
    (hwhole : (Yaml.readChars cs).fault = none) (hvalid : s.validate.isOk = true) :
    ofYaml (String.ofList cs) = .ok s := by
  have hread : Yaml.read (String.ofList cs) = Yaml.readChars cs := by
    rw [Yaml.read, String.toList_ofList]
  refine ofYaml_of_valid (Yaml.load_of_whole ?_ (by rw [hread, hwhole])) ?_
  · rw [hread]
    cases ht : decoder [] (Yaml.readChars cs).tree with
    | error misfit => simp [ht, Except.toOption] at htree
    | ok t => simpa [ht, Except.toOption] using htree
  · cases hv : s.validate with
    | error cause => simp [hv, Except.isOk, Except.toBool] at hvalid
    | ok => rfl

set_option maxRecDepth 20000 in
/-- What the text of the built-in suite describes. -/
theorem ofYaml_builtinText : ofYaml builtinText = .ok builtin :=
  ofYaml_ofList (by decide +kernel) (by decide +kernel) (by decide +kernel)

end SmokeSuite.Suite
