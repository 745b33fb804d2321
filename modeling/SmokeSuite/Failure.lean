import SmokeSuite.Files.SystemError
import SmokeSuite.Glob.Set
import SmokeSuite.Invocation
import SmokeSuite.Suite.Validation
import SmokeSuite.Suite.Reader

namespace SmokeSuite

namespace Failure

/-- The kinds of failure, by the part of the program that meets them. -/
inductive Kind where
  | system
  | suiteFile
  | validation
  | json
  | yaml
  | filter
  | selection
  | invocation
  deriving DecidableEq, Inhabited

/-- What a message of the kind begins with. A kind without a heading passes on another message as it
is. -/
def Kind.heading : Kind → String
  | .system | .json | .yaml => ""
  | .suiteFile => "Config error: "
  | .validation => "Validation error: "
  | .filter => "Invalid filter: "
  | .selection => "No checks match filter(s): "
  | .invocation => InvocationError.heading

def Kind.message (k : Kind) (cause : String) : String := k.heading ++ cause

/-- The message that a failure passes on, if it does. -/
def Kind.source (k : Kind) (cause : String) : Option String :=
  if k.heading == "" then some cause else none

/-- The names of filters that no check matches. -/
def filtersText (patterns : List String) : String := ", ".intercalate patterns

end Failure

inductive Failure where
  | unreadableSuite (path : String) (cause : TextError)
  | unreadableVariables (path : String) (cause : TextError)
  | malformedSuite (cause : Yaml.LoadError)
  | invalidSuite (cause : Suite.Invalid)
  | badFilters (cause : Glob.SetError)
  | nothingSelected (patterns : List String)

namespace Failure

def kind : Failure → Kind
  | .unreadableSuite .. | .unreadableVariables .. => .suiteFile
  | .malformedSuite _ => .yaml
  | .invalidSuite _ => .validation
  | .badFilters _ => .filter
  | .nothingSelected _ => .selection

def cause : Failure → String
  | .unreadableSuite path cause => "cannot read " ++ path ++ ": " ++ cause.text
  | .unreadableVariables path cause => "cannot read env file " ++ path ++ ": " ++ cause.text
  | .malformedSuite cause => cause.text
  | .invalidSuite cause => cause.text
  | .badFilters cause => cause.message
  | .nothingSelected patterns => filtersText patterns

def message (f : Failure) : String := f.kind.message f.cause

def placeText : Failure → String
  | .malformedSuite cause => cause.placeText
  | _ => ""

/-- The message with all that is known, which names a passed on message again as its own cause. -/
def fullText (f : Failure) : String :=
  let text := f.message ++ f.placeText
  match f.kind.source text with
  | some source => text ++ ": " ++ source
  | none => text

end Failure

namespace Suite

/-- Reads a suite from its YAML text. -/
def ofYaml (content : String) : Except Failure Suite := do
  let s ← (Yaml.load Suite.decoder content).mapError .malformedSuite
  s.validate.mapError .invalidSuite
  .ok s

variable {content : String} {s : Suite} {f : Failure}

theorem ofYaml_of_malformed {cause : Yaml.LoadError} (h : Yaml.load decoder content = .error cause) :
    ofYaml content = .error (.malformedSuite cause) := by
  unfold ofYaml
  rw [h]
  rfl

theorem ofYaml_of_invalid {cause : Invalid} (h : Yaml.load decoder content = .ok s)
    (hs : s.validate = .error cause) : ofYaml content = .error (.invalidSuite cause) := by
  unfold ofYaml
  rw [h]
  change (s.validate.mapError Failure.invalidSuite >>= fun _ => Except.ok s) = _
  rw [hs]
  rfl

theorem ofYaml_of_valid (h : Yaml.load decoder content = .ok s) (hs : s.validate = .ok ()) :
    ofYaml content = .ok s := by
  unfold ofYaml
  rw [h]
  change (s.validate.mapError Failure.invalidSuite >>= fun _ => Except.ok s) = _
  rw [hs]
  rfl

theorem ofYaml_eq_ok_iff :
    ofYaml content = .ok s ↔ Yaml.load decoder content = .ok s ∧ s.validate = .ok () := by
  refine ⟨fun h => ?_, fun ⟨hload, hvalid⟩ => ofYaml_of_valid hload hvalid⟩
  cases hload : Yaml.load decoder content with
  | error cause =>
    rw [ofYaml_of_malformed hload] at h
    cases h
  | ok t =>
    cases hvalid : t.validate with
    | error cause =>
      rw [ofYaml_of_invalid hload hvalid] at h
      cases h
    | ok =>
      rw [ofYaml_of_valid hload hvalid] at h
      cases h
      exact ⟨rfl, hvalid⟩

theorem ofYaml_eq_ok_of_toOption (h : (ofYaml content).toOption = some s) : ofYaml content = .ok s := by
  cases hs : ofYaml content with
  | error f => rw [hs] at h; cases h
  | ok t => rw [hs] at h; rw [Option.some.inj h]

theorem ofYaml_eq_error_iff :
    ofYaml content = .error f ↔
      (∃ cause, Yaml.load decoder content = .error cause ∧ f = .malformedSuite cause) ∨
        ∃ s cause, Yaml.load decoder content = .ok s ∧ s.validate = .error cause ∧
          f = .invalidSuite cause := by
  constructor
  · intro h
    cases hload : Yaml.load decoder content with
    | error cause =>
      rw [ofYaml_of_malformed hload] at h
      exact .inl ⟨cause, rfl, (Except.error.inj h).symm⟩
    | ok s =>
      cases hvalid : s.validate with
      | error cause =>
        rw [ofYaml_of_invalid hload hvalid] at h
        exact .inr ⟨s, cause, rfl, hvalid, (Except.error.inj h).symm⟩
      | ok =>
        rw [ofYaml_of_valid hload hvalid] at h
        cases h
  · rintro (⟨cause, hload, rfl⟩ | ⟨s, cause, hload, hvalid, rfl⟩)
    · exact ofYaml_of_malformed hload
    · exact ofYaml_of_invalid hload hvalid

end Suite

end SmokeSuite
