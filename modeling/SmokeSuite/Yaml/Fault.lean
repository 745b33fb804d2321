import SmokeSuite.Yaml.Cursor

namespace SmokeSuite.Yaml

inductive Fault where
  /-- A place that no rule of the language allows. -/
  | malformed
  /-- An alias whose name no anchor before it has. -/
  | unknownAnchor (place : Place)
  | severalDocuments
  | tooDeep (place : Place)
  | tooManyAliases
  deriving DecidableEq, Inhabited

namespace Fault

def text : Fault → String
  | .malformed => "the text is not a YAML document"
  | .unknownAnchor _ => "unknown anchor"
  | .severalDocuments => "deserializing from YAML containing more than one document is not supported"
  | .tooDeep _ => "recursion limit exceeded"
  | .tooManyAliases => "repetition limit exceeded"

def place? : Fault → Option Place
  | .unknownAnchor place | .tooDeep place => some place
  | _ => none

end Fault

def Place.text (place : Place) : String :=
  if place.line = 0 && place.column = 0 then ""
  else " at line " ++ toString (place.line + 1) ++ " column " ++ toString (place.column + 1)

end SmokeSuite.Yaml
