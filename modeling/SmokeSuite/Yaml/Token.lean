import SmokeSuite.Yaml.Cursor

namespace SmokeSuite.Yaml

inductive Style where
  | plain
  | singleQuoted
  | doubleQuoted
  | literal
  | folded
  deriving DecidableEq, Inhabited

inductive Symbol where
  | versionDirective (major minor : Nat)
  | tagDirective (handle : List Char) (expansion : List UInt8)
  | documentStart
  | documentEnd
  | blockSequenceStart
  | blockMappingStart
  | blockEnd
  | flowSequenceStart
  | flowSequenceEnd
  | flowMappingStart
  | flowMappingEnd
  | flowEntry
  | blockEntry
  | key
  | value
  | alias (name : List Char)
  | anchor (name : List Char)
  | tag (handle : List Char) (suffix : List UInt8)
  | scalar (style : Style) (text : List Char)
  | streamEnd
  /-- A place from which on no token can be read. -/
  | fault
  deriving DecidableEq, Inhabited

/-- A symbol with the places where it begins and ends. -/
structure Token where
  symbol : Symbol
  start : Place
  stop : Place
  deriving Inhabited

end SmokeSuite.Yaml
