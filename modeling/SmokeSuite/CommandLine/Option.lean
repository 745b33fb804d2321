import SmokeSuite.CommandLine.Message

namespace SmokeSuite.CommandLine

inductive Opt where
  | config
  | envFile
  | filter
  | dot
  | path
  | expectVersion
  | timeout
  | json
  | list
  | printSchema
  | verbose
  | quiet
  | help
  | version
  deriving DecidableEq, Inhabited

namespace Opt

def all : List Opt :=
  [.config, .envFile, .filter, .dot, .path, .expectVersion, .timeout, .json, .list, .printSchema,
    .verbose, .quiet, .help, .version]

def long : Opt → String
  | .config => "config"
  | .envFile => "env-file"
  | .filter => "filter"
  | .dot => "dot"
  | .path => "path"
  | .expectVersion => "expect-version"
  | .timeout => "timeout"
  | .json => "json"
  | .list => "list"
  | .printSchema => "print-schema"
  | .verbose => "verbose"
  | .quiet => "quiet"
  | .help => "help"
  | .version => "version"

def short? : Opt → Option Char
  | .config => some 'c'
  | .filter => some 'f'
  | .list => some 'l'
  | .verbose => some 'v'
  | .quiet => some 'q'
  | .help => some 'h'
  | .version => some 'V'
  | _ => none

def valueName? : Opt → Option String
  | .config => some "CONFIG"
  | .envFile => some "ENV_FILES"
  | .filter => some "FILTERS"
  | .dot => some "DOT"
  | .path => some "PATH"
  | .expectVersion => some "EXPECT_VERSION"
  | .timeout => some "TIMEOUT"
  | _ => none

def takesValue (o : Opt) : Bool := o.valueName?.isSome

def isRepeatable (o : Opt) : Bool := o == .envFile || o == .filter || o == .verbose

def namesFile (o : Opt) : Bool := o == .config || o == .envFile

def about : Opt → String
  | .config => "Suite definition (YAML); defaults to the built-in suite"
  | .envFile => "Dotenv file(s) providing OS_ID, build_system, GV_VERSION, ..."
  | .filter => "Only run checks whose id matches this glob (repeatable)"
  | .dot => "Layout binary used for format and version checks"
  | .path => "Search path used instead of $PATH"
  | .expectVersion => "Expected version, overriding $GV_VERSION"
  | .timeout => "Per-invocation timeout, e.g. \"30s\" or \"2m\" [default: 30s]"
  | .json => "Print the report as JSON"
  | .list => "List checks and their expectations without running them"
  | .printSchema => "Print the JSON schema of the suite definition and exit"
  | .verbose => "Increase log verbosity (can be used multiple times)"
  | .quiet => "Only log errors"
  | .help => "Print help"
  | .version => "Print version"

/-- What messages put behind the name: the value, or dots if the option counts. -/
def usageSuffix (o : Opt) : String :=
  match o.valueName? with
  | some value => " <" ++ value ++ ">"
  | none => if o == .verbose then "..." else ""

def usage (o : Opt) : String := "--" ++ o.long ++ o.usageSuffix

def ofLong? (name : String) : Option Opt := all.find? (·.long == name)

def ofShort? (c : Char) : Option Opt := all.find? (·.short? == some c)

def helpEntry (o : Opt) : Message :=
  (match o.short? with
    | some c => [⟨"  ", {}⟩, .literal ("-" ++ c.toString), ⟨", ", {}⟩]
    | none => [⟨"      ", {}⟩]) ++
    [.literal ("--" ++ o.long), ⟨o.usageSuffix ++ "\n          " ++ o.about ++ "\n", {}⟩]

end Opt

def programName : String := "gvsmoke"

def versionText : String := programName ++ " 0.1.0"

def aboutText : String := "Smoke-test a Graphviz installation in CI"

def help : Message :=
  [⟨aboutText ++ "\n\n", {}⟩, .heading "Usage:", ⟨" ", {}⟩, .literal programName,
    ⟨" [OPTIONS]\n\n", {}⟩, .heading "Options:", ⟨"\n", {}⟩] ++ Opt.all.flatMap Opt.helpEntry

def helpHint : Message :=
  [⟨"\n\nFor more information, try '", {}⟩, .literal ("--" ++ Opt.long .help), ⟨"'.\n", {}⟩]

end SmokeSuite.CommandLine
