namespace SmokeSuite

inductive LogLevel where
  | error
  | warn
  | info
  | debug
  | trace
  deriving DecidableEq, Inhabited

namespace LogLevel

def name : LogLevel → String
  | .error => "error"
  | .warn => "warn"
  | .info => "info"
  | .debug => "debug"
  | .trace => "trace"

/-- Each further request for more logs one more level; quiet leaves the errors only. -/
def ofFlags (verbose : Nat) (quiet : Bool) : LogLevel :=
  if quiet then .error
  else match verbose with
    | 0 => .warn
    | 1 => .info
    | 2 => .debug
    | _ => .trace

end LogLevel

end SmokeSuite
