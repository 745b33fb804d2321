import SmokeSuite.Duration.Basic
import SmokeSuite.Files.SystemError
import SmokeSuite.Text.Blank
import SmokeSuite.Text.Utf8

namespace SmokeSuite

inductive ExitStatus where
  | exited (code : Nat)
  | signalled
  deriving DecidableEq, Inhabited

namespace ExitStatus

def code? : ExitStatus → Option Nat
  | .exited code => some code
  | .signalled => none

def isSuccess (s : ExitStatus) : Bool := s == .exited 0

end ExitStatus

/-- How a program ended, and the bytes that it wrote. -/
structure CommandOutput where
  status : ExitStatus
  stdout : List UInt8
  stderr : List UInt8
  deriving DecidableEq, Inhabited

namespace CommandOutput

def merged (o : CommandOutput) : List Char :=
  Text.Utf8.decodeLossy o.stdout ++ Text.Utf8.decodeLossy o.stderr

/-- Standard error without the white space at its ends. -/
def errorText (o : CommandOutput) : List Char := Text.trim (Text.Utf8.decodeLossy o.stderr)

end CommandOutput

/-- Why a program cannot be started. -/
inductive StartError where
  | system (cause : SystemError)
  | zeroInArgument
  deriving DecidableEq, Inhabited

def StartError.text : StartError → String
  | .system cause => cause.text
  | .zeroInArgument => "nul byte found in provided data"

inductive InvocationError where
  | notStarted (program : String) (cause : StartError)
  | timedOut (program : String) (limit : Duration)
  deriving DecidableEq, Inhabited

def InvocationError.text : InvocationError → String
  | .notStarted program cause => "Failed to spawn " ++ program ++ ": " ++ cause.text
  | .timedOut program limit => program ++ " did not finish within " ++ limit.toText

def InvocationError.heading : String := "Process error: "

def InvocationError.message (e : InvocationError) : String := heading ++ e.text

/-- A finished attempt to run a program, and the milliseconds that it took. -/
structure Invocation where
  result : Except InvocationError CommandOutput
  millis : Nat := 0

namespace Invocation

def formatArgument (format : String) : String := "-T" ++ format

def versionArgument : String := "-V"

end Invocation

end SmokeSuite
