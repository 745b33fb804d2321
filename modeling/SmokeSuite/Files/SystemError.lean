namespace SmokeSuite

inductive SystemError where
  | notFound
  | badFormat
  | permissionDenied
  | notDirectory
  | isDirectory
  | tooManyLinks
  | nameTooLong
  | argumentTooLong
  | noProcess
  | interrupted
  | badChannel
  | fileExists
  | badArgument
  | noSpace
  | brokenPipe
  | notEmpty
  deriving DecidableEq, Inhabited

namespace SystemError

def number : SystemError → Nat
  | .notFound => 2
  | .noProcess => 3
  | .interrupted => 4
  | .argumentTooLong => 7
  | .badFormat => 8
  | .badChannel => 9
  | .permissionDenied => 13
  | .fileExists => 17
  | .notDirectory => 20
  | .isDirectory => 21
  | .badArgument => 22
  | .noSpace => 28
  | .brokenPipe => 32
  | .nameTooLong => 36
  | .notEmpty => 39
  | .tooManyLinks => 40

def reason : SystemError → String
  | .notFound => "No such file or directory"
  | .noProcess => "No such process"
  | .interrupted => "Interrupted system call"
  | .argumentTooLong => "Argument list too long"
  | .badFormat => "Exec format error"
  | .badChannel => "Bad file descriptor"
  | .permissionDenied => "Permission denied"
  | .fileExists => "File exists"
  | .notDirectory => "Not a directory"
  | .isDirectory => "Is a directory"
  | .badArgument => "Invalid argument"
  | .noSpace => "No space left on device"
  | .brokenPipe => "Broken pipe"
  | .nameTooLong => "File name too long"
  | .notEmpty => "Directory not empty"
  | .tooManyLinks => "Too many levels of symbolic links"

def text (e : SystemError) : String := e.reason ++ " (os error " ++ toString e.number ++ ")"

end SystemError

/-- Why a file's text cannot be read. -/
inductive TextError where
  | system (cause : SystemError)
  | zeroInPath
  | notText
  deriving DecidableEq, Inhabited

def TextError.text : TextError → String
  | .system cause => cause.text
  | .zeroInPath => "file name contained an unexpected NUL byte"
  | .notText => "stream did not contain valid UTF-8"

end SmokeSuite
