import SmokeSuite.Text.Octets

namespace SmokeSuite.Signal

inductive Effect where
  | ends
  | stops
  | resumes
  | passes
  deriving DecidableEq, Inhabited

def table : List (String × String) :=
  [("HUP", "Hangup"), ("INT", "Interrupt"), ("QUIT", "Quit"), ("ILL", "Illegal instruction"),
    ("TRAP", "Trace/breakpoint trap"), ("ABRT", "Aborted"), ("BUS", "Bus error"),
    ("FPE", "Floating point exception"), ("KILL", "Killed"), ("USR1", "User defined signal 1"),
    ("SEGV", "Segmentation fault"), ("USR2", "User defined signal 2"), ("PIPE", "Broken pipe"),
    ("ALRM", "Alarm clock"), ("TERM", "Terminated"), ("16", "Stack fault"),
    ("CHLD", "Child exited"), ("CONT", "Continued"), ("STOP", "Stopped (signal)"),
    ("TSTP", "Stopped"), ("TTIN", "Stopped (tty input)"), ("TTOU", "Stopped (tty output)"),
    ("URG", "Urgent I/O condition"), ("XCPU", "CPU time limit exceeded"),
    ("XFSZ", "File size limit exceeded"), ("VTALRM", "Virtual timer expired"),
    ("PROF", "Profiling timer expired"), ("WINCH", "Window changed"), ("IO", "I/O possible"),
    ("PWR", "Power failure"), ("SYS", "Bad system call")]

def interrupt : Nat := 2

def quit : Nat := 3

def floatingPoint : Nat := 8

def kill : Nat := 9

def pipe : Nat := 13

def terminate : Nat := 15

def child : Nat := 17

def resume : Nat := 18

def stop : Nat := 19

/-- The last of the signals without a meaning of their own, which are named by their distance from the
first and the last of them. -/
def last : Nat := 64

def firstReal : Nat := 34

def name (n : Nat) : String :=
  if n = 0 then "EXIT"
  else match table[n - 1]? with
    | some (name, _) => name
    | none =>
      if n < firstReal then toString n
      else if n = firstReal then "RTMIN"
      else if n = last then "RTMAX"
      else if 2 * (n - firstReal) ≤ last - firstReal then "RTMIN+" ++ toString (n - firstReal)
      else "RTMAX-" ++ toString (last - n)

def text (n : Nat) : String :=
  match table[n - 1]? with
  | some (_, text) => text
  | none => if n < firstReal then "Unknown signal " ++ toString n
    else "Real-time signal " ++ toString (n - firstReal)

def ofName? (word : Octets) : Option Nat :=
  let word := String.ofList (word.map Char.toUpper)
  (List.range (last + 1)).find? fun n => name n == word

def effect (n : Nat) : Effect :=
  if n = child || n = 23 || n = 28 then .passes
  else if n = resume then .resumes
  else if 19 ≤ n && n ≤ 22 then .stops
  else .ends

def isArrangeable (n : Nat) : Bool := n != kill && n != stop

def statusBase : Nat := 128

end SmokeSuite.Signal
