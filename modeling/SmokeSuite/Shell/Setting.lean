import SmokeSuite.Text.Octets

namespace SmokeSuite.Shell

inductive Setting where
  | errexit
  | noglob
  | ignoreeof
  | interactive
  | monitor
  | noexec
  | stdin
  | xtrace
  | verbose
  | vi
  | emacs
  | noclobber
  | allexport
  | notify
  /-- Does not take a variable that is not set for an empty one. -/
  | nounset
  | privileged
  | nolog
  | debug
  deriving DecidableEq, Inhabited

namespace Setting

def all : List Setting :=
  [.errexit, .noglob, .ignoreeof, .interactive, .monitor, .noexec, .stdin, .xtrace, .verbose, .vi,
    .emacs, .noclobber, .allexport, .notify, .nounset, .privileged, .nolog, .debug]

def name : Setting → String
  | .errexit => "errexit"
  | .noglob => "noglob"
  | .ignoreeof => "ignoreeof"
  | .interactive => "interactive"
  | .monitor => "monitor"
  | .noexec => "noexec"
  | .stdin => "stdin"
  | .xtrace => "xtrace"
  | .verbose => "verbose"
  | .vi => "vi"
  | .emacs => "emacs"
  | .noclobber => "noclobber"
  | .allexport => "allexport"
  | .notify => "notify"
  | .nounset => "nounset"
  | .privileged => "privileged"
  | .nolog => "nolog"
  | .debug => "debug"

def letter? : Setting → Option Char
  | .errexit => some 'e'
  | .noglob => some 'f'
  | .ignoreeof => some 'I'
  | .interactive => some 'i'
  | .monitor => some 'm'
  | .noexec => some 'n'
  | .stdin => some 's'
  | .xtrace => some 'x'
  | .verbose => some 'v'
  | .vi => some 'V'
  | .emacs => some 'E'
  | .noclobber => some 'C'
  | .allexport => some 'a'
  | .notify => some 'b'
  | .nounset => some 'u'
  | .privileged => some 'p'
  | .nolog | .debug => none

def ofName? (s : Octets) : Option Setting := all.find? fun o => o.name.toList == s

def ofLetter? (c : Char) : Option Setting := all.find? fun o => o.letter? == some c

end Setting

abbrev Settings := List Setting

namespace Settings

def isOn (os : Settings) (o : Setting) : Bool := os.contains o

def set (os : Settings) (o : Setting) (on : Bool) : Settings :=
  let others := os.filter (· != o)
  if on then o :: others else others

/-- Turns a setting on or off by its letter. Of two ways to edit, one goes when the other comes. -/
def setByLetter (os : Settings) (o : Setting) (on : Bool) : Settings :=
  let os := os.set o on
  if !on then os
  else match o with
    | .vi => os.set .emacs false
    | .emacs => os.set .vi false
    | _ => os

def letters (os : Settings) : Octets :=
  Setting.all.reverse.filterMap fun o => if os.isOn o then o.letter? else none

end Settings

end SmokeSuite.Shell
