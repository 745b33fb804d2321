import SmokeSuite.Shell.Command

namespace SmokeSuite.Shell

inductive Keyword where
  | not
  | case
  | do
  | done
  | elif
  | else
  | esac
  | fi
  | for
  | if
  | in
  | then
  | until
  | while
  | open
  | close
  deriving DecidableEq, Inhabited

namespace Keyword

def text : Keyword → String
  | .not => "!"
  | .case => "case"
  | .do => "do"
  | .done => "done"
  | .elif => "elif"
  | .else => "else"
  | .esac => "esac"
  | .fi => "fi"
  | .for => "for"
  | .if => "if"
  | .in => "in"
  | .then => "then"
  | .until => "until"
  | .while => "while"
  | .open => "\x7b"
  | .close => "\x7d"

def all : List Keyword :=
  [.not, .case, .do, .done, .elif, .else, .esac, .fi, .for, .if, .in, .then, .until, .while, .open,
    .close]

def ofText? (s : Octets) : Option Keyword := all.find? fun k => k.text.toList == s

end Keyword

/-- What a redirection's sign says; what it leads to is the next word. -/
inductive RedirectSign where
  | file (channel : Nat) (access : Access)
  | duplicate (channel : Nat)
  | document (channel : Nat) (stripsTabs : Bool)
  deriving DecidableEq, Inhabited

inductive Token where
  | end
  | newline
  | semicolon
  | background
  | and
  | or
  | pipe
  | open
  | close
  | endBranch
  | redirect (sign : RedirectSign)
  | keyword (k : Keyword)
  | word (w : Word) (isQuoted : Bool)
  deriving Inhabited

namespace Token

def text : Token → String
  | .end => "end of file"
  | .newline => "newline"
  | .semicolon => "\";\""
  | .background => "\"&\""
  | .and => "\"&&\""
  | .or => "\"||\""
  | .pipe => "\"|\""
  | .open => "\"(\""
  | .close => "\")\""
  | .endBranch => "\";;\""
  | .redirect _ => "redirection"
  | .keyword k => "\"" ++ k.text ++ "\""
  | .word .. => "word"

def endsList : Token → Bool
  | .end | .close | .endBranch => true
  | .keyword k => [Keyword.do, .done, .elif, .else, .esac, .fi, .then, .close].contains k
  | _ => false

end Token

inductive Fault where
  | unexpected (found : Token) (wanted : Option Token)
  | unterminatedQuote
  | missingBrace
  | missingParens
  | endInBackquotes
  | badLoopVariable
  | badFunctionName
  | badChannel
  deriving Inhabited

def Fault.text : Fault → String
  | .unexpected found none => found.text ++ " unexpected"
  | .unexpected found (some wanted) =>
    found.text ++ " unexpected (expecting " ++ wanted.text ++ ")"
  | .unterminatedQuote => "Unterminated quoted string"
  | .missingBrace => "Missing '\x7d'"
  | .missingParens => "Missing '))'"
  | .endInBackquotes => "EOF in backquote substitution"
  | .badLoopVariable => "Bad for loop variable"
  | .badFunctionName => "Bad function name"
  | .badChannel => "Bad fd number"

def Fault.message (f : Fault) : String := "Syntax error: " ++ f.text

end SmokeSuite.Shell
