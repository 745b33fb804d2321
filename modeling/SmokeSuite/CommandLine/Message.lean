import SmokeSuite.Terminal.Plain
import SmokeSuite.Terminal.Style

namespace SmokeSuite.CommandLine

structure Span where
  text : String
  style : Terminal.Style := {}
  deriving DecidableEq, Inhabited

namespace Span

def literal (text : String) : Span := { text, style := { bold := true } }

def heading (text : String) : Span := { text, style := { bold := true, underlined := true } }

def wrong (text : String) : Span := { text, style := { colour := some .yellow } }

def fault (text : String) : Span := { text, style := { bold := true, colour := some .red } }

end Span

abbrev Message := List Span

namespace Message

def styled (m : Message) : String := String.join (m.map fun s => s.style.applyEach s.text)

def plain (m : Message) : String := Terminal.plain m.styled

def text (m : Message) (styles : Bool) : String := if styles then m.styled else m.plain

end Message

end SmokeSuite.CommandLine
