import SmokeSuite.Text.Blank
import SmokeSuite.Text.Line

namespace SmokeSuite.Dotenv

abbrev Definition := String × String

def unquote (v : List Char) : List Char :=
  match v with
  | [] => []
  | q :: r =>
    if (q == '"' || q == '\'') && !r.isEmpty && r.getLast? == some q then r.dropLast else v

def parseLine (line : List Char) : Option (List Char × List Char) :=
  let line := Text.trim line
  if line.head? == some '#' then none
  else (Text.cutAt '=' line).map fun (key, value) => (Text.trim key, unquote (Text.trim value))

/-- The definitions of a text, in order and with repetitions. -/
def parse (content : String) : List Definition :=
  ((Text.lines content.toList).filterMap parseLine).map fun (key, value) =>
    (String.ofList key, String.ofList value)

end SmokeSuite.Dotenv
