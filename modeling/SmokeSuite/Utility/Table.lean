import SmokeSuite.Utility.Condition
import SmokeSuite.Utility.Entries
import SmokeSuite.Utility.Host
import SmokeSuite.Utility.Lines
import SmokeSuite.Utility.Printing
import SmokeSuite.Utility.Sorting
import SmokeSuite.Utility.Stream
import SmokeSuite.Utility.Translation
import SmokeSuite.Utility.Words

namespace SmokeSuite.Utility

/-- The programs, each with its name and with its status when it cannot do what it should. -/
def table : List (String × Nat × Utility) :=
  [("true", 1, Words.status 0), ("false", 1, Words.status 1), ("basename", 1, Words.basename),
    ("dirname", 1, Words.dirname), ("yes", 1, Words.yes), ("seq", 1, Words.seq),
    ("echo", 1, Printing.echo), ("printf", 1, Printing.printf), ("test", 2, Condition.test false),
    ("[", 2, Condition.test true), ("cat", 1, Stream.cat), ("head", 1, Stream.head),
    ("tail", 1, Stream.tail), ("tee", 1, Stream.tee), ("env", 125, Host.env),
    ("printenv", 1, Host.printenv), ("sleep", 1, Host.sleep), ("timeout", 125, Host.timeout),
    ("nohup", 125, Host.nohup), ("nice", 125, Host.nice), ("pwd", 1, Host.pwd), ("id", 1, Host.id),
    ("whoami", 1, Host.whoami), ("uname", 1, Host.uname), ("which", 2, Host.which), ("tty", 2, Host.tty),
    ("ls", 1, Entries.ls), ("touch", 1, Entries.touch), ("mkdir", 1, Entries.mkdir),
    ("rmdir", 1, Entries.rmdir), ("rm", 1, Entries.rm), ("unlink", 1, Entries.unlink),
    ("mv", 1, Entries.mv), ("cp", 1, Entries.cp), ("chmod", 1, Entries.chmod),
    ("mktemp", 1, Entries.mktemp), ("realpath", 1, Entries.realpath), ("readlink", 1, Entries.readlink),
    ("wc", 1, Lines.wc), ("tac", 1, Lines.tac), ("rev", 1, Lines.rev), ("nl", 1, Lines.nl),
    ("uniq", 1, Lines.uniq), ("cut", 1, Lines.cut), ("fold", 1, Lines.fold), ("paste", 1, Lines.paste),
    ("sort", 2, Sorting.sort), ("tr", 1, Translation.tr)]

def names : List String := table.map (·.1)

def start? (launch : Launcher) (name : Octets) (words : List Octets)
    (environment : List (Octets × Octets)) : Option Program :=
  (table.lookup (String.ofList name)).map fun (failure, run) =>
    Act.run (run { name := words.headD [], arguments := words.drop 1, environment, launch, failure })

end SmokeSuite.Utility
