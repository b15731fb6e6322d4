import ContractAssist.Shell.Program.Characters
import ContractAssist.Shell.Program.Directory
import ContractAssist.Shell.Program.Files
import ContractAssist.Shell.Program.Lines
import ContractAssist.Shell.Program.Streams
import ContractAssist.Shell.Program.Words

/-!
# Program — the programs that are installed

Each reads its input and writes its output through the channels of the shell that starts it.

* `Program.find?` finds a program by its name.
-/

namespace ContractAssist
namespace Shell
namespace Program

def table : List (Text × Program) :=
  ([("[", bracket), ("basename", basename), ("cat", cat), ("chmod", chmod), ("cp", cp),
    ("cut", cut), ("date", date), ("dirname", dirname), ("echo", echo), ("expr", expr),
    ("false", constant 1), ("head", head), ("id", id), ("ln", ln), ("ls", ls), ("mkdir", mkdir),
    ("mktemp", mktemp), ("mv", mv), ("nl", nl), ("printenv", printenv), ("printf", printf),
    ("pwd", pwd), ("readlink", readlink), ("realpath", realpath), ("rev", rev), ("rm", rm),
    ("rmdir", rmdir), ("seq", seq), ("sleep", sleep), ("sort", sort), ("stty", stty),
    ("tac", tac), ("tail", tail), ("tee", tee), ("test", test), ("touch", touch), ("tr", tr),
    ("true", constant 0), ("tty", saying "not a tty" 1), ("uname", saying "Linux" 0),
    ("uniq", uniq), ("wc", wc), ("whoami", saying "root" 0), ("yes", yes)]
    : List (String × Program)).map fun p => (p.1.toList, p.2)

def find? (name : Text) : Option Program :=
  (table.find? fun p => p.1 = name).map Prod.snd

end Program
end Shell
end ContractAssist
