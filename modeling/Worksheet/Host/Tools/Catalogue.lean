-- The tools of the system, by name.
import Worksheet.Host.Tools.Commands
import Worksheet.Host.Tools.Counting
import Worksheet.Host.Tools.Cutting
import Worksheet.Host.Tools.Dating
import Worksheet.Host.Tools.Edit.Run
import Worksheet.Host.Tools.Exchange
import Worksheet.Host.Tools.Permissions
import Worksheet.Host.Tools.Finding
import Worksheet.Host.Tools.Installing
import Worksheet.Host.Tools.Linking
import Worksheet.Host.Tools.Listing
import Worksheet.Host.Tools.Making
import Worksheet.Host.Tools.Removing
import Worksheet.Host.Tools.Searching
import Worksheet.Host.Tools.Sorting
import Worksheet.Host.Tools.Speaking
import Worksheet.Host.Tools.Streams
import Worksheet.Host.Tools.Truth

namespace Worksheet.Host.Tools

def catalogue : List (String × Tool) :=
  [("cat", cat), ("head", head), ("tail", tail), ("tac", tac), ("tee", tee), ("yes", yes),
    ("tr", tr), ("sort", sort), ("uniq", uniq), ("comm", comm), ("wc", wc), ("nl", nl),
    ("cut", cut), ("paste", paste), ("rev", rev), ("fold", fold), ("expand", expand),
    ("grep", grep), ("egrep", grep), ("fgrep", grep), ("sed", sed), ("ls", ls), ("stat", stat),
    ("find", find), ("mkdir", mkdir), ("rmdir", rmdir), ("rm", rm), ("touch", touch),
    ("chmod", chmod), ("cp", cp), ("mv", mv), ("install", install), ("ln", ln), ("mkfifo", mkfifo),
    ("readlink", readlink), ("realpath", realpath), ("truncate", truncate), ("mktemp", mktemp),
    ("sync", sync), ("basename", basename), ("dirname", dirname), ("echo", echo),
    ("printf", printf), ("seq", seq), ("sleep", sleep), ("date", date), ("true", truth),
    ("false", falsehood),
    ("pwd", workingDirectory), ("printenv", printenv), ("whoami", whoami), ("id", identity),
    ("uname", uname), ("test", condition false), ("[", condition true), ("kill", kill),
    ("which", which), ("nohup", nohup), ("setsid", setsid), ("nice", nice), ("env", env),
    ("timeout", timeout), ("xargs", xargs)]

def names : List String := catalogue.map (·.1)

def find? (name : String) : Option Tool := catalogue.lookup name

end Worksheet.Host.Tools
