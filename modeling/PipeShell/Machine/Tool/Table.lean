import PipeShell.Machine.Script.Running
import PipeShell.Machine.Tool.Breaking
import PipeShell.Machine.Tool.Columns
import PipeShell.Machine.Tool.Copying
import PipeShell.Machine.Tool.Counting
import PipeShell.Machine.Tool.Dumping
import PipeShell.Machine.Tool.Editing
import PipeShell.Machine.Tool.Expression
import PipeShell.Machine.Tool.Numbering
import PipeShell.Machine.Tool.Ordering
import PipeShell.Machine.Tool.Placing
import PipeShell.Machine.Tool.Saying
import PipeShell.Machine.Tool.Searching
import PipeShell.Machine.Tool.Tallying

/-!
The tools of a machine by name.
-/
namespace PipeShell.Machine.Tool

def independent : List (String × Tool) :=
  [("[", test true), ("basename", basename), ("cat", cat), ("chmod", chmod), ("cp", cp),
    ("cut", cut), ("dir", dir), ("dirname", dirname), ("echo", echo), ("expr", expr),
    ("false", refuse), ("fold", fold), ("grep", grep), ("head", head), ("ln", ln), ("ls", ls),
    ("mkdir", mkdir), ("mv", mv), ("nl", nl), ("od", od), ("paste", paste), ("printenv", printenv),
    ("printf", printf), ("pwd", pwd), ("readlink", readlink), ("realpath", realpath), ("rev", rev),
    ("rm", rm), ("rmdir", rmdir), ("sed", sed), ("seq", seq), ("sleep", sleep), ("sort", sort),
    ("sync", succeed), ("tac", tac), ("tail", tail), ("tee", tee), ("test", test false),
    ("touch", touch), ("tr", tr), ("true", succeed), ("uniq", uniq), ("wc", wc), ("yes", yes)]

def starting : List (String × (Launcher → Tool)) :=
  [("bash", Script.shell), ("dash", Script.shell), ("env", env), ("nice", nice), ("nohup", nohup),
    ("stdbuf", stdbuf), ("timeout", timeout), ("xargs", xargs)]

def failing : List String :=
  ["arch", "awk", "b2sum", "base32", "base64", "basenc", "chgrp", "chown", "cksum", "cmp",
    "comm", "csplit", "date", "dd", "df", "diff", "du", "egrep", "expand", "factor", "fgrep",
    "find", "fmt", "groups", "gzip", "hostid", "hostname", "id", "install", "join", "kill", "link",
    "logname", "md5sum", "mkfifo", "mknod", "mktemp", "more", "nproc", "numfmt", "pathchk", "perl",
    "pinky", "pr", "ps", "ptx", "sha1sum", "sha224sum", "sha256sum", "sha384sum",
    "sha512sum", "shred", "shuf", "split", "stat", "stty", "sum", "tar", "truncate", "tsort", "tty",
    "uname", "unexpand", "unlink", "users", "vdir", "which", "who", "whoami"]

def names : List String := independent.map Prod.fst ++ starting.map Prod.fst ++ failing

/-- The tool of a name; one that is not known fails. -/
def named : Loader.Tools := fun name launch =>
  match independent.lookup name, starting.lookup name with
  | some tool, _ => tool
  | none, some tool => tool launch
  | none, none => refuse

end PipeShell.Machine.Tool
