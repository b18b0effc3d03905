import PipeShell.Builtin.Kind
import PipeShell.OptionGrammar

/-!
The argument grammars of the built-ins with their help texts, and the picture of the dragon.
-/
namespace PipeShell.Builtin

def helpOptions : String := "\n\nOptions:\n  --help, help      display usage information\n"

def helpText : Builtin → String
  | .exit => "Usage: exit [args...]\n\nLeave the shell." ++ helpOptions
  | .cd =>
    "Usage: cd [--] [<target>]\n\nChange the current working directory. " ++
    "Without a target the directory is left unchanged.\n\nPositional Arguments:\n" ++
    "  target            directory to switch to; absolute or relative to the current\n" ++
    "                    directory." ++ helpOptions
  | .rc => "Usage: rc\n\nPrint the return code of the last command." ++ helpOptions
  | .dragon => "Usage: dragon\n\nPrint a dragon." ++ helpOptions

/-- Only `exit` takes any arguments, and only `cd` takes one. -/
def positionals : Builtin → Positionals
  | .exit => .rest
  | .cd => .atMostOne
  | .rc | .dragon => .none

def grammar (kind : Builtin) : OptionGrammar where
  help := kind.helpText
  positionals := kind.positionals

def dragonPicture : String := String.intercalate "\n" [
  "                  __====-_  _-====__",
  "            _--^^^#####//      \\\\#####^^^--_",
  "         _-^##########// (    ) \\\\##########^-_",
  "        -############//  |\\^^/|  \\\\############-",
  "      _/############//   (@::@)   \\\\############\\_",
  "     /#############((     \\\\//     ))#############\\",
  "    -###############\\\\    (%%)    //###############-",
  "   -#################\\\\  / \"\" \\  //#################-",
  "  -###################\\\\/      \\//###################-",
  " _#/|##########/\\######(   /\\   )######/\\##########|\\#_",
  " |/ |#/\\#/\\#/\\/  \\#/\\##\\  |  |  /##/\\#/  \\/\\#/\\#/\\#| \\|",
  " `  |/  V  V  `   V  \\#\\| |  | |/#/  V   '  V  V  \\|  '",
  "    `   `  `      `   / | |  | | \\   '      '  '   '",
  "                     (  | |  | |  )",
  "                    __\\ | |  | | /__",
  "                   (vvv(VVV)(VVV)vvv)",
  ""]

end PipeShell.Builtin
