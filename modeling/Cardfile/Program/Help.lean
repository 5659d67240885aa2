import Cardfile.Program.Arguments
/-!
# The program — help

The text that tells how to call the program, and the scripts that make a
shell complete the names of its commands.

Both are short texts of this library's own. They stand where longer ones
would be generated from the declaration of the arguments, so their wording
is made up, and no theorem is about it. Only which of them is shown, and
whether as output or among the diagnostics, is settled elsewhere
(`Program.Halt.outcome`, `Program.Request.outcome`).
-/

namespace Cardfile

namespace Program

/-- How the program is called. -/
def helpText : String :=
  "Query tab-separated record files with a small conditional language\n" ++
  "\n" ++
  "Usage: tabquery [OPTIONS] <COMMAND>\n" ++
  "\n" ++
  "Commands:\n" ++
  "  query       Select records matching a conjunctive query\n" ++
  "  indexquery  Fetch one record by primary key through the index\n" ++
  "  shell       Interactive prompt reading commands from stdin\n" ++
  "  completion  Generate shell completion scripts\n" ++
  "  version     Print version info\n" ++
  "  help        Print this message or the help of the given subcommand(s)\n" ++
  "\n" ++
  "Options:\n" ++
  "      --db <DB>            Tab-separated record file\n" ++
  "      --columns <COLUMNS>  Column layout: name[:text|:int],... (first column is the key)\n" ++
  "      --color <COLOR>      Colorize stderr diagnostics and pretty JSON output\n" ++
  "  -h, --help               Print help\n" ++
  "  -V, --version            Print version\n" ++
  "\n" ++
  "Query language:\n" ++
  "  attribute operator \"literal\" [AND attribute operator \"literal\" ...]\n" ++
  "  Operators: = != < <= > >= LIKE (one `*` wildcard)\n"

/-- The names of the commands, with spaces between them. -/
def commandWords : String := "query indexquery shell completion version help"

/-- A script that makes the shell complete the names of the commands. -/
def completionScript : CompletionShell → String
  | .bash => "complete -W '" ++ commandWords ++ "' tabquery\n"
  | .elvish =>
    "set edit:completion:arg-completer[tabquery] = \x7b|@words| put " ++ commandWords ++ " \x7d\n"
  | .fish => "complete -c tabquery -f -n __fish_use_subcommand -a '" ++ commandWords ++ "'\n"
  | .powershell =>
    "Register-ArgumentCompleter -Native -CommandName tabquery -ScriptBlock " ++
      "\x7b -split '" ++ commandWords ++ "' \x7d\n"
  | .zsh => "#compdef tabquery\n_arguments '1:command:(" ++ commandWords ++ ")'\n"

end Program

end Cardfile
