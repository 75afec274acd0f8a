import SchemaScribe.CommandLine.Opt

/-!
# Completion scripts

A script teaches a shell the words of the program: its commands and all long options. The scripts
are short stand-ins, worded here. They are not the text that a generator of completions writes,
which is longer and goes by the command.
-/
namespace SchemaScribe.CommandLine

/-- The name under which the program is called. -/
def programName : String := "fieldgen"

/-- The words that a shell can offer. -/
def completionWords : List String :=
  Scope.commands.filterMap (·.word?) ++ ["help"] ++
    ((Scope.top :: Scope.commands).flatMap (·.options)).eraseDups.filterMap fun opt =>
      opt.long?.map ("--" ++ ·)

/-- The script for a shell: a stand-in that offers all words everywhere. -/
def completionScript (shell : Shell) : String :=
  let words := " ".intercalate completionWords
  match shell with
  | .bash => "complete -o default -W '" ++ words ++ "' " ++ programName ++ "\n"
  | .elvish =>
      "set edit:completion:arg-completer[" ++ programName ++ "] = \x7b|@words| put " ++ words ++
        " \x7d\n"
  | .fish => "complete -c " ++ programName ++ " -a '" ++ words ++ "'\n"
  | .powershell =>
      "Register-ArgumentCompleter -Native -CommandName '" ++ programName ++
        "' -ScriptBlock \x7b param($word) '" ++ words ++
        "' -split ' ' | Where-Object \x7b $_ -like \"$word*\" \x7d \x7d\n"
  | .zsh => "compctl -f -k '(" ++ words ++ ")' " ++ programName ++ "\n"

end SchemaScribe.CommandLine
