import CompilerLog.Application
import CompilerLog.Host.Programs
import CompilerLog.Host.Regex.Parser
import CompilerLog.Host.Yaml.Settings
/-!
# A host for file trees

What the program is run with here: regular expressions and settings documents that are read by the
modules beside this one, the directories of the user as the environment names them, and the scripts
of a file tree as compilers. No theorem is about these; they cover what build logs and settings
files hold in practice, and not all that the program could be run with.
-/

namespace CompilerLog.Host

def compileRegex : RegexCompiler := fun expression =>
  match Regex.parse? expression with
  | some regex => .ok regex.isFound
  | none => .error "not a regular expression"

def decodeYaml : SettingsDecoder
  | .error error => .error error.text
  | .ok bytes => (Settings.ofBytes bytes).mapError SettingsFault.message

/-- The directories with settings: the one that the environment names, if that is an absolute path,
or else one in the home of the user. -/
def directoriesOf (home named : Option String) : SettingsDirectories :=
  match home with
  | none => ⟨none, none⟩
  | some home =>
    let user := match named.filter fun path => path.toList.head? = some '/' with
      | some path => path
      | none => Path.join home ".config"
    let program := Path.join user "ccparse"
    ⟨some (user, user), some (program, program)⟩

def ofTree (directories : SettingsDirectories) (tree : FileTree) : Host where
  compile := compileRegex
  decode := decodeYaml
  describe := fun _ => "malformed content"
  directories := directories
  probe := CommandProbe.ofPrograms (.ofTree tree)

end CompilerLog.Host
