import SourceGrade.CommandLine.Options
import SourceGrade.Text.ControlSequence

/-!
# Help

The help text shows the present value behind each variable's name. Values may hold anything, so
control sequences are taken out, and further lines stand below the descriptions of the options.
-/

namespace SourceGrade.CommandLine

def versionText : Text := "codemound 0.0.1\n"

/-- The column where the descriptions of the options begin. -/
def descriptionColumn : Nat := 39

/-- The text with all lines but the first one indented. -/
def indented (text : Text) : Text :=
  text.flatMap fun c => if c = '\n' then '\n' :: List.replicate descriptionColumn ' ' else [c]

/-- A variable with its present value, ill-formed parts replaced. -/
def variableNote (env : Environment) (setting : Setting) : Text :=
  let value := Utf8.decode ((env.lookup setting.variableName).getD [])
  "[env: " ++ setting.variableName ++ "=" ++ indented value ++ "]"

/-- The help text with the values of variables as they are. -/
def helpTemplate (env : Environment) : Text :=
  "Heuristic code quality and shit index scorer\n\n" ++
    "Usage: codemound [OPTIONS] <PATH>\n\n" ++
    "Arguments:\n" ++
    "  <PATH>  Source file or directory to scan\n\n" ++
    "Options:\n" ++
    "      --lang <LANG>                    " ++
    "Language tag to use for every file instead of detection " ++ variableNote env .lang ++
    " [default: " ++ defaultLang ++ "]\n" ++
    "      --json                           Emit all scored files as JSON\n" ++
    "      --markdown                       " ++
    "Markdown rendering. The text report is already markdown\n" ++
    "      --summary                        " ++
    "Only print the header and score lines of each report\n" ++
    "  -v, --verbose                        Enable debug logging on stderr\n" ++
    "      --locale <LOCALE>                " ++
    "Locale for report labels (zh-CN, en-US) " ++ variableNote env .locale ++
    " [default: " ++ defaultLocale ++ "]\n" ++
    "  -j, --jobs <JOBS>                    " ++
    "Maximum number of files scored concurrently " ++ variableNote env .jobs ++
    " [default: " ++ Text.ofNat defaultJobs ++ "]\n" ++
    "      --sort                           Sort discovered files by path before scoring\n" ++
    "      --report-output <REPORT_OUTPUT>  " ++
    "Write the report to a file instead of stdout " ++ variableNote env .reportOutput ++ "\n" ++
    "  -h, --help                           Print help\n" ++
    "  -V, --version                        Print version\n"

def helpText (env : Environment) : Text := (helpTemplate env).withoutControls

end SourceGrade.CommandLine
