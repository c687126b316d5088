import DriverDesk.Command.Request

/-!
# Help

What the command says about itself.
-/

namespace DriverDesk.Command

/-- The name and version of the command. -/
def versionText : String := "cabpanel 0.1.0\n"

/-- Lines as a text. -/
def linesText (ls : List String) : String := String.join (ls.map (· ++ "\n"))

namespace Topic

/-- How a command is called. -/
def usage : Topic → String
  | program => "Usage: cabpanel <COMMAND>"
  | compile => "Usage: cabpanel compile [OPTIONS] <PATH>"
  | locate => "Usage: cabpanel locate <DIR>"
  | defaultOptions => "Usage: cabpanel default-options"
  | help => "Usage: cabpanel help [COMMAND]..."

/-- What help says. -/
def text (t : Topic) : String :=
  linesText <| match t with
    | program =>
      ["Compile train cab panel files", "", t.usage, "", "Commands:",
       "  compile          Compile a panel file, or the panel of a train folder",
       "  locate           Show which panel file a train folder uses",
       "  default-options  Print the default compile options",
       "  help             Print this message or the help of the given subcommand(s)", "",
       "Options:", "  -h, --help     Print help", "  -V, --version  Print version"]
    | compile =>
      ["Compile a panel file, or the panel of a train folder", "", t.usage, "", "Arguments:",
       "  <PATH>  Panel file or train folder", "", "Options:",
       "  -o, --options <OPTIONS>  Compile options as JSON",
       "      --format <FORMAT>    Override the format picked from the file name "
         ++ "[possible values: calibrated, legacy]",
       "      --car <CAR>          Car that receives the elements",
       "      --strict             Exit with an error status when any error is reported",
       "      --summary            Print only the summary line",
       "  -h, --help               Print help"]
    | locate =>
      ["Show which panel file a train folder uses", "", t.usage, "", "Arguments:",
       "  <DIR>  Train folder", "", "Options:", "  -h, --help  Print help"]
    | defaultOptions =>
      ["Print the default compile options", "", t.usage, "", "Options:",
       "  -h, --help  Print help"]
    | help =>
      ["Print this message or the help of the given subcommand(s)", "", t.usage, "",
       "Arguments:", "  [COMMAND]...  Print help for the subcommand(s)"]

end Topic

end DriverDesk.Command
