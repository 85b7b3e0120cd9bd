/-
# Help

The texts that tell how the program is used.  They are laid out from the tables of commands and
options: a name, and in a second column what it is for.
-/
import Placard.Command.Line

namespace Placard

def programName : String := "vitrine"

def versionText : String := programName ++ " 0.1.0\n"

/-- How the value of an option is spoken of. -/
def Flag.placeholder : Flag → String
  | config => "CONFIG"
  | logLevel => "LOG_LEVEL"
  | listen => "LISTEN"
  | concurrency => "CONCURRENCY"
  | template => "FILE"
  | value => "KEY=VALUE"
  | width => "WIDTH"
  | format => "FORMAT"
  | out => "FILE"

def Flag.about : Flag → String
  | config => "Service configuration file [default: config.yaml]"
  | logLevel => "Log filter when RUST_LOG is unset (overrides the config file)"
  | listen => "Address to listen on"
  | concurrency => "Maximum simultaneous upstream downloads"
  | template => "Template YAML file"
  | value => "Request value as key=value (repeatable)"
  | width => "Requested width (falls back to the template default) [default: 0]"
  | format => "Output encoding [default: jpeg] [possible values: jpeg, png]"
  | out => "Output file"

/-- An option with its value. -/
def Flag.form (f : Flag) : String := "--" ++ f.name ++ " <" ++ f.placeholder ++ ">"

def Command.about : Command → String
  | serve => "Serve templates over HTTP"
  | render => "Render a template file once"
  | showConfig => "Print the effective configuration as YAML"

namespace Topic

def about : Topic → String
  | program =>
    "On-demand marketing image renderer: declarative templates composited over fetched photographs"
  | command c => c.about
  | help => "Print this message or the help of the given subcommand(s)"

def usage : Topic → String
  | program => "[OPTIONS] <COMMAND>"
  | command .render => s!"render [OPTIONS] {Flag.template.form} {Flag.out.form}"
  | command c => c.name ++ " [OPTIONS]"
  | help => "help [COMMAND]..."

def columns (rows : List (String × String)) : String :=
  let width := (rows.map (·.1.length)).foldl max 0
  let row (left right : String) : String :=
    "  " ++ String.ofList (left.toList.rightpad width ' ') ++ "  " ++ right ++ "\n"
  String.join (rows.map fun (left, right) => row left right)

/-- Options in the order in which they are shown: by their place among the common ones or among
those of the command, and by their names at the same place. -/
def inOrder (c : Option Command) : List Flag :=
  let ranked := Flag.common.zipIdx ++ ((c.map Command.flags).getD []).zipIdx
  (ranked.mergeSort fun a b => a.2 < b.2 ∨ (a.2 = b.2 ∧ a.1.name ≤ b.1.name)).map (·.1)

/-- The rows of options that take a value. -/
def flagRows (flags : List Flag) : List (String × String) :=
  flags.map fun f => ("    " ++ f.form, f.about)

/-- The row of the option that asks for help. -/
def helpRow : String × String := ("-h, --help", "Print help")

def lists : Topic → String
  | program =>
    "Commands:\n" ++
      columns (Command.all.map (fun c => (c.name, c.about)) ++ [("help", help.about)]) ++
    "\nOptions:\n" ++
      columns (flagRows (inOrder none) ++ [helpRow, ("-V, --version", "Print version")])
  | command c => "Options:\n" ++ columns (flagRows (inOrder (some c)) ++ [helpRow])
  | help => "Arguments:\n" ++ columns [("[COMMAND]...", "Print help for the subcommand(s)")]

def text (t : Topic) : String :=
  t.about ++ "\n\nUsage: " ++ programName ++ " " ++ t.usage ++ "\n\n" ++ t.lists

end Topic
end Placard
