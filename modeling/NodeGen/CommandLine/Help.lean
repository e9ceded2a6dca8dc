/-
The help text and the version line.
-/
import NodeGen.CommandLine.Options
import NodeGen.Text.Lines

namespace NodeGen

def OptionName.description : OptionName → String
  | value .family => "Families to generate. Defaults to all of them"
  | value .outDir => "Directory the `.go` files are written to"
  | value .package => "Package clause of the generated files [default: " ++ defaultPackage ++ "]"
  | flag .yes => "Overwrite without asking"
  | flag .noFormat => "Never run the formatter"
  | flag .print => "Print the generated text instead of writing it"
  | flag .verbose => ""
  | flag .quiet => ""
  | flag .help => "Print help"
  | flag .version => "Print version"

namespace Help

def optionColumn (o : OptionName) : String :=
  (match o.short? with
    | some c => String.ofList ['-', c, ',', ' ']
    | none => "    ") ++ o.usage

/-- One line per option, with the descriptions in one column. -/
def optionLine (o : OptionName) : String :=
  let width := Text.widest (OptionName.all.map optionColumn)
  "  " ++ Text.padTo width (optionColumn o) ++ "  " ++ o.description

def text : String :=
  Text.joinWith "\n" ([
    "Generates the glox expression and statement node types",
    "",
    "Usage: " ++ generatorName ++ " [OPTIONS]",
    "",
    "Options:"
    ] ++ OptionName.all.map optionLine) ++ "\n"

def versionText : String := generatorName ++ " 0.1.0\n"

end Help
end NodeGen
