import ReactiveProps.Text.Template
import ReactiveProps.Text.Wrapping

/-!
# Help texts

The help for `analyze` describes the decorator option by a template that holds the configured
decorator, so that percent signs in there are places of the template.
-/
namespace ReactiveProps.CommandLine

open Text.Template (Argument TemplateError expand)

def joinLines (lines : List String) : String := String.join (lines.map (· ++ "\n"))

def generalHelp : String := joinLines [
  "usage: litanalyzer [-h] [-v] [--debug] [--quiet] \x7banalyze\x7d ...",
  "",
  "Lit reactive property analyzer",
  "",
  "positional arguments:",
  "  \x7banalyze\x7d",
  "    analyze      Extract reactive properties",
  "",
  "options:",
  "  -h, --help     show this help message and exit",
  "  -v, --verbose  Verbose output",
  "  --debug        Enable debug logging",
  "  --quiet        Reduce logs to errors only"]

/-- A text with every run of blanks as one space. -/
def joinBlanks (text : List Char) : List Char :=
  text.foldr (fun c rest =>
    if Text.isAsciiBlank c then (if rest.head? = some ' ' then rest else ' ' :: rest)
    else c :: rest) []

def decoratorTemplate (decorator : String) : String :=
  "Name of the property decorator (default: " ++ decorator ++ ")"

/-- What the description of the decorator option can refer to. -/
def decoratorFields (template : String) : List (String × Argument) :=
  let missing := Argument.other "NoneType" "None"
  [("option_strings", .other "list" "['--decorator']"),
    ("dest", .text "decorator"),
    ("nargs", missing),
    ("const", missing),
    ("default", missing),
    ("type", missing),
    ("choices", missing),
    ("required", .flag false),
    ("help", .text template),
    ("metavar", missing),
    ("container", .other "_ArgumentGroup" "<_ArgumentGroup object>"),
    ("prog", .text "litanalyzer analyze")]

/-- The description of the decorator option, in lines of 54 characters. -/
def decoratorHelp (decorator : String) : Except TemplateError (List String) :=
  let template := decoratorTemplate decorator
  (expand (decoratorFields template) template).map fun text =>
    (Text.Wrapping.wrap 54 (joinBlanks text.toList)).map fun line =>
      String.ofList (List.replicate 24 ' ' ++ line)

/-- The help for `analyze`; it names the decorator that properties have by default. -/
def analyzeHelp (decorator : String) : Except TemplateError String :=
  (decoratorHelp decorator).map fun description => joinLines ([
    "usage: litanalyzer analyze [-h] [--raw-json] [--output OUTPUT] [--recursive]",
    "                           [--strict] [--decorator DECORATOR]",
    "                           path",
    "",
    "positional arguments:",
    "  path                  Source file or directory path",
    "",
    "options:",
    "  -h, --help            show this help message and exit",
    "  --raw-json            Output raw JSON",
    "  --output OUTPUT       Write JSON results to this file",
    "  --recursive           Scan directory recursively",
    "  --strict              Abort on the first unsupported class",
    "  --decorator DECORATOR"] ++ description)

end ReactiveProps.CommandLine
