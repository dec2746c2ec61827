import LoweringAudit.CommandLine.Options
import LoweringAudit.Config.File
/-!
Help on the options. In brief each option has one line, which names the values of an option that
has only a few; in full the option stands above what is said of it, and each of its values is
explained.
-/
namespace LoweringAudit.CommandLine

/-- An option as it is explained. -/
structure Explained where
  /-- The option with its letter and its value, as it is written. -/
  usage : String
  /-- What is said of it, in brief and in full. -/
  about : Extent → String
  /-- The values, if they are few, and what they mean. -/
  values : List (String × String) := []

def explained : List Explained :=
  [{ usage := "    --features <LIST>"
     about := fun _ => "Enabled target features, comma-separated (empty string for none)" },
   { usage := "    --catalog <PATH>"
     about := fun _ => "Catalog file, or `embedded` for the built-in FMA4 table" },
   { usage := "    --config <CONFIG>"
     about := fun _ =>
       "Config file (default: " ++ Config.fileName ++ " in this or a parent directory)" },
   { usage := "    --engine <ENGINE>"
     about := fun _ => "Lowering engine"
     values := [(EngineKind.reference.name, "Built-in FMA4 lowering table"),
       (EngineKind.command.name, "External program")] },
   { usage := "    --format <FORMAT>"
     about := fun _ => "Report format"
     values := [(ReportFormat.text.name, "FAIL lines and a PASSED summary"),
       (ReportFormat.json.name, "One JSON document with summary and per-case results")] },
   { usage := "    --list", about := fun _ => "Print the loaded catalog and exit" },
   { usage := "-v, --verbose", about := fun _ => "Verbose output" },
   { usage := "-h, --help"
     about := fun
       | .brief => "Print help (see more with '--help')"
       | .full => "Print help (see a summary with '-h')" },
   { usage := "-V, --version", about := fun _ => "Print version" }]

/-- The text with blanks after it, up to the width. -/
def padded (width : Nat) (text : String) : String :=
  text.pushn ' ' (width - text.length)

/-- The width of the longest of some texts. -/
def widest (texts : List String) : Nat :=
  (texts.map String.length).foldl max 0

/-- One line on an option. -/
def Explained.line (e : Explained) : String :=
  "  " ++ padded (widest (explained.map Explained.usage)) e.usage ++ "  " ++ e.about .brief ++
    if e.values = [] then ""
    else " [possible values: " ++ ", ".intercalate (e.values.map Prod.fst) ++ "]"

/-- What is said of an option in full, below it and further in. -/
def Explained.paragraph (e : Explained) : String :=
  let margin := "\n          "
  "  " ++ e.usage ++ margin ++ e.about .full ++
    if e.values = [] then ""
    else "\n" ++ margin ++ "Possible values:" ++ String.join (e.values.map fun (value, meaning) =>
      margin ++ "- " ++ padded (widest (e.values.map Prod.fst) + 2) (value ++ ": ") ++ meaning)

/-- What is printed when help is asked for. -/
def helpText (extent : Extent) : String :=
  "Verify that vector builtins lower to the expected target operations\n\n" ++
    "Usage: lowercheck [OPTIONS]\n\nOptions:\n" ++
    (match extent with
      | .brief => "\n".intercalate (explained.map Explained.line)
      | .full => "\n\n".intercalate (explained.map Explained.paragraph)) ++ "\n"

end LoweringAudit.CommandLine
