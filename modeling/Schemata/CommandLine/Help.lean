import Schemata.CommandLine
import Schemata.Text.Terminal

/-!
# Help texts

What the program prints about itself.  Help is written for terminals, with headings and
names in bold; the program writes to none, so the plain text is what comes out.
-/

namespace Schemata.CommandLine

open Text.Terminal (bold plain)

def Subcommand.about : Subcommand → String
  | .create => "Create a schema"
  | .read => "Show a schema as the catalog reports it"
  | .update => "Rename a schema and/or change its owner"
  | .drop => "Drop a schema"
  | .adopt => "Adopt an existing schema"

namespace Help

def helpAbout : String := "Print this message or the help of the given subcommand(s)"

/-- A text filled up with blanks to a width. -/
def padRight (width : Nat) (text : String) : String :=
  text ++ String.ofList (List.replicate (width - text.length) ' ')

/-- The width of the column that holds the options. -/
def optionWidth : Nat := 29

/-- A name in bold and what follows it, filled up with blanks to a width. -/
def column (width : Nat) (name detail : String) : String :=
  bold name ++ padRight (width - name.length) detail

/-- A line about an option that has a long name only. -/
def longOption (name value about : String) : String :=
  "      " ++ column optionWidth name value ++ "  " ++ about ++ "\n"

/-- A line about a flag that also has a letter. -/
def flag (letter name about : String) : String :=
  "  " ++ bold letter ++ ", " ++ column optionWidth name "" ++ "  " ++ about ++ "\n"

/-- A heading, and the lines under it. -/
def block (heading body : String) : String :=
  "\n" ++ bold heading ++ "\n" ++ body

/-- How a command is used. -/
def usage (command arguments : String) : String :=
  "\n" ++ bold "Usage:" ++ " " ++ bold command ++ " " ++ arguments ++ "\n"

/-- The option shows what the environment sets it to; lines after the first start in
the same column. -/
def databaseUrl (environmentUrl : Option String) : String :=
  let margin := "\n" ++ String.ofList (List.replicate (optionWidth + 8) ' ')
  let value := margin.intercalate ((environmentUrl.getD "").splitOn "\n")
  longOption "--database-url" " <DATABASE_URL>"
    ("Database connection URL (overrides .config/pgschema.styx) [env: DATABASE_URL=" ++
      value ++ "]")

def help : String := flag "-h" "--help" "Print help"

def program (environmentUrl : Option String) : String :=
  let commands := subcommands.map (fun s => (s.name, s.about)) ++ [(helpName, helpAbout)]
  "Manage PostgreSQL schemas declaratively\n" ++
    usage "pgschema" "[OPTIONS] <COMMAND>" ++
    block "Commands:"
      (String.join (commands.map fun (name, about) =>
        "  " ++ column 6 name "" ++ "  " ++ about ++ "\n")) ++
    block "Options:"
      (databaseUrl environmentUrl ++ help ++ flag "-V" "--version" "Print version")

def options (environmentUrl : Option String) : Subcommand → String
  | .create =>
    databaseUrl environmentUrl ++
      longOption "--owner" " <OWNER>" "Owning role (defaults to the connecting role)"
  | .update =>
    databaseUrl environmentUrl ++
      longOption "--rename-to" " <RENAME_TO>" "" ++ longOption "--owner" " <OWNER>" ""
  | .drop =>
    longOption "--cascade" "" "Also drop everything inside the schema" ++
      databaseUrl environmentUrl
  | .read => databaseUrl environmentUrl
  | .adopt => databaseUrl environmentUrl

def ofSubcommand (environmentUrl : Option String) (subcommand : Subcommand) : String :=
  subcommand.about ++ "\n" ++
    usage ("pgschema " ++ subcommand.name) "[OPTIONS] <NAME>" ++
    block "Arguments:" "  <NAME>  \n" ++
    block "Options:" (options environmentUrl subcommand ++ help)

def ofHelp : String :=
  helpAbout ++ "\n" ++
    usage "pgschema help" "[COMMAND]..." ++
    block "Arguments:" "  [COMMAND]...  Print help for the subcommand(s)\n"

end Help

/-- The help about a topic. -/
def Topic.text (environmentUrl : Option String) : Topic → String
  | .program => Help.program environmentUrl
  | .command subcommand => Help.ofSubcommand environmentUrl subcommand
  | .help => Help.ofHelp

/-- What the program says about its version. -/
def versionText : String := "pgschema 0.1.0\n"

/-- What arguments that give no invocation make the program print. -/
def Stop.output (environmentUrl : Option String) : Stop → String
  | .showHelp topic => plain (topic.text environmentUrl)
  | .showVersion => versionText
  | _ => ""

end Schemata.CommandLine
