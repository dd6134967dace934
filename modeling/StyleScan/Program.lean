import StyleScan.Check

/-!
# StyleScan.Program

A whole run: from the command line and the files to what is printed, what is changed, and the exit
code.

* `Outcome`     — everything that a run leaves behind.
* `Program.run` — the outcome of a command line.
* `Program.lookedAt` — the paths that a command looks at.
-/

namespace StyleScan

/-- What a run leaves behind. -/
structure Outcome where
  /-- Zero, one after an error or a violation of that severity, two for a line that cannot be
  understood. -/
  exitCode : Nat := 0
  output : String := ""
  /-- The message with which the run stopped. -/
  error : Option String := none
  warnings : List String := []
  tree : FileTree
deriving Repr, Inhabited

namespace Program

/-- What the program calls itself. -/
def version : String := "manifesto 0.4.2"

/-- A short reminder of the commands. -/
def usage : String :=
  "Usage: manifesto [OPTIONS] <COMMAND>\n\nCommands:\n"
    ++ "  check       Scan files or directories\n"
    ++ "  list-rules  List available rules\n"
    ++ "  init        Initialize configuration file\n"

/-- A text filled up with spaces to a width. -/
def pad (width : Nat) (s : String) : String :=
  s ++ String.ofList (List.replicate (width - s.length) ' ')

/-- One line of the list of rules. -/
def ruleLine (code name severity description : String) : String :=
  pad 8 code ++ " " ++ pad 25 name ++ " " ++ pad 9 severity ++ " " ++ description ++ "\n"

/-- The list of rules, in the order in which they run. -/
def ruleList : String :=
  "Available rules, in execution order:\n\n"
    ++ ruleLine "Code" "Name" "Severity" "Description"
    ++ String.ofList (List.replicate 90 '-') ++ "\n"
    ++ String.join (Rule.defaults.map fun r =>
      ruleLine r.code r.name r.defaultSeverity.name r.description)
    ++ "\nUse --rules to run a subset, e.g.:\n"
    ++ "  manifesto check --rules line-too-wide,method-too-long\n"
    ++ "  manifesto check --rules MF002,MF005\n"

/-- The settings file that a user starts from. -/
def starterSettings : String :=
  "\n".intercalate
    [ "# manifesto configuration",
      "",
      "[analyzer]",
      "# Root directory to scan (default: current directory)",
      "# root = \"./src\"",
      "",
      "# Glob patterns to exclude from scanning",
      "exclude = [",
      "    \"**/bin/**\",",
      "    \"**/obj/**\",",
      "]",
      "",
      "# File extensions to scan",
      "extensions = [\"cs\"]",
      "",
      "# Respect .gitignore files",
      "respect_gitignore = true",
      "",
      "# Worker threads (default: one per core)",
      "# parallelism = 4",
      "",
      "# Encoding used for files without a byte order mark",
      "fallback_encoding = \"windows-1252\"",
      "",
      "# Rule configurations",
      "# Each rule can be enabled/disabled and have its severity overridden",
      "",
      "[rules.file-too-long]",
      "enabled = true",
      "# severity = \"warning\"  # Override default severity",
      "max_lines = 700",
      "",
      "[rules.line-too-wide]",
      "max_width = 128",
      "tab_width = 4",
      "indent_width = 4",
      "",
      "[rules.one-statement-per-line]",
      "enabled = true",
      "",
      "[rules.one-line-per-statement]",
      "enabled = true",
      "",
      "[rules.method-too-long]",
      "max_lines = 20",
      "",
      "[rules.identifier-too-short]",
      "min_length = 3",
      "allowed = [\"if\", \"in\", \"as\", \"T\"]",
      "" ]

/-- The file in which the starter settings are put. -/
def starterFile : String := "manifesto.toml"

/-- A run that stopped with a message. -/
def stopped (t : FileTree) (message : String) (warnings : List String) : Outcome :=
  { exitCode := 1, error := some message, warnings, tree := t }

/-- Writes the starter settings. A file that exists is replaced only by force. -/
def init (t : FileTree) (force : Bool) : Outcome :=
  if t.contains starterFile && !force then
    stopped t ("Configuration file already exists at " ++ starterFile
      ++ ". Use --force to overwrite.") []
  else
    match t.write starterFile (Utf8.bytes starterSettings) with
    | .error _ => stopped t ("Failed to write " ++ starterFile) []
    | .ok changed =>
      { output := "Created " ++ starterFile ++ "\n\nNext steps:\n"
          ++ "  1. Edit " ++ starterFile ++ " to configure rules\n"
          ++ "  2. Run: manifesto check\n"
        tree := changed }

/-- The exit code of a check that was completed: one if some violation is an error. -/
def verdict (report : BatchReport) : Nat := if report.hasErrors then 1 else 0

/-- The outcome of a check. -/
def check (t : FileTree) (e : Environment) (settingsFile : Option String) (o : CheckOptions) :
    Outcome :=
  let logged := Check.run t e settingsFile o
  match logged.outcome with
  | .error message => stopped t message logged.warnings
  | .ok report =>
    { exitCode := verdict report
      output := report.render o.format
      warnings := logged.warnings
      tree := t }

/-- The outcome of a command. -/
def runCommand (t : FileTree) (e : Environment) : Command → Outcome
  | .check settingsFile options => check t e settingsFile options
  | .listRules => { output := ruleList, tree := t }
  | .init force => init t force
  | .help => { output := usage, tree := t }
  | .version => { output := version ++ "\n", tree := t }
  | .misuse => { exitCode := 2, tree := t }

/-! ## What a run looks at -/

/-- The paths that following a project leads to, as far as the tree shows. -/
def pathsOfProject (t : FileTree) (path : String) : List String :=
  let followed := match Project.load t path with
    | .ok p => (p.closure t).projects.flatMap fun q =>
        q.ownFiles ++ q.importPaths ++ q.importPaths.map Project.overlayPath
    | .error _ => []
  path :: Project.overlayPath path :: followed

/-- The paths that a command looks at, as far as the tree shows. -/
def lookedAt (t : FileTree) (e : Environment) : Command → List String
  | .check settingsFile o =>
    let dir := Settings.directoryOf t (o.paths ++ o.projects)
    settingsFile.toList ++ Settings.fileNames.map (Path.join dir) ++ (Settings.userFile? e).toList
      ++ o.paths ++ o.projects.flatMap (pathsOfProject t)
  | .init _ => [starterFile]
  | _ => []

/-- The outcome of a command line. -/
def run (t : FileTree) (e : Environment) (line : List String) : Outcome :=
  runCommand t e (Command.parse line)

end Program
end StyleScan
