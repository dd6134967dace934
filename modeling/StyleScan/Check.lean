import StyleScan.Analyzer
import StyleScan.Command
import StyleScan.Project
import StyleScan.Rule.Selection
import StyleScan.Settings.File
import StyleScan.Text.Quoted

/-!
# StyleScan.Check

A check from its options to its report. Directories are searched first, in the order given; the
files that are named and those that projects list follow as one batch.

* `Logged`        — the warnings of a part of a run, and its result or why it stopped.
* `Check.targets` — the directories and the batch of files that a check scans.
* `Check.run`     — the report of a check.
-/

namespace StyleScan

/-- The warnings of a part of a run, and its result or the message with which it stopped. -/
structure Logged (α : Type) where
  warnings : List String := []
  outcome : Except String α

namespace Logged

/-- Goes on with the result, unless the run stopped; warnings add up. -/
def andThen {α β : Type} (a : Logged α) (next : α → Logged β) : Logged β :=
  match a.outcome with
  | .error message => { warnings := a.warnings, outcome := .error message }
  | .ok value =>
    { warnings := a.warnings ++ (next value).warnings, outcome := (next value).outcome }

end Logged

namespace Check

/-- The settings of a run. -/
def settings (t : FileTree) : Option String → Logged Settings
  | none => { outcome := .ok {} }
  | some path =>
    match Settings.load t path with
    | .ok settings => { outcome := .ok settings }
    | .error _ => { outcome := .error ("Failed to load config: " ++ path) }

/-- Warns about chosen names that belong to no rule. -/
def unknownNames (chosen : List String) : List String :=
  (chosen.filter fun name => !Rule.isKnownName name).map ("Unknown rule: " ++ ·)

/-- The files of one project. -/
def filesOfProject (t : FileTree) (path : String) : Logged (List String) :=
  match Project.load t path with
  | .error _ => { outcome := .error ("Failed to read project " ++ path) }
  | .ok p =>
    { warnings := (p.closure t).skipped.map ("Skipping repeated import of " ++ ·)
      outcome :=
        match p.files t with
        | .ok files => .ok files
        | .error _ => .error ("Failed to resolve imports of " ++ path) }

/-- The files of projects, in their order. -/
def filesOfProjects (t : FileTree) : List String → Logged (List String)
  | [] => { outcome := .ok [] }
  | path :: rest =>
    (filesOfProject t path).andThen fun files =>
      (filesOfProjects t rest).andThen fun others => { outcome := .ok (files ++ others) }

/-! ## Targets -/

/-- What is scanned as one batch. -/
inductive Target where
  | directory (path : String)
  | files (paths : List String)
deriving DecidableEq, Repr, Inhabited

namespace Target

/-- What is asked of the analyzer of a target. Patterns of files to leave out hold for directories
only. -/
def options (settings : Settings) (rules : List Rule) (excludes : List String) :
    Target → AnalyzerOptions
  | directory path => { root := some path, rules, excludes, settings }
  | files paths => { files := paths, rules, settings }

/-- The message with which a run stops when there is no analyzer for a target. -/
def buildMessage : Target → String
  | directory path => "Failed to build analyzer for " ++ path
  | files _ => "Failed to build analyzer"

/-- The message with which a run stops when the analysis of a target does. -/
def analysisMessage : Target → String
  | directory path => "Analysis of " ++ path ++ " failed"
  | files _ => "Analysis failed"

end Target

/-- Warns about an encoding that has no such label. -/
def unknownLabel (label : String) : List String :=
  match Charset.ofLabel? label with
  | some _ => []
  | none => ["Unknown encoding label " ++ Text.quoted label ++ ", using windows-1252"]

/-- The report of one target. -/
def scanTarget (t : FileTree) (settings : Settings) (chosen : Option (List String))
    (excludes : List String) (target : Target) : Logged BatchReport :=
  let sections := (Rule.unknownSections settings).map ("Unknown rule in configuration: " ++ ·)
  let options := target.options settings (Rule.selected settings chosen) excludes
  match Analyzer.build? t.current.path options with
  | none => { warnings := sections, outcome := .error target.buildMessage }
  | some a =>
    { warnings := sections ++ unknownLabel settings.analyzer.fallbackEncoding
      outcome :=
        match a.analyze t with
        | .ok report => .ok report
        | .error _ => .error target.analysisMessage }

/-- The report of several targets. -/
def scanTargets (t : FileTree) (settings : Settings) (chosen : Option (List String))
    (excludes : List String) : List Target → Logged BatchReport
  | [] => { outcome := .ok {} }
  | target :: rest =>
    (scanTarget t settings chosen excludes target).andThen fun report =>
      (scanTargets t settings chosen excludes rest).andThen fun others =>
        { outcome := .ok (report.append others) }

/-- The directories among the paths, and then all files as one batch, if there are any. -/
def targets (t : FileTree) (paths listed : List String) : List Target :=
  let files := (paths.filter fun path => !t.isDirectory path) ++ listed
  (paths.filter t.isDirectory).map .directory ++ if files.isEmpty then [] else [.files files]

/-- The report of a check. -/
def run (t : FileTree) (e : Environment) (settingsFile : Option String) (o : CheckOptions) :
    Logged BatchReport :=
  (settings t (Settings.locate? t e settingsFile (o.paths ++ o.projects))).andThen fun settings =>
    let chosen := o.rules.map Rule.chosenNames
    let named : Logged Unit :=
      { warnings := unknownNames (chosen.getD []), outcome := .ok () }
    named.andThen fun _ =>
      (filesOfProjects t o.projects).andThen fun listed =>
        scanTargets t settings chosen o.excludes (targets t o.paths listed)

end Check
end StyleScan
