import StyleScan.Encoding.Label
import StyleScan.FileTree.Walk
import StyleScan.Glob
import StyleScan.Scan.File
import StyleScan.Settings

/-!
# StyleScan.Analyzer

Scanning a batch of files: those that are named, or those that are found below a directory.

* `AnalyzerOptions`    — what is asked for, settings included.
* `Analyzer.build?`    — an analyzer, unless a pattern is malformed.
* `Analyzer.excludes`  — whether a file that was found is left out.
* `Analyzer.discover?` — the files below the root, in the order of their components.
* `Analyzer.analyze`   — the reports of all files, with the severities that the settings give.
-/

namespace StyleScan

/-- What is asked of an analyzer. -/
structure AnalyzerOptions where
  /-- The directory to search; the settings name one otherwise. -/
  root : Option String := none
  /-- Files to scan instead of searching for any. -/
  files : List String := []
  rules : List Rule := []
  /-- Patterns of files to leave out, besides those of the settings. -/
  excludes : List String := []
  /-- The extensions to scan; the settings name them otherwise. -/
  extensions : Option (List String) := none
  settings : Settings := {}

/-- Why an analysis stopped. -/
inductive AnalysisFault where
  /-- The root cannot be searched. -/
  | unwalkable
  | unreadable (failure : ReadFailure)
deriving DecidableEq, Repr, Inhabited

/-- A batch scan that is ready to run. -/
structure Analyzer where
  root : String
  files : List String
  rules : List Rule
  /-- The encoding of files without a byte-order mark. -/
  standard : Charset
  patterns : List Glob
  extensions : List String
  settings : Settings

namespace Analyzer

/-- The absolute form of a path, seen from a directory. -/
def absolute (directory path : String) : String :=
  if Path.isAbsolute path then path else Path.join directory path

/-- An analyzer for a run in `directory`. The patterns must all be well formed; rules that the
settings turn off are left out; an unknown encoding gives way to the standard one. -/
def build? (directory : String) (o : AnalyzerOptions) : Option Analyzer :=
  let a := o.settings.analyzer
  match (o.excludes ++ a.exclude).mapM Glob.parse? with
  | none => none
  | some patterns =>
    some
      { root := absolute directory (o.root.getD a.root)
        files := o.files
        rules := o.rules.filter fun r => o.settings.isEnabled r.name
        standard := (Charset.ofLabel? a.fallbackEncoding).getD .standard
        patterns
        extensions := o.extensions.getD a.extensions
        settings := o.settings }

/-- Whether a pattern matches the path of a file below the root, or its whole path. -/
def excludes (a : Analyzer) (names : List String) : Bool :=
  a.patterns.any fun pattern =>
    pattern.accepts (Path.descend a.root names) || pattern.accepts ("/".intercalate names)

/-- Whether a file has an extension that is scanned, in letters of any case. -/
def scansExtension (a : Analyzer) (path : String) : Bool :=
  match Path.extension? path with
  | some extension => a.extensions.any fun e => Text.sameLetters e extension
  | none => false

/-- The files below the root that are to be scanned, in the order of their components. -/
def discover? (a : Analyzer) (t : FileTree) : Option (List String) :=
  (t.walk? a.settings.analyzer.respectGitignore a.root).map fun found =>
    let chosen := found.filter fun names =>
      a.scansExtension (Path.descend a.root names) && !a.excludes names
    (chosen.map (Path.descend a.root)).mergeSort Path.le

/-- The files to scan: those that are named, or else those that are found. -/
def targets? (a : Analyzer) (t : FileTree) : Option (List String) :=
  if a.files.isEmpty then a.discover? t else some a.files

/-- Gives every violation of a file the severity that the settings give to its rule. -/
def judge (a : Analyzer) (r : FileReport) : FileReport :=
  r.override fun kind => a.settings.severity? kind.ruleName

/-- The reports of all files, or why the analysis stopped. -/
def analyze (a : Analyzer) (t : FileTree) : Except AnalysisFault BatchReport :=
  match a.targets? t with
  | none => .error .unwalkable
  | some paths =>
    match Rule.reports a.rules a.standard t paths with
    | .error failure => .error (.unreadable failure)
    | .ok reports => .ok (.ofReports (reports.map a.judge))

end Analyzer
end StyleScan
