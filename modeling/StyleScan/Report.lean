import StyleScan.Violation

/-!
# StyleScan.Report

The outcome of scanning one file, and of scanning many.

* `FileReport`        — the violations of one file, in the order in which they were found.
* `BatchReport`       — the reports of many files, in the order in which they were scanned.
* `BatchReport.tally` — the numbers of errors, warnings and infos.
* `BatchReport.reaches` — whether some violation is at least as grave as a severity.
-/

namespace StyleScan

/-- The violations found in one file. -/
structure FileReport where
  file : String
  violations : List Violation := []
deriving DecidableEq, Repr, Inhabited

namespace FileReport

/-- Whether nothing was found. -/
def isClean (r : FileReport) : Bool := r.violations.isEmpty

/-- The number of violations of a kind. -/
def count (r : FileReport) (kind : Kind) : Nat := r.violations.countP fun v => v.kind == kind

/-- The kinds that were found, each with its number of violations, in the order of the codes. -/
def counts (r : FileReport) : List (Kind × Nat) :=
  (Kind.all.map fun kind => (kind, r.count kind)).filter fun entry => entry.2 != 0

/-- Gives every violation the severity that `severity` sets for its kind, if any. -/
def override (severity : Kind → Option Severity) (r : FileReport) : FileReport :=
  { r with violations :=
      r.violations.map fun v => { v with severity := (severity v.kind).getD v.severity } }

end FileReport

/-- The number of violations of each severity. -/
structure Tally where
  errors : Nat := 0
  warnings : Nat := 0
  infos : Nat := 0
deriving DecidableEq, Repr

namespace Tally

/-- Counts one more violation. -/
def add (t : Tally) : Severity → Tally
  | .error => { t with errors := t.errors + 1 }
  | .warning => { t with warnings := t.warnings + 1 }
  | .info => { t with infos := t.infos + 1 }

end Tally

/-- The outcome of scanning a batch of files. -/
structure BatchReport where
  results : List FileReport := []
  filesChecked : Nat := 0
deriving DecidableEq, Repr, Inhabited

namespace BatchReport

/-- Adds the report of one more file. -/
def push (b : BatchReport) (r : FileReport) : BatchReport :=
  { results := b.results ++ [r], filesChecked := b.filesChecked + 1 }

/-- The batch that holds the given reports. -/
def ofReports (rs : List FileReport) : BatchReport :=
  { results := rs, filesChecked := rs.length }

/-- Adds another batch. -/
def append (b c : BatchReport) : BatchReport :=
  { results := b.results ++ c.results, filesChecked := b.filesChecked + c.filesChecked }

/-- Every violation with the name of its file. -/
def violations (b : BatchReport) : List (String × Violation) :=
  b.results.flatMap fun r => r.violations.map fun v => (r.file, v)

/-- Whether every file is clean. -/
def isClean (b : BatchReport) : Bool := b.results.all FileReport.isClean

/-- The number of violations. -/
def count (b : BatchReport) : Nat := b.violations.length

/-- Whether some violation is at least as grave as `severity`. -/
def reaches (b : BatchReport) (severity : Severity) : Bool :=
  b.violations.any fun entry => severity ≤ entry.2.severity

/-- Whether some violation is an error. -/
def hasErrors (b : BatchReport) : Bool := b.reaches .error

/-- The numbers of errors, warnings and infos. -/
def tally (b : BatchReport) : Tally :=
  b.violations.foldl (fun t entry => t.add entry.2.severity) {}

end BatchReport
end StyleScan
