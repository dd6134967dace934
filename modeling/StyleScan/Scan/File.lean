import StyleScan.FileTree
import StyleScan.Report
import StyleScan.Stream

/-!
# StyleScan.Scan.File

Scanning the files of a tree.

* `Rule.scanFile`  — the report of one file; a file that does not exist has one violation.
* `Rule.scanFiles` — the report of several files, in the order given.
-/

namespace StyleScan

/-- A file that exists and cannot be read. -/
structure ReadFailure where
  path : String
  reason : String
deriving DecidableEq, Repr, Inhabited

/-- The wording of a failure. -/
def ReadFailure.message (f : ReadFailure) : String :=
  "Failed to read " ++ f.path ++ ": " ++ f.reason

namespace Rule

/-- The report of one file. A file that does not exist is reported as a violation; one that cannot
be read is a failure. -/
def scanFile (rules : List Rule) (standard : Charset) (t : FileTree) (path : String) :
    Except ReadFailure FileReport :=
  match t.read path with
  | .error .notFound =>
    .ok { file := path, violations := [Violation.missingFile path Fault.notFound.message] }
  | .error fault => .error { path, reason := fault.message }
  | .ok bytes =>
    match scanSource rules standard [.bytes bytes] with
    | .ok violations => .ok { file := path, violations }
    | .error reason => .error { path, reason }

/-- The reports of files in the order given, or the first failure. -/
def reports (rules : List Rule) (standard : Charset) (t : FileTree) :
    List String → Except ReadFailure (List FileReport)
  | [] => .ok []
  | path :: rest =>
    match scanFile rules standard t path with
    | .error failure => .error failure
    | .ok report =>
      match reports rules standard t rest with
      | .error failure => .error failure
      | .ok others => .ok (report :: others)

/-- The report of several files under the default rules, or the first failure. -/
def scanFiles (t : FileTree) (paths : List String) : Except ReadFailure BatchReport :=
  (reports defaults .standard t paths).map BatchReport.ofReports

end Rule
end StyleScan
