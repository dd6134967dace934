import StyleScan.Report.Drawing
import StyleScan.Report.Stored

/-!
# StyleScan.Report.Format

The forms in which a batch is printed.

* `Format`             — the four forms, by name.
* `BatchReport.render` — the text of a batch in a form.
-/

namespace StyleScan

/-- The forms in which a batch is printed. -/
inductive Format where
  /-- Several lines for each violation, and a summary. -/
  | text
  /-- The stored form. -/
  | json
  /-- One line for each violation. -/
  | compact
  /-- Every violation drawn over its source line. -/
  | pretty
deriving DecidableEq, Repr, Inhabited

/-- The form of a name. -/
def Format.ofName? : String → Option Format
  | "text" => some text
  | "json" => some json
  | "compact" => some compact
  | "pretty" => some pretty
  | _ => none

namespace BatchReport

/-- The colour of a summary: red with errors, yellow with warnings, green otherwise. -/
def colour (t : Tally) : String :=
  if 0 < t.errors then "\x1b[31m" else if 0 < t.warnings then "\x1b[33m" else "\x1b[32m"

/-- The line that sums a batch up. -/
def summary (b : BatchReport) : String :=
  let t := b.tally
  colour t ++ "Found " ++ toString t.errors ++ " error(s), " ++ toString t.warnings
    ++ " warning(s), " ++ toString t.infos ++ " info(s) in " ++ toString b.filesChecked
    ++ " file(s)\x1b[0m\n"

/-- The text of a batch. -/
def render (b : BatchReport) : Format → String
  | .text =>
    String.join (b.violations.map fun entry => entry.2.describe entry.1 ++ "\n") ++ b.summary
  | .json => b.toJson.pretty 0 ++ "\n"
  | .compact =>
    String.join (b.violations.map fun entry => entry.1 ++ ":" ++ entry.2.summary ++ "\n")
  | .pretty => String.join (b.violations.map fun entry => entry.2.draw entry.1)

end BatchReport
end StyleScan
