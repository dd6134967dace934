import StyleScan.Json
import StyleScan.Report

/-!
# StyleScan.Report.Stored

Reports as machine-readable values, written and read back.

* `BatchReport.toJson`  — the stored form of a batch.
* `BatchReport.ofJson?` — reads a stored batch. Fields that are not known are ignored; a missing or
  null line or suggestion is absent; everything else is required. A record may also be stored as the
  list of its fields in order, and a name as an object whose only field, of that name, is null.
-/

namespace StyleScan

namespace Json

/-- The fields of a record by name, or in order when the record is stored as a list. -/
def record (names : List String) : Json → Option (List (Option Json))
  | obj fields => some (names.map fun name => lookup name fields)
  | arr items =>
    if items.length ≤ names.length then
      some (items.map some ++ List.replicate (names.length - items.length) none)
    else none
  | _ => none

/-- Reads a text. -/
def text? : Json → Option String
  | str s => some s
  | _ => none

/-- The largest number that a stored count or line can have. -/
def maxCount : Nat := 0xFFFFFFFFFFFFFFFF

/-- Reads a count of at most 64 bits. -/
def count? : Json → Option Nat
  | int n => if 0 ≤ n ∧ n ≤ maxCount then some n.toNat else none
  | _ => none

/-- Reads one of a fixed set of names. -/
def name? : Json → Option String
  | str s => some s
  | obj [(key, null)] => some key
  | _ => none

/-- Reads an optional value: absent when it is missing or null. -/
def optional {α : Type} (read : Json → Option α) : Option Json → Option (Option α)
  | none => some none
  | some null => some none
  | some value => (read value).map some

/-- Reads every item of a list. -/
def list? {α : Type} (read : Json → Option α) : Json → Option (List α)
  | arr items => items.mapM read
  | _ => none

end Json

namespace Violation

/-- The stored form of a suggestion. -/
def suggestionJson (message : String) : Json := .obj [("message", .str message)]

/-- Reads a stored suggestion. -/
def suggestionOf? (value : Json) : Option String :=
  match value.record ["message"] with
  | some [some message] => message.text?
  | _ => none

/-- The stored form of a line number. -/
def lineJson : Option Nat → Json
  | some line => .int line
  | none => .null

/-- The stored form of a violation; a suggestion is left out when there is none. -/
def toJson (v : Violation) : Json :=
  .obj (
    [("kind", .str v.kind.tag), ("severity", .str v.severity.name),
      ("line", lineJson v.line),
      ("message", .str v.message), ("source_line", .str v.sourceLine)]
    ++ match v.suggestion with
      | some message => [("suggestion", suggestionJson message)]
      | none => [])

/-- Reads a stored violation. -/
def ofJson? (value : Json) : Option Violation :=
  match value.record ["kind", "severity", "line", "message", "source_line", "suggestion"] with
  | some [some kind, some severity, line, some message, some sourceLine, suggestion] => do
    let kind ← kind.name?.bind Kind.ofTag?
    let severity ← severity.name?.bind Severity.ofName?
    let line ← Json.optional Json.count? line
    let message ← message.text?
    let sourceLine ← sourceLine.text?
    let suggestion ← Json.optional suggestionOf? suggestion
    return { kind, severity, line, message, sourceLine, suggestion }
  | _ => none

end Violation

namespace FileReport

/-- The stored form of a file's report. -/
def toJson (r : FileReport) : Json :=
  .obj [("file", .str r.file), ("violations", .arr (r.violations.map Violation.toJson))]

/-- Reads the stored report of a file. -/
def ofJson? (value : Json) : Option FileReport :=
  match value.record ["file", "violations"] with
  | some [some file, some violations] => do
    let file ← file.text?
    let violations ← violations.list? Violation.ofJson?
    return { file, violations }
  | _ => none

end FileReport

namespace BatchReport

/-- The stored form of a batch. -/
def toJson (b : BatchReport) : Json :=
  .obj [("results", .arr (b.results.map FileReport.toJson)), ("files_checked", .int b.filesChecked)]

/-- Reads a stored batch. -/
def ofJson? (value : Json) : Option BatchReport :=
  match value.record ["results", "files_checked"] with
  | some [some results, some filesChecked] => do
    let results ← results.list? FileReport.ofJson?
    let filesChecked ← filesChecked.count?
    return { results, filesChecked }
  | _ => none

end BatchReport
end StyleScan
