import StyleScan.Severity
import StyleScan.Toml.Document

/-!
# StyleScan.Settings

What a run is set up with: which files are scanned, and how each rule is configured.

* `AnalyzerSettings` — the choice of files and how they are read.
* `RuleSettings`     — one rule's section: on or off, a severity, and its options.
* `Settings.parse?`  — the settings of a TOML document. Keys that are not known are ignored; a key
  of the wrong type makes the whole document unusable.
* `RuleSettings.count`, `RuleSettings.texts?`, … — options by type, with their defaults.
-/

namespace StyleScan

namespace Toml.Value

/-- Reads a text. -/
def text? : Value → Option String
  | str s => some s
  | _ => none

/-- Reads a truth value. -/
def bool? : Value → Option Bool
  | bool b => some b
  | _ => none

/-- Reads an integer. -/
def int? : Value → Option Int
  | int n => some n
  | _ => none

/-- Reads an integer between two bounds. -/
def intWithin? (low high : Int) (v : Value) : Option Int :=
  v.int?.bind fun n => if low ≤ n ∧ n ≤ high then some n else none

/-- Reads an integer that is not negative. -/
def count? : Value → Option Nat
  | int n => if 0 ≤ n then some n.toNat else none
  | _ => none

/-- Reads an array of texts and nothing else. -/
def texts? : Value → Option (List String)
  | array items => items.mapM text?
  | _ => none

/-- Reads a severity: its name, or a table whose only field has that name and is empty. -/
def severity? : Value → Option Severity
  | str s => Severity.ofName? s
  | table [(name, array [])] => Severity.ofName? name
  | table [(name, table [])] => Severity.ofName? name
  | _ => none

/-- The field that a date or a time has where a table is expected. -/
def dateField : String := "$__toml_private_datetime"

/-- The fields of a value that stands for a record. A date or a time is a record of one field. -/
def fields? : Value → Option Table
  | table fields => some fields
  | dateTime t => some [(dateField, str t.text)]
  | _ => none

end Toml.Value

open Toml (Value Table)

/-- Which files are scanned, and how they are read. -/
structure AnalyzerSettings where
  /-- The directory to scan. -/
  root : String := "."
  /-- Patterns of the files to leave out. -/
  exclude : List String := ["**/bin/**", "**/obj/**"]
  /-- The extensions of the files to scan, without the dot. -/
  extensions : List String := ["cs"]
  respectGitignore : Bool := true
  /-- The number of workers, or the number that suits the machine. -/
  parallelism : Option Nat := none
  /-- The label of the encoding of files without a byte-order mark. -/
  fallbackEncoding : String := "windows-1252"
deriving DecidableEq, Repr, Inhabited

namespace AnalyzerSettings

/-- Reads a setting: its default when it is missing, nothing when it has the wrong type. -/
def setting? {α : Type} (read : Value → Option α) (default : α) : Option Value → Option α
  | none => some default
  | some v => read v

/-- The names of the settings, in the order in which a list of settings gives them. -/
def keys : List String :=
  ["root", "exclude", "extensions", "respect_gitignore", "parallelism", "fallback_encoding"]

/-- The settings of a list of values in the order of `keys`. A document that has this section
excludes nothing unless it says so. -/
def ofValues? : List (Option Value) → Option AnalyzerSettings
  | [root, exclude, extensions, respectGitignore, parallelism, fallbackEncoding] => do
    let root ← setting? Value.text? "." root
    let exclude ← setting? Value.texts? [] exclude
    let extensions ← setting? Value.texts? ["cs"] extensions
    let respectGitignore ← setting? Value.bool? true respectGitignore
    let parallelism ← setting? (fun v => v.count?.map some) none parallelism
    let fallbackEncoding ← setting? Value.text? "windows-1252" fallbackEncoding
    return { root, exclude, extensions, respectGitignore, parallelism, fallbackEncoding }
  | _ => none

/-- Reads the section: a table of settings, or a list of them in the order of `keys`. -/
def ofValue? : Value → Option AnalyzerSettings
  | .array items => ofValues? ((List.range keys.length).map fun i => items[i]?)
  | v => v.fields?.bind fun fields => ofValues? (keys.map fun key => fields.get? key)

end AnalyzerSettings

/-- One rule's section. -/
structure RuleSettings where
  enabled : Option Bool := none
  severity : Option Severity := none
  /-- Every other key of the section. -/
  options : Table := []
deriving Inhabited, Repr

namespace RuleSettings

/-- Reads a rule's section. -/
def ofValue? (v : Value) : Option RuleSettings := do
  let fields ← v.fields?
  let enabled ← AnalyzerSettings.setting? (fun v => v.bool?.map some) none (fields.get? "enabled")
  let severity ←
    AnalyzerSettings.setting? (fun v => v.severity?.map some) none (fields.get? "severity")
  let options := fields.filter fun field => field.1 != "enabled" && field.1 != "severity"
  return { enabled, severity, options }

/-- An option by type; absent when it is missing or of another type. -/
def option? {α : Type} (read : Value → Option α) (r : RuleSettings) (key : String) : Option α :=
  (r.options.get? key).bind read

/-- A truth value, or a default. -/
def flag (r : RuleSettings) (key : String) (default : Bool) : Bool :=
  (r.option? Value.bool? key).getD default

/-- An integer, or a default. -/
def integer (r : RuleSettings) (key : String) (default : Int) : Int :=
  (r.option? Value.int? key).getD default

/-- An integer that is not negative, or a default. -/
def count (r : RuleSettings) (key : String) (default : Nat) : Nat :=
  (r.option? Value.count? key).getD default

/-- The texts of an array; items of other types are left out. -/
def texts? (r : RuleSettings) (key : String) : Option (List String) :=
  match r.options.get? key with
  | some (.array items) => some (items.filterMap Value.text?)
  | _ => none

end RuleSettings

/-- The settings of a run. -/
structure Settings where
  analyzer : AnalyzerSettings := {}
  /-- The rules' sections by name. -/
  rules : List (String × RuleSettings) := []
deriving Inhabited, Repr

namespace Settings

/-- Reads every rule's section. -/
def sections? : Table → Option (List (String × RuleSettings))
  | [] => some []
  | (name, v) :: rest => do
    let one ← RuleSettings.ofValue? v
    let others ← sections? rest
    return (name, one) :: others

/-- The settings of a document's table. -/
def ofTable? (t : Table) : Option Settings := do
  let analyzer ← AnalyzerSettings.setting? AnalyzerSettings.ofValue? {} (t.get? "analyzer")
  let rules ← match t.get? "rules" with
    | none => some []
    | some v => v.fields?.bind sections?
  return { analyzer, rules }

/-- The settings of a document. -/
def parse? (text : String) : Option Settings := (Toml.parse? text).bind ofTable?

/-- The section of a rule, if there is one. -/
def section? (s : Settings) (rule : String) : Option RuleSettings :=
  (s.rules.find? fun entry => entry.1 == rule).map Prod.snd

/-- The section of a rule, empty if there is none. -/
def rule (s : Settings) (rule : String) : RuleSettings := (s.section? rule).getD {}

/-- Whether a rule runs. -/
def isEnabled (s : Settings) (rule : String) : Bool := (s.rule rule).enabled.getD true

/-- The severity that the settings give to a rule's violations, if any. -/
def severity? (s : Settings) (rule : String) : Option Severity := (s.rule rule).severity

end Settings
end StyleScan
