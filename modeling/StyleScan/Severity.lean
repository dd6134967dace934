/-!
# StyleScan.Severity

How grave a violation is.

* `Severity`        — `info`, `warning` and `error`, in increasing order.
* `Severity.name`   — the lower-case name used in settings and reports.
* `Severity.ofName?` — reads exactly those names.
-/

namespace StyleScan

/-- The gravity of a violation; only errors fail a run. -/
inductive Severity where
  | info
  | warning
  | error
deriving DecidableEq, Repr, Inhabited

namespace Severity

/-- Position in the order of gravity. -/
def rank : Severity → Nat
  | info => 0
  | warning => 1
  | error => 2

instance : LE Severity := ⟨fun a b => a.rank ≤ b.rank⟩

instance (a b : Severity) : Decidable (a ≤ b) := inferInstanceAs (Decidable (a.rank ≤ b.rank))

/-- The name of a severity in settings and reports. -/
def name : Severity → String
  | info => "info"
  | warning => "warning"
  | error => "error"

/-- Reads a severity by its exact name. -/
def ofName? (s : String) : Option Severity :=
  [info, warning, error].find? fun v => v.name == s

theorem ofName?_name (v : Severity) : ofName? v.name = some v := by
  cases v <;> decide

end Severity
end StyleScan
