/-!
# StyleScan.Kind

The kinds of breach that a scan reports, each with its three public names.

* `Kind.code`     — the short code, `MF000` to `MF006`.
* `Kind.ruleName` — the name of the rule that reports it, as used in settings and on the command
  line.
* `Kind.tag`      — the name in machine-readable reports. It differs from `Kind.ruleName` for
  `Kind.identifierTooShort` only.
-/

namespace StyleScan

/-- What a violation complains about. -/
inductive Kind where
  | fileNotFound
  | fileTooLong
  | lineTooWide
  | oneStatementPerLine
  | oneLinePerStatement
  | methodTooLong
  | identifierTooShort
deriving DecidableEq, Repr, Inhabited

namespace Kind

/-- Every kind, in the order of the codes. -/
def all : List Kind :=
  [fileNotFound, fileTooLong, lineTooWide, oneStatementPerLine, oneLinePerStatement,
    methodTooLong, identifierTooShort]

theorem mem_all (k : Kind) : k ∈ all := by
  cases k <;> decide

/-- The short code of a kind. -/
def code : Kind → String
  | fileNotFound => "MF000"
  | fileTooLong => "MF001"
  | lineTooWide => "MF002"
  | oneStatementPerLine => "MF003"
  | oneLinePerStatement => "MF004"
  | methodTooLong => "MF005"
  | identifierTooShort => "MF006"

/-- The name of the rule that reports a kind. -/
def ruleName : Kind → String
  | fileNotFound => "file-not-found"
  | fileTooLong => "file-too-long"
  | lineTooWide => "line-too-wide"
  | oneStatementPerLine => "one-statement-per-line"
  | oneLinePerStatement => "one-line-per-statement"
  | methodTooLong => "method-too-long"
  | identifierTooShort => "identifier-too-short"

/-- The name of a kind in machine-readable reports. -/
def tag : Kind → String
  | identifierTooShort => "variable-too-short"
  | k => k.ruleName

/-- Reads a kind by its exact tag. -/
def ofTag? (s : String) : Option Kind := all.find? fun k => k.tag == s

theorem ofTag?_tag (k : Kind) : ofTag? k.tag = some k := by
  cases k <;> decide

end Kind
end StyleScan
