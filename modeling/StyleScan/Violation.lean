import StyleScan.Severity
import StyleScan.Kind

/-!
# StyleScan.Violation

One breach of one rule, and its texts.

* `Violation.make`     — a violation of severity `error` whose source line has lost its line ending.
* `Violation.summary`  — the one-line form, `line: severity [code] message`.
* `Violation.describe` — the form of several lines that names the file.
* `Violation.place`    — `file:line`, or the file alone for a finding about the whole file.
-/

namespace StyleScan

/-- A breach found while scanning a file. `line` counts from one and is absent for a finding about
the whole file. -/
structure Violation where
  kind : Kind
  severity : Severity := .error
  line : Option Nat
  message : String
  sourceLine : String
  suggestion : Option String := none
deriving DecidableEq, Repr, Inhabited

namespace Violation

/-- A character that ends a line, or is half of a line ending. -/
def isLineEnding (c : Char) : Bool := c == '\r' || c == '\n'

/-- A text without the line endings behind it. -/
def stripLineEnding (s : String) : String :=
  String.ofList (s.toList.reverse.dropWhile isLineEnding).reverse

/-- A violation of severity `error`; the source line is kept without its line ending. -/
def make (kind : Kind) (line : Option Nat) (message sourceLine : String)
    (suggestion : Option String := none) : Violation :=
  { kind, line, message, sourceLine := stripLineEnding sourceLine, suggestion }

/-- The violation that stands for a file that does not exist. -/
def missingFile (path reason : String) : Violation :=
  make .fileNotFound none reason path

/-- The name of the rule that reported the violation. -/
def rule (v : Violation) : String := v.kind.ruleName

/-- The code of the violation. -/
def code (v : Violation) : String := v.kind.code

/-- The text that follows the file's name: `:line`, or nothing. -/
def lineSuffix (v : Violation) : String :=
  match v.line with
  | some line => ":" ++ toString line
  | none => ""

/-- Where the violation is, with the name of its file. -/
def place (file : String) (v : Violation) : String := file ++ v.lineSuffix

/-- The form of one line; a dash stands for a missing line number. -/
def summary (v : Violation) : String :=
  let line := match v.line with
    | some line => toString line
    | none => "-"
  line ++ ": " ++ v.severity.name ++ " [" ++ v.code ++ "] " ++ v.message

/-- The form of several lines: what and where, the message, the source line unless it is empty,
and the suggestion if there is one. Every line is ended. -/
def describe (file : String) (v : Violation) : String :=
  let source := if v.sourceLine.isEmpty then "" else "  | " ++ v.sourceLine ++ "\n"
  let help := match v.suggestion with
    | some text => "  = help: " ++ text ++ "\n"
    | none => ""
  v.code ++ " " ++ v.rule ++ " at " ++ place file v ++ "\n"
    ++ "  " ++ v.severity.name ++ ": " ++ v.message ++ "\n" ++ source ++ help

end Violation
end StyleScan
