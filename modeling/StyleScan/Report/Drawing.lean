import StyleScan.Text.Width
import StyleScan.Violation

/-!
# StyleScan.Report.Drawing

A violation drawn over the line that it was found on.

* `Violation.draw` — the message, the place, the source line with marks under it, and the
  suggestion.
-/

namespace StyleScan
namespace Drawing

/-- The width to which tabs are drawn. -/
def tabWidth : Nat := 4

/-- A character as often as asked. -/
def times (n : Nat) (c : Char) : String := String.ofList (List.replicate n c)

/-- A source line with spaces for its tabs. -/
def expandTabs (line : List Char) : String :=
  String.ofList ((line.zip (Text.columns tabWidth line)).flatMap fun entry =>
    if entry.1 = '\t' then List.replicate entry.2 ' ' else [entry.1])

/-- The marks under a line of `width` columns, with a bar at its middle. -/
def marks (width : Nat) : String :=
  times (width / 2) '^' ++ "|" ++ times (width - width / 2 - 1) '^'

/-- The source line, the marks under it, and their label. An empty line is not drawn. -/
def sourceLines (line label : String) : String :=
  let width := max 1 (Text.width tabWidth line.toList)
  if line.isEmpty then ""
  else
    " 1 | " ++ expandTabs line.toList ++ "\n"
      ++ "   : " ++ marks width ++ "\n"
      ++ "   : " ++ times (width / 2) ' ' ++ "`-- " ++ label ++ "\n"

end Drawing

/-- A violation drawn over its source line. Every line is ended, and an empty one follows. -/
def Violation.draw (file : String) (v : Violation) : String :=
  let help := match v.suggestion with
    | some text => "  help: " ++ text ++ "\n"
    | none => ""
  "  x [" ++ v.code ++ "] " ++ v.message ++ "\n"
    ++ "   ,-[" ++ place file v ++ ":1:1]\n"
    ++ Drawing.sourceLines v.sourceLine v.rule
    ++ "   `----\n" ++ help ++ "\n"

end StyleScan
