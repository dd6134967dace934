import StyleScan.Lexical.State
import StyleScan.Violation

/-!
# StyleScan.Rule.LineWidth

The rule that limits the width of a line. A tab is `tabWidth` columns wide, a carriage return and
a NUL none, every other character one. Text never starts left of its baseline: at the first
character that is neither blank nor NUL the width is raised to the indentation of the open braces.

* `LineWidth.columns` — the width of one character.
* `LineWidth.check`   — observes one character, of code or not.
* `LineWidth.endLine` — reports the line if it is too wide.
-/

namespace StyleScan
namespace Rule

open Lexical (State Step)

/-- The rule with its limits and the width of the current line. -/
structure LineWidth where
  maxWidth : Nat := 128
  tabWidth : Nat := 4
  indentWidth : Nat := 4
  width : Nat := 0
  /-- The indentation of the open braces; negative when more were closed than opened. -/
  indentation : Int := 0
  /-- Nothing but blanks so far on the current line. -/
  atStart : Bool := true
deriving DecidableEq, Repr

namespace LineWidth

/-- The rule with the same limits, before any text. -/
def fresh (r : LineWidth) : LineWidth :=
  { maxWidth := r.maxWidth, tabWidth := r.tabWidth, indentWidth := r.indentWidth }

/-- The columns that a character takes. -/
def columns (r : LineWidth) (c : Char) : Nat :=
  if c = '\r' ∨ c = '\x00' then 0 else if c = '\t' then r.tabWidth else 1

/-- A line as it is shown: every space is a dot. -/
def dotted (line : String) : String :=
  String.ofList (line.toList.map fun c => if c = ' ' then '.' else c)

/-- The violation of the current line. -/
def violation (r : LineWidth) (s : State) : Violation :=
  .make .lineTooWide (some s.lineNumber)
    ("Line is " ++ toString r.width ++ " characters wide (max: " ++ toString r.maxWidth ++ ")")
    (dotted s.currentLine)
    (some "Break the line up or reduce its nesting")

/-- Reports the current line if it is too wide, and starts the next one. -/
def endLine (r : LineWidth) (s : State) : LineWidth × List Violation :=
  ({ r with width := 0, atStart := true }, if r.maxWidth < r.width then [r.violation s] else [])

/-- Raises the width to the baseline at the start of a line's text. -/
def align (r : LineWidth) : LineWidth :=
  if r.atStart then { r with width := max r.width r.indentation.toNat, atStart := false } else r

/-- Follows the braces outside literals and comments. -/
def indent (r : LineWidth) (c : Char) (s : State) : LineWidth :=
  if s.inLiteral || s.inComment then r
  else if c = '{' then { r with indentation := r.indentation + r.indentWidth }
  else if c = '}' then { r with indentation := r.indentation - r.indentWidth }
  else r

/-- Adds the columns of a character. -/
def widen (r : LineWidth) (c : Char) : LineWidth := { r with width := r.width + r.columns c }

/-- Counts a character, or ends the line. Comments and literals are as wide as code. -/
def check (r : LineWidth) (c : Char) (s : State) : LineWidth × List Violation :=
  if s.step = .lineEnd then r.endLine s
  else if Text.isBlank c ∨ c = '\x00' then (r.widen c, [])
  else ((r.align.indent c s).widen c, [])

/-- Judges the last line. -/
def close (r : LineWidth) (s : State) : LineWidth × List Violation := r.endLine s

end LineWidth
end Rule
end StyleScan
