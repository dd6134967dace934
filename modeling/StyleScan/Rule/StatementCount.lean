import StyleScan.Lexical.State
import StyleScan.Violation

/-!
# StyleScan.Rule.StatementCount

The rule that forbids two statements on one line. Semicolons and commas count outside parentheses,
angle brackets and braces, commas only up to the first colon of the line. A line fails with two
semicolons, or with a comma beyond the one that may end it.

* `StatementCount.check`   — observes one character.
* `StatementCount.endLine` — reports the line if it holds more than one statement.
-/

namespace StyleScan
namespace Rule

open Lexical (State Step)

/-- The rule with its counts on the current line. -/
structure StatementCount where
  commas : Nat := 0
  semicolons : Nat := 0
  /-- Open brackets minus closed ones; negative when more were closed. -/
  depth : Int := 0
  /-- A colon was seen. -/
  colon : Bool := false
deriving DecidableEq, Repr

namespace StatementCount

/-- The rule before any text. -/
def fresh (_ : StatementCount) : StatementCount := {}

/-- The violation of the current line. -/
def violation (s : State) : Violation :=
  .make .oneStatementPerLine (some s.lineNumber) "Line holds more than one statement" s.currentLine

/-- The counted commas that separate, when one comma may end the line. -/
def separators (r : StatementCount) (s : State) : Nat :=
  r.commas - (if s.lastSignificant = ',' then 1 else 0)

/-- Judges the current line and starts the next one. -/
def endLine (r : StatementCount) (s : State) : StatementCount × List Violation :=
  ({}, if 0 < r.separators s ∨ 1 < r.semicolons then [violation s] else [])

/-- Counts one character of code. -/
def count (r : StatementCount) (c : Char) : StatementCount :=
  if c = ',' then
    if r.depth < 1 ∧ r.colon = false then { r with commas := r.commas + 1 } else r
  else if c = ';' then
    if r.depth < 1 then { r with semicolons := r.semicolons + 1 } else r
  else if c = '{' ∨ c = '<' ∨ c = '(' then { r with depth := r.depth + 1 }
  else if c = '}' ∨ c = '>' ∨ c = ')' then { r with depth := r.depth - 1 }
  else if c = ':' then { r with colon := true }
  else r

/-- Counts a character of code outside literals, or ends the line. -/
def check (r : StatementCount) (c : Char) (s : State) : StatementCount × List Violation :=
  match s.step with
  | .lineEnd => r.endLine s
  | .code => if s.inLiteral then (r, []) else (r.count c, [])
  | .skip => (r, [])

/-- Judges the last line. -/
def close (r : StatementCount) (s : State) : StatementCount × List Violation := r.endLine s

end StatementCount
end Rule
end StyleScan
