import StyleScan.Lexical.State
import StyleScan.Violation

/-!
# StyleScan.Rule.StatementSpan

The rule that forbids a statement to span several lines. A line closes its statement when it holds
no code, or when its parentheses are balanced and it ends in `;`, `,` or a brace, or is an attribute
in square brackets. A line that ends in `)` is held back for one line: it is let off when the next
line calls a base or sibling constructor.

* `StatementSpan.check`   — observes one character.
* `StatementSpan.endLine` — judges the line before, if it was held back, and the current one.
* `StatementSpan.close`   — judges the last line.
-/

namespace StyleScan
namespace Rule

open Lexical (State Step lineStart)

/-- The rule with what it knows of the current line and of the line before. -/
structure StatementSpan where
  /-- Open parentheses minus closed ones on the current line. -/
  depth : Int := 0
  /-- The first character of code on the current line. -/
  first : Char := lineStart
  /-- The violation of the line before, when it is held back. -/
  pending : Option Violation := none
deriving DecidableEq, Repr

namespace StatementSpan

/-- The rule before any text. -/
def fresh (_ : StatementSpan) : StatementSpan := {}

/-- The last characters that close a statement; a line without code has `lineStart`. -/
def closers : List Char := [';', ',', '{', '}', lineStart]

/-- Whether a line with this last character of code closes its statement. -/
def isClosed (r : StatementSpan) (last : Char) : Bool :=
  r.depth ≤ 0 && (closers.contains last || (r.first == '[' && last == ']'))

/-- The violation of the current line. -/
def violation (s : State) : Violation :=
  .make .oneLinePerStatement (some s.lineNumber) "Statement does not end on this line"
    s.currentLine

/-- The held-back violation, unless the current line excuses it. -/
def release (r : StatementSpan) (s : State) : List Violation :=
  if s.opensInitializer r.first then [] else r.pending.toList

/-- Judges the held-back line and the current line, and starts the next one. -/
def endLine (r : StatementSpan) (s : State) : StatementSpan × List Violation :=
  if r.isClosed s.lastSignificant then ({}, r.release s)
  else if s.lastSignificant = ')' then ({ pending := some (violation s) }, r.release s)
  else ({}, r.release s ++ [violation s])

/-- Follows the parentheses and keeps the first character. -/
def count (r : StatementSpan) (c : Char) : StatementSpan :=
  let depth := if c = '(' then r.depth + 1 else if c = ')' then r.depth - 1 else r.depth
  { r with depth, first := if r.first = lineStart then c else r.first }

/-- Follows a character of code outside literals, or ends the line. -/
def check (r : StatementSpan) (c : Char) (s : State) : StatementSpan × List Violation :=
  match s.step with
  | .lineEnd => r.endLine s
  | .code => if Text.isBlank c || s.inLiteral then (r, []) else (r.count c, [])
  | .skip => (r, [])

/-- Judges the last line; nothing is held back beyond the end. -/
def close (r : StatementSpan) (s : State) : StatementSpan × List Violation :=
  let ended := r.endLine s
  ({ ended.1 with pending := none }, ended.2 ++ ended.1.pending.toList)

end StatementSpan
end Rule
end StyleScan
