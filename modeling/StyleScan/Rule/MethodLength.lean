import StyleScan.Lexical.State
import StyleScan.Violation

/-!
# StyleScan.Rule.MethodLength

The rule that limits the length of a method's body. A line opens a method when, outside any method,
it holds both parentheses in balance and ends in an opening brace; the method lasts until a closing
brace takes the depth below the depth at the end of that line. In between, blank lines and lines
with code count.

* `MethodLength.check`      — observes one character.
* `MethodLength.closeBrace` — ends a method, and reports it if it is too long.
* `MethodLength.endLine`    — counts a line of a body, or opens a method.
-/

namespace StyleScan
namespace Rule

open Lexical (State Step)

/-- The rule with its limit, the open method and what it knows of the current line. -/
structure MethodLength where
  maxLines : Nat := 20
  /-- Open braces minus closed ones since the start of the text. -/
  braces : Int := 0
  /-- The depth at the end of the line that opened the method. -/
  start : Int := 0
  /-- The counted lines of the open method. -/
  length : Nat := 0
  inMethod : Bool := false
  /-- The current line opened a parenthesis outside any method. -/
  opened : Bool := false
  /-- The current line closed a parenthesis outside any method. -/
  closed : Bool := false
  /-- Open parentheses minus closed ones on the current line. -/
  depth : Int := 0
  /-- The current line holds code. -/
  hasCode : Bool := false
  /-- The line that opened the last method, and its number. -/
  openingLine : String := ""
  openingNumber : Nat := 0
deriving DecidableEq, Repr

namespace MethodLength

/-- The rule with the same limit, before any text. -/
def fresh (r : MethodLength) : MethodLength := { maxLines := r.maxLines }

/-- The violation of the open method. -/
def violation (r : MethodLength) : Violation :=
  .make .methodTooLong (some r.openingNumber)
    ("Method is " ++ toString r.length ++ " lines long (max: " ++ toString r.maxLines ++ ")")
    r.openingLine
    (some "Extract parts of the body into methods")

/-- Takes a closing brace, which may end the open method. -/
def closeBrace (r : MethodLength) : MethodLength × List Violation :=
  let braces := r.braces - 1
  if r.inMethod = true ∧ braces < r.start then
    ({ r with braces, inMethod := false, length := 0, start := 0 },
      if r.maxLines < r.length then [r.violation] else [])
  else ({ r with braces }, [])

/-- Forgets the current line. -/
def nextLine (r : MethodLength) : MethodLength :=
  { r with opened := false, closed := false, hasCode := false, depth := 0 }

/-- Whether the current line opens a method, when none is open. -/
def opensMethod (r : MethodLength) (s : State) : Bool :=
  s.lastSignificant == '{' && r.opened && r.closed && r.depth == 0

/-- Counts the current line in the open method, or opens one. -/
def endLine (r : MethodLength) (s : State) : MethodLength :=
  if r.inMethod then
    (if s.blankLine || r.hasCode then { r with length := r.length + 1 } else r).nextLine
  else if r.opensMethod s then
    { r with
      inMethod := true
      start := r.braces
      openingLine := s.currentLine
      openingNumber := s.lineNumber }.nextLine
  else r.nextLine

/-- Follows one character of code outside literals. -/
def count (r : MethodLength) (c : Char) : MethodLength × List Violation :=
  if c = '(' then ({ r with opened := r.opened || !r.inMethod, depth := r.depth + 1 }, [])
  else if c = ')' then ({ r with closed := r.closed || !r.inMethod, depth := r.depth - 1 }, [])
  else if c = '{' then ({ r with braces := r.braces + 1 }, [])
  else if c = '}' then r.closeBrace
  else (r, [])

/-- Follows a character of code, or ends the line. -/
def check (r : MethodLength) (c : Char) (s : State) : MethodLength × List Violation :=
  match s.step with
  | .lineEnd => (r.endLine s, [])
  | .code =>
    if Text.isBlank c then (r, [])
    else if s.inLiteral then ({ r with hasCode := true }, [])
    else { r with hasCode := true }.count c
  | .skip => (r, [])

/-- Ends a last line without a line feed; a method that is still open is not reported. -/
def close (r : MethodLength) (s : State) : MethodLength × List Violation :=
  (if s.currentLine.isEmpty then r else r.endLine s, [])

end MethodLength
end Rule
end StyleScan
