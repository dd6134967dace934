import StyleScan.Text.Blank
import StyleScan.Text.Search

/-!
# StyleScan.Lexical.State

The lexical automaton that every rule observes. It is advanced one character at a time:
`State.enter` brings the literals, directives and comments up to date for a character, then the
rules look at it, then `State.leave` prepares for the next one.

* `Step`             — what a character is to the rules: a line end, code, or nothing.
* `State`            — the automaton's state, with the text of the current line.
* `State.mark`       — the transitions of literals, directives and comments.
* `State.classify`   — the step of a character once its transitions are made.
* `State.run`        — the state after a whole text.
* `State.trace`      — the state in which each character of a text is observed.
-/

namespace StyleScan
namespace Lexical

/-- Stands for "nothing seen yet on this line". -/
def lineStart : Char := '\r'

/-- How the rules take a character: the end of a line, code (blanks between code included), or a
character of a comment or of the marks around literals and comments. -/
inductive Step where
  | lineEnd
  | code
  | skip
deriving DecidableEq, Repr, Inhabited

/-- The lexical state of a scan. -/
structure State where
  /-- The character before the current one. -/
  previous : Char := lineStart
  /-- The last character of code on the current line, blanks and literals left out. -/
  lastSignificant : Char := lineStart
  inChar : Bool := false
  inString : Bool := false
  /-- From a hash sign to the end of its line. -/
  inDirective : Bool := false
  /-- The previous character is a backslash that is not itself escaped. -/
  escaped : Bool := false
  /-- Inside a comment of either form. -/
  inComment : Bool := false
  /-- Inside a comment that lasts beyond the end of the line. -/
  inBlock : Bool := false
  /-- The current line up to the current character. -/
  currentLine : String := ""
  /-- Only blanks so far on the current line. -/
  blankLine : Bool := true
  lineNumber : Nat := 1
  /-- The current character is a mark around a literal, directive or comment. -/
  claimed : Bool := false
  step : Step := .skip
deriving DecidableEq, Repr, Inhabited

namespace State

/-- Inside a character literal, a string literal or a directive. -/
def inLiteral (s : State) : Bool := s.inChar || s.inString || s.inDirective

/-- A quote opens or closes a character literal unless it is escaped or inside a string. -/
def toggleChar (s : State) : State :=
  if s.escaped || s.inString then { s with claimed := false }
  else { s with inChar := !s.inChar, claimed := true }

/-- A double quote opens or closes a string unless it is inside a character literal. -/
def toggleString (s : State) : State :=
  if s.inChar then { s with claimed := false }
  else { s with inString := !s.inString, claimed := true }

/-- A hash sign outside character and string literals starts a directive. -/
def enterDirective (s : State) : State :=
  if s.inChar || s.inString then { s with claimed := false }
  else { s with inDirective := true, claimed := true }

/-- A slash outside literals opens a line comment behind a slash and closes every comment behind
a star. -/
def markSlash (s : State) : State :=
  if s.inLiteral then { s with claimed := false }
  else if s.previous == '/' then { s with inComment := true, claimed := true }
  else if s.previous == '*' then { s with inBlock := false, inComment := false, claimed := true }
  else { s with claimed := false }

/-- A star outside literals opens a block comment behind a slash. -/
def markStar (s : State) : State :=
  if s.inLiteral || s.previous != '/' then { s with claimed := false }
  else { s with inBlock := true, inComment := true, claimed := true }

/-- The transition that a character makes among literals, directives and comments. -/
def mark (s : State) (c : Char) : State :=
  if c = '\'' then s.toggleChar
  else if c = '"' then s.toggleString
  else if c = '#' then s.enterDirective
  else if c = '/' then s.markSlash
  else if c = '*' then s.markStar
  else { s with claimed := false }

/-- The step of a character whose transition is made. A slash behind a blank is no code, since it
may open a comment. -/
def classify (s : State) (c : Char) : Step :=
  if c = '\n' then .lineEnd
  else if s.claimed || s.inComment || s.inBlock || (c == '/' && Text.isBlank s.previous) then .skip
  else .code

/-- Appends a character to the current line. -/
def push (s : State) (c : Char) : State :=
  { s with currentLine := s.currentLine.push c, blankLine := s.blankLine && Text.isBlank c }

/-- Records the step of a character, and the character itself if it is significant. -/
def settle (s : State) (c : Char) : State :=
  let step := s.classify c
  if step = .code ∧ Text.isBlank c = false ∧ s.inLiteral = false then
    { s with step, lastSignificant := c }
  else { s with step }

/-- The state in which the rules observe a character. -/
def enter (s : State) (c : Char) : State := ((s.push c).mark c).settle c

/-- Forgets the line that a line feed has ended; a comment goes on only if it is a block. -/
def endLine (s : State) : State :=
  { s with
    inComment := s.inBlock
    blankLine := true
    currentLine := ""
    lineNumber := s.lineNumber + 1
    inChar := false
    inString := false
    inDirective := false
    lastSignificant := lineStart }

/-- The state after a character that the rules have observed. -/
def leave (s : State) (c : Char) : State :=
  let t := if c = '\n' then s.endLine else s
  { t with previous := c, escaped := !s.escaped && c == '\\', claimed := false }

/-- Takes one character. -/
def advance (s : State) (c : Char) : State := (s.enter c).leave c

/-- Takes a whole text. -/
def run (s : State) (cs : List Char) : State := cs.foldl advance s

@[simp] theorem run_nil (s : State) : s.run [] = s := rfl

@[simp] theorem run_cons (s : State) (c : Char) (cs : List Char) :
    s.run (c :: cs) = (s.advance c).run cs := rfl

theorem run_append (s : State) (as bs : List Char) : s.run (as ++ bs) = (s.run as).run bs :=
  List.foldl_append

/-- The characters of a text, each with the state in which it is observed. -/
def trace (s : State) : List Char → List (Char × State)
  | [] => []
  | c :: cs => (c, s.enter c) :: (s.advance c).trace cs

theorem trace_append (s : State) (as bs : List Char) :
    s.trace (as ++ bs) = s.trace as ++ (s.run as).trace bs := by
  induction as generalizing s with
  | nil => rfl
  | cons c cs ih => simp [trace, ih]

/-- Whether the current line, whose first character of code is `first`, calls a base or sibling
constructor. -/
def opensInitializer (s : State) (first : Char) : Bool :=
  let line := s.currentLine.toList
  first == ':' && (Text.contains "base".toList line || Text.contains "this".toList line)
    && line.contains '('

end State
end Lexical
end StyleScan
