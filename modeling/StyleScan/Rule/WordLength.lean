import StyleScan.Lexical.State
import StyleScan.Text.Alphanumeric
import StyleScan.Violation

/-!
# StyleScan.Rule.WordLength

The rule that asks for identifiers of a least length. Letters and digits gather into a word up to
the next blank of code or the end of the line; other characters neither end a word nor extend it. A
word that starts with a digit is a number, and exempt.

* `WordLength.check` — observes one character.
* `WordLength.flush` — ends a word, and reports it if it is too short.
-/

namespace StyleScan
namespace Rule

open Lexical (State Step)

/-- The rule with its limit, the short words it lets pass, and the current word. -/
structure WordLength where
  minLength : Nat := 3
  allowed : List String := ["if", "in", "as", "T"]
  word : String := ""
  length : Nat := 0
  /-- The current word starts with a digit. -/
  number : Bool := false
deriving DecidableEq, Repr

namespace WordLength

/-- The rule with the same options, before any text. -/
def fresh (r : WordLength) : WordLength := { minLength := r.minLength, allowed := r.allowed }

/-- Whether the current word is an identifier that is too short. -/
def tooShort (r : WordLength) : Bool :=
  !r.number && r.length < r.minLength && !r.allowed.contains r.word

/-- The violation of the current word. -/
def violation (r : WordLength) (s : State) : Violation :=
  .make .identifierTooShort (some s.lineNumber)
    ("Identifier '" ++ r.word ++ "' is " ++ toString r.length ++ " characters long (min: "
      ++ toString r.minLength ++ ")")
    s.currentLine
    (some "Use a descriptive name")

/-- Ends the current word, if there is one. -/
def flush (r : WordLength) (s : State) : WordLength × List Violation :=
  if r.length = 0 then (r, [])
  else ({ r with word := "", length := 0, number := false },
    if r.tooShort then [r.violation s] else [])

/-- Takes a character into the current word. -/
def extend (r : WordLength) (c : Char) : WordLength :=
  { r with
    word := r.word.push c
    length := r.length + 1
    number := if r.length = 0 then Text.isNumeric c || r.number else r.number }

/-- Takes a character of code outside literals, or ends the line. -/
def check (r : WordLength) (c : Char) (s : State) : WordLength × List Violation :=
  match s.step with
  | .lineEnd => r.flush s
  | .code =>
    if s.inLiteral then (r, [])
    else if Text.isBlank c then r.flush s
    else if Text.isAlphanumeric c then (r.extend c, [])
    else (r, [])
  | .skip => (r, [])

/-- Ends the last word. -/
def close (r : WordLength) (s : State) : WordLength × List Violation := r.flush s

end WordLength
end Rule
end StyleScan
