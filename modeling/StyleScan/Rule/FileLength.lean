import StyleScan.Lexical.State
import StyleScan.Violation

/-!
# StyleScan.Rule.FileLength

The rule that limits the number of code lines in a file. A line counts when it is blank from end to
end or holds code; a line of comments only is free, and so is a last line without a line feed.

* `FileLength.check` — observes one character.
* `FileLength.close` — reports the file if it holds too many lines.
-/

namespace StyleScan
namespace Rule

open Lexical (State Step)

/-- The rule with its limit and its count. -/
structure FileLength where
  maxLines : Nat := 700
  count : Nat := 0
  /-- The current line holds code. -/
  hasCode : Bool := false
deriving DecidableEq, Repr

namespace FileLength

/-- The rule with the same limit, before any text. -/
def fresh (r : FileLength) : FileLength := { maxLines := r.maxLines }

/-- Counts a line at its end, and notes code on the way there. -/
def check (r : FileLength) (c : Char) (s : State) : FileLength × List Violation :=
  match s.step with
  | .lineEnd =>
    let count := if s.blankLine || r.hasCode then r.count + 1 else r.count
    ({ r with count, hasCode := false }, [])
  | .code => if Text.isBlank c then (r, []) else ({ r with hasCode := true }, [])
  | .skip => (r, [])

/-- The violation of a file that is too long. -/
def violation (r : FileLength) : Violation :=
  .make .fileTooLong none
    ("File has " ++ toString r.count ++ " lines of code (max: " ++ toString r.maxLines ++ ")") ""
    (some "Split the file into smaller compilation units")

/-- Reports the file if it is too long. -/
def close (r : FileLength) (_ : State) : FileLength × List Violation :=
  (r, if r.maxLines < r.count then [r.violation] else [])

end FileLength
end Rule
end StyleScan
