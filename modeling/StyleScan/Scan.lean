import StyleScan.Rule

/-!
# StyleScan.Scan

A list of rules run over a text, character by character.

* `Scan`           — a scan on its way: the lexical state, the rules and the violations so far.
* `Scan.feed`      — takes one character: every rule observes it, in order.
* `Scan.finish`    — closes every rule, in order, and gives all violations.
* `Rule.scanText`  — the violations of a whole text under fresh copies of the rules.
-/

namespace StyleScan

open Lexical (State)

namespace Rule

/-- Lets every rule observe a character, in order, and gathers what they report. -/
def checkAll (c : Char) (s : State) : List Rule → List Rule × List Violation
  | [] => ([], [])
  | r :: rs =>
    let one := r.check c s
    let others := checkAll c s rs
    (one.1 :: others.1, one.2 ++ others.2)

/-- Closes every rule, in order, and gathers what they report. -/
def closeAll (s : State) : List Rule → List Rule × List Violation
  | [] => ([], [])
  | r :: rs =>
    let one := r.close s
    let others := closeAll s rs
    (one.1 :: others.1, one.2 ++ others.2)

end Rule

/-- A scan on its way through a text. -/
structure Scan where
  state : State := {}
  rules : List Rule
  /-- The violations so far, in the order in which they were found. -/
  found : Array Violation := #[]

namespace Scan

/-- A scan at the start of a text, with the rules as they are. -/
def start (rules : List Rule) : Scan := { rules }

/-- Takes one character. -/
def feed (scan : Scan) (c : Char) : Scan :=
  let state := scan.state.enter c
  let checked := Rule.checkAll c state scan.rules
  { state := state.leave c, rules := checked.1, found := scan.found ++ checked.2 }

/-- Takes a text. -/
def feedText (scan : Scan) (cs : List Char) : Scan := cs.foldl feed scan

@[simp] theorem feedText_nil (scan : Scan) : scan.feedText [] = scan := rfl

@[simp] theorem feedText_cons (scan : Scan) (c : Char) (cs : List Char) :
    scan.feedText (c :: cs) = (scan.feed c).feedText cs := rfl

theorem feedText_append (scan : Scan) (as bs : List Char) :
    scan.feedText (as ++ bs) = (scan.feedText as).feedText bs :=
  List.foldl_append

/-- The lexical state of a scan does not depend on its rules. -/
theorem state_feedText (scan : Scan) (cs : List Char) :
    (scan.feedText cs).state = scan.state.run cs := by
  induction cs generalizing scan with
  | nil => rfl
  | cons c cs ih => simp [ih, feed, State.advance]

/-- Adds a violation found by other means. -/
def report (scan : Scan) (v : Violation) : Scan := { scan with found := scan.found.push v }

/-- Replaces every rule by its fresh copy. -/
def refresh (scan : Scan) : Scan := { scan with rules := scan.rules.map Rule.fresh }

/-- Closes every rule at the end of the text. -/
def close (scan : Scan) : Scan :=
  let closed := Rule.closeAll scan.state scan.rules
  { scan with rules := closed.1, found := scan.found ++ closed.2 }

/-- All violations of a scan at the end of its text, in the order in which they were found. -/
def finish (scan : Scan) : List Violation := scan.close.found.toList

end Scan

/-- The violations of a text under fresh copies of the rules. -/
def Rule.scanText (rules : List Rule) (text : List Char) : List Violation :=
  ((Scan.start (rules.map Rule.fresh)).feedText text).finish

end StyleScan
