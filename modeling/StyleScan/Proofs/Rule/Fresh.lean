import StyleScan.Proofs.Scan.LineBoundary

/-!
# StyleScan.Proofs.Rule.Fresh

A fresh copy of a rule is the rule as it was built, whatever has happened to the rule since.

* `Rule.Options`, `Rule.build` — the options of each built-in rule, and the rule before any text.
* `Rule.Event`        — a rule observes a character, or is closed, in any lexical state.
* `Rule.after`        — the rule after a history of events.
* `Rule.fresh_step`   — an event leaves every option as it is.
* `Rule.fresh_after`  — so does a history.
* `Rule.fresh_restores` — a fresh copy is the rule as built, and scans like it.
-/

namespace StyleScan
namespace Rule

open Lexical (State)

/-- The options of a built-in rule. -/
inductive Options where
  | fileLength (maxLines : Nat)
  | lineWidth (maxWidth tabWidth indentWidth : Nat)
  | statementCount
  | statementSpan
  | methodLength (maxLines : Nat)
  | wordLength (minLength : Nat) (allowed : List String)
deriving DecidableEq, Repr

/-- The rule with some options, before any text. -/
def build : Options → Rule
  | .fileLength maxLines => fileLength { maxLines }
  | .lineWidth maxWidth tabWidth indentWidth => lineWidth { maxWidth, tabWidth, indentWidth }
  | .statementCount => statementCount {}
  | .statementSpan => statementSpan {}
  | .methodLength maxLines => methodLength { maxLines }
  | .wordLength minLength allowed => wordLength { minLength, allowed }

/-- What happens to a rule. Nothing is asked of the lexical state: it need not belong to the
character, nor to the text of the event before. -/
inductive Event where
  | check (c : Char) (s : State)
  | close (s : State)
deriving DecidableEq, Repr

/-- The rule after one event. -/
def step (r : Rule) : Event → Rule
  | .check c s => (r.check c s).1
  | .close s => (r.close s).1

/-- The rule after a history of events; a rule that was closed may go on observing. -/
def after (r : Rule) (history : List Event) : Rule := history.foldl step r

/-! ## Options are kept -/

theorem MethodLength.fresh_endLine (r : MethodLength) (s : State) :
    (r.endLine s).fresh = r.fresh := by
  rw [endLine]
  split
  · split <;> rfl
  · split <;> rfl

theorem WordLength.fresh_flush (r : WordLength) (s : State) : (r.flush s).1.fresh = r.fresh := by
  rw [flush]
  split <;> rfl

theorem fresh_close (r : Rule) (s : State) : (r.close s).1.fresh = r.fresh := by
  -- only these two close in cases; what the others change is nothing that a fresh copy takes over
  cases r with
  | methodLength r =>
    simp only [close, MethodLength.close, Prod.map, fresh]
    split
    · rfl
    · rw [r.fresh_endLine s]
  | wordLength r => exact congrArg wordLength (r.fresh_flush s)
  | _ => rfl

theorem fresh_step (r : Rule) (e : Event) : (r.step e).fresh = r.fresh := by
  cases e with
  | check c s => exact r.fresh_check c s
  | close s => exact r.fresh_close s

theorem fresh_after (r : Rule) (history : List Event) : (r.after history).fresh = r.fresh := by
  induction history generalizing r with
  | nil => rfl
  | cons e history ih =>
    calc ((r.step e).after history).fresh
      _ = (r.step e).fresh := ih (r.step e)
      _ = r.fresh := r.fresh_step e

theorem fresh_build (o : Options) : (build o).fresh = build o := by
  cases o <;> rfl

/-- **A fresh copy is the rule as it was built,** with the same options and before any text,
whatever the rule has observed and however often it was closed. So the fresh copy finds in a text
what the rule finds that is newly built, alone or among other rules. -/
theorem fresh_restores (o : Options) (history : List Event) :
    ((build o).after history).fresh = build o ∧
      (∀ text, ((Scan.start [((build o).after history).fresh]).feedText text).finish =
        ((Scan.start [build o]).feedText text).finish) ∧
      ∀ before behind text,
        scanText (before ++ (build o).after history :: behind) text =
          scanText (before ++ build o :: behind) text := by
  have hfresh : ((build o).after history).fresh = build o := by rw [fresh_after, fresh_build]
  refine ⟨hfresh, ?_, ?_⟩
  · intro text
    rw [hfresh]
  · intro before behind text
    simp only [scanText, List.map_append, List.map_cons, hfresh, fresh_build]

/-- Open braces outlive the close, and the fresh copy knows of none. -/
example :
    let events (s : State) := (s.trace "\x7b\x7ba".toList).map fun p => Event.check p.1 p.2
    let history := events {} ++ [.close {}] ++ events {}
    let r := build (.lineWidth 9 8 2)
    r.after history = lineWidth
        { maxWidth := 9, tabWidth := 8, indentWidth := 2, width := 7, indentation := 8,
          atStart := false } ∧
      (r.after history).fresh = r := by
  decide +kernel

end Rule
end StyleScan
