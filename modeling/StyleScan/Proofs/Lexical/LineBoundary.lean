import StyleScan.Proofs.Lexical.Transition

/-!
# StyleScan.Proofs.Lexical.LineBoundary

What the lexical state carries over a line feed: the number of the line, and the block comment that
is open there. Without a comment the next line is read like the first line of a text.

* `State.below`           — the same state on a later line.
* `State.observed`        — the characters of a text with what the rules see of their states.
* `State.enter_behind`    — which blank stands before a character makes no difference to it.
* `State.run_line`        — the state behind a line feed outside comments.
* `State.observed_append` — a text is observed line by line, each part like a text of its own.
-/

namespace StyleScan
namespace Lexical
namespace State

/-- The state with its line `n` lines further down. -/
def below (n : Nat) (s : State) : State := { s with lineNumber := s.lineNumber + n }

/-! ## Later lines -/

section Below

variable (n : Nat) (s : State) (c : Char)

@[simp] theorem step_below : (s.below n).step = s.step := rfl

@[simp] theorem inLiteral_below : (s.below n).inLiteral = s.inLiteral := rfl

@[simp] theorem lastSignificant_below : (s.below n).lastSignificant = s.lastSignificant := rfl

@[simp] theorem blankLine_below : (s.below n).blankLine = s.blankLine := rfl

theorem mark_below : (s.below n).mark c = (s.mark c).below n := by
  simp only [mark, toggleChar, toggleString, enterDirective, markSlash, markStar,
    apply_ite (below n)]
  rfl

theorem settle_below : (s.below n).settle c = (s.settle c).below n := by
  simp only [settle, apply_ite (below n)]
  rfl

@[simp] theorem enter_below : (s.below n).enter c = (s.enter c).below n := by
  rw [enter, enter, ← settle_below, ← mark_below]
  rfl

@[simp] theorem advance_below : (s.below n).advance c = (s.advance c).below n := by
  rw [advance, advance, enter_below]
  by_cases hc : c = '\n'
  · simp only [leave, if_pos hc, endLine, below]
    rw [Nat.add_right_comm]
  · simp only [leave, if_neg hc, below]

end Below

theorem run_below (n : Nat) (s : State) (cs : List Char) :
    (s.below n).run cs = (s.run cs).below n := by
  induction cs generalizing s with
  | nil => rfl
  | cons c cs ih => rw [run_cons, run_cons, advance_below, ih]

theorem trace_below (n : Nat) (s : State) (cs : List Char) :
    (s.below n).trace cs = (s.trace cs).map fun p => (p.1, p.2.below n) := by
  induction cs generalizing s with
  | nil => rfl
  | cons c cs ih => rw [trace, trace, enter_below, advance_below, ih, List.map_cons]

/-! ## Behind a line feed -/

theorem lineNumber_enter (s : State) (c : Char) : (s.enter c).lineNumber = s.lineNumber := by
  obtain ⟨last, h⟩ := settle_eq ((s.push c).mark c) c
  rw [enter, h]
  simp only [mark, toggleChar, toggleString, enterDirective, markSlash, markStar]
  repeat' split
  all_goals rfl

theorem lineNumber_advance (s : State) (c : Char) :
    (s.advance c).lineNumber = s.lineNumber + [c].count '\n' := by
  have henter := s.lineNumber_enter c
  by_cases hc : c = '\n'
  · simp [advance, leave, endLine, hc, ← henter]
  · simp [advance, leave, hc, henter]

theorem lineNumber_run (s : State) (cs : List Char) :
    (s.run cs).lineNumber = s.lineNumber + cs.count '\n' := by
  induction cs generalizing s with
  | nil => rfl
  | cons c cs ih =>
    rw [run_cons, ih, lineNumber_advance, Nat.add_assoc, ← List.count_append, List.singleton_append]

/-- A line feed leaves nothing of its line behind but a block comment. -/
theorem advance_newline (s : State) :
    s.advance '\n' =
      { previous := '\n', lineNumber := s.lineNumber + 1, step := .lineEnd,
        inComment := s.inBlock, inBlock := s.inBlock } := by
  simp [advance, enter, push, mark, settle, classify, leave, endLine]

/-! ## A new line is a new text -/

section Blank

variable {s : State} (hs : Text.isBlank s.previous = true)
include hs

theorem previous_ne_of_isBlank {c : Char} (hc : Text.isBlank c = false) : s.previous ≠ c := by
  intro h
  rw [h, hc] at hs
  cases hs

theorem markSlash_of_isBlank : s.markSlash = { s with claimed := false } := by
  have hslash : s.previous ≠ '/' := previous_ne_of_isBlank hs (by decide)
  have hstar : s.previous ≠ '*' := previous_ne_of_isBlank hs (by decide)
  simp [markSlash, hslash, hstar]

theorem markStar_of_isBlank : s.markStar = { s with claimed := false } := by
  have hslash : s.previous ≠ '/' := previous_ne_of_isBlank hs (by decide)
  simp [markStar, hslash]

end Blank

/-- The state with another character before the current one, and another step of that character. -/
def behind (p : Char) (x : Step) (s : State) : State := { s with previous := p, step := x }

theorem mark_behind {s : State} {p : Char} (hs : Text.isBlank s.previous = true)
    (hp : Text.isBlank p = true) (x : Step) (c : Char) :
    (s.behind p x).mark c = (s.mark c).behind p x := by
  have hq : Text.isBlank (s.behind p x).previous = true := hp
  simp only [mark, markSlash_of_isBlank hs, markSlash_of_isBlank hq, markStar_of_isBlank hs,
    markStar_of_isBlank hq, toggleChar, toggleString, enterDirective, apply_ite (behind p x)]
  rfl

/-- Which blank stands before a character makes no difference to it. -/
theorem enter_behind {s : State} {p : Char} (hs : Text.isBlank s.previous = true)
    (hp : Text.isBlank p = true) (x : Step) (c : Char) :
    (s.behind p x).enter c = (s.enter c).behind p (s.enter c).step := by
  have hpush : (s.behind p x).push c = (s.push c).behind p x := rfl
  rw [enter, enter, hpush, mark_behind (s := s.push c) hs hp]
  generalize ht : (s.push c).mark c = t
  have hprevious : Text.isBlank t.previous = true := by
    rw [← ht, previous_mark]
    exact hs
  have hstep : (t.behind p x).classify c = t.classify c := by
    simp [classify, behind, hprevious, hp]
  have hliteral : (t.behind p x).inLiteral = t.inLiteral := rfl
  simp only [settle, hstep, hliteral]
  split <;> rfl

theorem leave_behind (p : Char) (s : State) (c : Char) :
    (s.behind p s.step).leave c = s.leave c := by
  by_cases hc : c = '\n'
  · simp only [leave, if_pos hc]
    rfl
  · simp only [leave, if_neg hc]
    rfl

theorem advance_behind {s : State} {p : Char} (hs : Text.isBlank s.previous = true)
    (hp : Text.isBlank p = true) (x : Step) (c : Char) :
    (s.behind p x).advance c = s.advance c := by
  rw [advance, enter_behind hs hp, leave_behind, advance]

/-! ## Texts by their lines -/

/-- Behind a line feed outside comments a text goes on like a new one: a line feed and `lineStart`
are both blank. -/
theorem run_line {cs : List Char} (hline : cs.getLast? = some '\n')
    (hcomment : (({} : State).run cs).inComment = false) :
    ({} : State).run cs = (({} : State).below (cs.count '\n')).behind '\n' .lineEnd := by
  obtain ⟨as, rfl⟩ := List.getLast?_eq_some_iff.mp hline
  have hrun : ({} : State).run (as ++ ['\n']) = (({} : State).run as).advance '\n' := by
    rw [run_append]
    rfl
  rw [hrun, advance_newline] at hcomment ⊢
  have hblock : (({} : State).run as).inBlock = false := hcomment
  rw [hblock, lineNumber_run, List.count_append, List.count_singleton_self, Nat.add_assoc]
  rfl

/-- The characters of a text, each with what the rules see of the state in which they observe it:
all of it but the character before. -/
def observed (text : List Char) : List (Char × State) :=
  (({} : State).trace text).map fun p => (p.1, p.2.behind lineStart p.2.step)

theorem observed_append {as : List Char} (hline : as.getLast? = some '\n')
    (hcomment : (({} : State).run as).inComment = false) (bs : List Char) :
    observed (as ++ bs) =
      observed as ++ (observed bs).map fun p => (p.1, p.2.below (as.count '\n')) := by
  rw [observed, trace_append, List.map_append, run_line hline hcomment]
  congr 1
  cases bs with
  | nil => rfl
  | cons c cs =>
    rw [observed, trace, trace, enter_behind (by rfl) (by decide),
      advance_behind (by rfl) (by decide), enter_below, advance_below, trace_below]
    simp only [List.map_cons, List.map_map]
    rfl

end State
end Lexical
end StyleScan
