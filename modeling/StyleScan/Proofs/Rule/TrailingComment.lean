import StyleScan.Proofs.Lexical.Comment
import StyleScan.Proofs.Rule.StatementSpan

/-!
# StyleScan.Proofs.Rule.TrailingComment

What a comment behind a line does to the end of the line. The first slash of a comment is judged
before the second one is seen, by the character before it: behind a blank it is no code, and behind
a slash or a star it is a mark. Behind any other character it is taken for code.

* `hidesSlash`                     — the characters behind which a slash is no code.
* `State.isSignificant_slash`      — outside literals and comments it is code behind all others.
* `State.significant_append_skip`  — what is skipped adds nothing to the code of a line.
* `Line.significant_commented`     — the code of a line with a comment behind it.
* `Rule.trailingComment_iff`       — when the comment leaves the end of the line as it is.
-/

namespace StyleScan

open Lexical (State Step lineStart)

/-- A slash behind the character is no code: it may open a comment, or is the second half of a
mark. -/
def hidesSlash (c : Char) : Bool := Text.isBlank c || c == '/' || c == '*'

namespace Lexical.State

theorem isSignificant_slash {s : State} (hl : s.inLiteral = false) (hc : s.inComment = false)
    (hb : s.inBlock = false) : (s.enter '/').isSignificant '/' = !hidesSlash s.previous := by
  have hliteral : (s.push '/').inLiteral = false := hl
  have hblank : Text.isBlank '/' = false := by decide
  rw [isSignificant, inLiteral_enter (.inl rfl), hl, step_enter, mark_slash, markSlash, hliteral,
    hblank]
  by_cases hslash : s.previous = '/'
  · simp [push, classify, hidesSlash, hslash]
  · by_cases hstar : s.previous = '*'
    · simp [push, classify, hidesSlash, hstar]
    · cases hp : Text.isBlank s.previous <;>
        simp [push, classify, hidesSlash, hslash, hstar, hc, hb, hp]

theorem mem_of_mem_trace {s : State} {w : List Char} {p : Char × State} (h : p ∈ s.trace w) :
    p.1 ∈ w := by
  induction w generalizing s with
  | nil => cases h
  | cons c cs ih =>
    rcases List.mem_cons.mp h with rfl | h
    · exact List.mem_cons_self
    · exact List.mem_cons_of_mem c (ih h)

theorem significant_append_skip {before w : List Char}
    (h : ∀ p ∈ (({} : State).run before).trace w, p.2.step = .skip) :
    significant (before ++ w) = significant before := by
  induction w generalizing before with
  | nil => rw [List.append_nil]
  | cons c cs ih =>
    have hskip : ((({} : State).run before).enter c).step = .skip := h (c, _) List.mem_cons_self
    have hc : c ≠ '\n' := by
      rw [Ne, ← step_enter_eq_lineEnd_iff (({} : State).run before), hskip]
      simp
    have hrest : significant (before ++ [c] ++ cs) = significant (before ++ [c]) := by
      refine ih ?_
      rw [run_concat]
      intro p hp
      exact h p (List.mem_cons_of_mem _ hp)
    rw [← List.singleton_append, ← List.append_assoc, hrest, significant_concat, if_neg hc]
    simp [isSignificant, hskip]

/-- Outside literals and blocks, two slashes hide a text without slashes and stars behind them. -/
theorem step_of_mem_comment {s : State} (hl : s.inLiteral = false) (hb : s.inBlock = false)
    {w : List Char} (hw : ∀ c ∈ w, c ≠ '\n' ∧ c ≠ '/' ∧ c ≠ '*') :
    ∀ p ∈ (s.advance '/').trace ('/' :: w), p.2.step = .skip := by
  obtain ⟨hopen, hblock⟩ := line_open hl hb
  have hsecond : ((s.advance '/').enter '/').inComment = true := by
    have hpairs : (s.advance '/').pairs '/' '/' '/' = true := by
      simp [pairs, inLiteral_advance, hl]
    rw [inComment_enter, hpairs]
    rfl
  have hmarks : ∀ p ∈ (s.run ['/', '/']).trace w, p.2.isBlockMark p.1 = false := by
    intro p hp
    obtain ⟨-, hslash, hstar⟩ := hw p.1 (mem_of_mem_trace hp)
    simp [isBlockMark, pairs, hslash, hstar]
  have hline : '\n' ∉ w := fun h => (hw '\n' h).1 rfl
  obtain ⟨hskip, -⟩ := line_run hopen hblock hline hmarks
  intro p hp
  rcases List.mem_cons.mp hp with rfl | hp
  · exact step_enter_of_inComment (by decide) hsecond
  · exact hskip p hp

end Lexical.State

theorem ne_of_isAlphanumeric_or {c : Char} (h : Text.isAlphanumeric c = true ∨ c = ' ') :
    c ≠ '\n' ∧ c ≠ '/' ∧ c ≠ '*' := by
  refine ⟨?_, ?_, ?_⟩ <;> rintro rfl <;> revert h <;> decide

namespace Line

/-- The line with a comment behind it. -/
def commented (l : Line) (w : List Char) : Line := ⟨l.upTo ++ '/' :: '/' :: w⟩

theorem inBlock_state {l : Line} (h : l.state.inComment = false) : l.state.inBlock = false := by
  rw [Bool.eq_false_iff]
  intro hb
  have hcomment : l.state.inComment = true := (State.represents_run l.upTo).block hb
  rw [hcomment] at h
  cases h

theorem lastSignificant_newline (l : Line) :
    (l.state.enter '\n').lastSignificant = l.significant.getLast?.getD lineStart := by
  have hend : (l.state.enter '\n').isSignificant '\n' = false := by simp [State.isSignificant]
  rw [State.lastSignificant_enter, hend, ← lastSignificant_state]
  rfl

section Commented

variable {l : Line} (hl : l.state.inLiteral = false) (hc : l.state.inComment = false)
  {w : List Char} (hw : ∀ c ∈ w, Text.isAlphanumeric c = true ∨ c = ' ')
include hl hc hw

theorem significant_commented :
    (l.commented w).significant =
      if hidesSlash l.state.previous then l.significant else l.significant ++ ['/'] := by
  have hb := inBlock_state hc
  have hskip := State.step_of_mem_comment hl hb fun c h => ne_of_isAlphanumeric_or (hw c h)
  rw [← state_extend] at hskip
  have hfirst : (l.commented w).significant = (l.extend '/').significant := by
    have hcut : (l.commented w).upTo = (l.extend '/').upTo ++ '/' :: w := by
      simp [commented, extend]
    rw [significant, hcut]
    exact State.significant_append_skip hskip
  rw [hfirst, significant_extend, if_neg (by decide), State.isSignificant_slash hl hc hb]
  cases hidesSlash l.state.previous <;> rfl

theorem lastSignificant_commented :
    ((l.commented w).state.enter '\n').lastSignificant =
      if hidesSlash l.state.previous then (l.state.enter '\n').lastSignificant else '/' := by
  rw [lastSignificant_newline, lastSignificant_newline, significant_commented hl hc hw]
  cases hidesSlash l.state.previous <;> simp

/-- A line whose last character of code is a slash leaves its statement open. -/
theorem closesStatement_commented :
    (l.commented w).closesStatement = (hidesSlash l.state.previous && l.closesStatement) := by
  rw [closesStatement, significant_commented hl hc hw]
  cases hidesSlash l.state.previous with
  | true => rfl
  | false => simp

end Commented
end Line

namespace Rule

/-- Whether the rule regards a line as closed, at the line feed behind it. -/
def StatementSpan.regardsClosed (r : StatementSpan) (l : Line) : Bool :=
  match (statementSpan r).upTo l with
  | statementSpan q => q.isClosed (l.state.enter '\n').lastSignificant
  | _ => false

theorem StatementSpan.regardsClosed_eq (r : StatementSpan) (l : Line) :
    r.regardsClosed l = l.closesStatement := by
  rw [regardsClosed, upTo_eq]
  show (seen l).isClosed (l.state.enter '\n').lastSignificant = l.closesStatement
  rw [l.lastSignificant_newline, ← l.lastSignificant_state, isClosed_seen]

/-- **When a comment leaves the end of its line as it is.** A line at whose end neither a literal
nor a comment is open gets two slashes behind it, and letters, digits and spaces. Its last
significant character stays exactly if a blank, a slash or a star stands before the slashes, or if
it is a slash already; whether the line counts as closed stays exactly if one of these three stands
there, or if the line was open anyway. -/
theorem trailingComment_iff (r : StatementSpan) {l : Line} (hl : l.state.inLiteral = false)
    (hc : l.state.inComment = false) {w : List Char}
    (hw : ∀ c ∈ w, Text.isAlphanumeric c = true ∨ c = ' ') :
    (((l.commented w).state.enter '\n').lastSignificant = (l.state.enter '\n').lastSignificant ↔
        hidesSlash l.state.previous = true ∨ (l.state.enter '\n').lastSignificant = '/') ∧
      (r.regardsClosed (l.commented w) = r.regardsClosed l ↔
        hidesSlash l.state.previous = true ∨ r.regardsClosed l = false) := by
  rw [Line.lastSignificant_commented hl hc hw, r.regardsClosed_eq, r.regardsClosed_eq,
    Line.closesStatement_commented hl hc hw]
  cases hidesSlash l.state.previous with
  | true => simp
  | false =>
    constructor
    · simpa using eq_comm
    · cases l.closesStatement <;> simp

/-- The slash that ends a block comment hides the slashes behind it. -/
theorem trailingComment_iff_block :
    let l : Line := ⟨"x;\nf(a); /* b */".toList⟩
    let w := " done 2".toList
    l.state.inLiteral = false ∧ l.state.inComment = false ∧
      (∀ c ∈ w, Text.isAlphanumeric c = true ∨ c = ' ') ∧
      ((l.commented w).state.enter '\n').lastSignificant = ';' ∧
      StatementSpan.regardsClosed {} (l.commented w) = true := by
  intro l w
  have hl : l.state.inLiteral = false := by decide +kernel
  have hc : l.state.inComment = false := by decide +kernel
  have hall : (w.all fun c => Text.isAlphanumeric c || c == ' ') = true := by decide +kernel
  have hw : ∀ c ∈ w, Text.isAlphanumeric c = true ∨ c = ' ' := by simpa using hall
  have hhides : hidesSlash l.state.previous = true := by decide +kernel
  obtain ⟨hlast, hclosed⟩ := trailingComment_iff {} hl hc hw
  refine ⟨hl, hc, hw, ?_, ?_⟩
  · rw [hlast.mpr (.inl hhides)]
    decide +kernel
  · rw [hclosed.mpr (.inl hhides)]
    decide +kernel

/-- Right behind a semicolon the first slash of a comment becomes the end of the line. -/
theorem trailingComment_opens_line :
    ¬ ∀ (r : StatementSpan) (l : Line) (w : List Char), l.significant ≠ [] →
      l.state.inLiteral = false → l.state.inComment = false →
      (∀ c ∈ w, Text.isAlphanumeric c = true ∨ c = ' ') →
      ((l.commented w).state.enter '\n').lastSignificant = (l.state.enter '\n').lastSignificant ∧
      r.regardsClosed (l.commented w) = r.regardsClosed l := by
  intro h
  have hw : ∀ c ∈ ['x'], Text.isAlphanumeric c = true ∨ c = ' ' :=
    List.forall_mem_singleton.mpr (.inl (by decide))
  have hlast := (h {} ⟨['a', ';']⟩ ['x'] (by decide) (by decide) (by decide) hw).1
  revert hlast
  decide

end Rule
end StyleScan
