import StyleScan.Lexical.State

/-!
# StyleScan.Proofs.Lexical.Transition

What one character does to the comments of a lexical state, and to its own step.

* `State.pairs`            — outside literals, a character is the second one of a pair.
* `State.inComment_enter`, `State.inBlock_enter` — the pairs that open and close comments.
* `State.step_enter_of_inComment`, `State.step_enter_of_pairs` — what is skipped.
* `State.Reachable`        — the states that some text leads to.
-/

namespace StyleScan
namespace Lexical
namespace State

/-- Outside literals, `c` is the second character of the pair of `a` and `b`. -/
def pairs (s : State) (a b c : Char) : Bool := !s.inLiteral && s.previous == a && c == b

/-! ## The marks of comments -/

theorem mark_slash (s : State) : s.mark '/' = s.markSlash := by simp [mark]

theorem mark_star (s : State) : s.mark '*' = s.markStar := by simp [mark]

@[simp] theorem previous_mark (s : State) (c : Char) : (s.mark c).previous = s.previous := by
  simp only [mark, toggleChar, toggleString, enterDirective, markSlash, markStar]
  repeat' split
  all_goals rfl

theorem inLiteral_mark {s : State} {c : Char} (h : c = '/' ∨ c = '*') :
    (s.mark c).inLiteral = s.inLiteral := by
  rcases h with rfl | rfl
  · rw [mark_slash, markSlash]
    repeat' split
    all_goals rfl
  · rw [mark_star, markStar]
    split <;> rfl

/-- Two slashes open a comment, a slash and a star a block, a star and a slash close either. -/
theorem comments_mark (s : State) (c : Char) :
    (s.mark c).inComment =
        (s.pairs '/' '/' c || s.pairs '/' '*' c || (s.inComment && !s.pairs '*' '/' c)) ∧
      (s.mark c).inBlock = (s.pairs '/' '*' c || (s.inBlock && !s.pairs '*' '/' c)) := by
  by_cases hslash : c = '/'
  · subst hslash
    rw [mark_slash, markSlash]
    grind [pairs]
  · by_cases hstar : c = '*'
    · subst hstar
      rw [mark_star, markStar]
      grind [pairs]
    · -- no pair ends in any other character, and no other mark touches the comments
      grind [pairs, mark, toggleChar, toggleString, enterDirective]

theorem claimed_mark_of_pairs {s : State} {c : Char}
    (h : s.pairs '/' '*' c = true ∨ s.pairs '*' '/' c = true) : (s.mark c).claimed = true := by
  rcases h with h | h
  · simp only [pairs, Bool.and_eq_true, Bool.not_eq_true', beq_iff_eq] at h
    obtain ⟨⟨hl, hp⟩, rfl⟩ := h
    simp [mark_star, markStar, hl, hp]
  · simp only [pairs, Bool.and_eq_true, Bool.not_eq_true', beq_iff_eq] at h
    obtain ⟨⟨hl, hp⟩, rfl⟩ := h
    simp [mark_slash, markSlash, hl, hp]

/-! ## The state in which a character is observed -/

section Enter

variable (s : State) (c : Char)

/-- Recording the step of a character leaves its transition as it is. -/
theorem settle_eq : ∃ last, s.settle c = { s with step := s.classify c, lastSignificant := last } := by
  simp only [settle]
  split
  · exact ⟨c, rfl⟩
  · exact ⟨s.lastSignificant, rfl⟩

@[simp] theorem previous_enter : (s.enter c).previous = s.previous := by
  obtain ⟨last, h⟩ := settle_eq ((s.push c).mark c) c
  rw [enter, h]
  exact previous_mark (s.push c) c

theorem inComment_enter :
    (s.enter c).inComment =
      (s.pairs '/' '/' c || s.pairs '/' '*' c || (s.inComment && !s.pairs '*' '/' c)) := by
  obtain ⟨last, h⟩ := settle_eq ((s.push c).mark c) c
  rw [enter, h]
  exact (comments_mark (s.push c) c).1

theorem inBlock_enter :
    (s.enter c).inBlock = (s.pairs '/' '*' c || (s.inBlock && !s.pairs '*' '/' c)) := by
  obtain ⟨last, h⟩ := settle_eq ((s.push c).mark c) c
  rw [enter, h]
  exact (comments_mark (s.push c) c).2

theorem step_enter : (s.enter c).step = ((s.push c).mark c).classify c := by
  obtain ⟨last, h⟩ := settle_eq ((s.push c).mark c) c
  rw [enter, h]

@[simp] theorem step_enter_newline : (s.enter '\n').step = .lineEnd := by
  rw [step_enter, classify, if_pos rfl]

end Enter

theorem inLiteral_enter {s : State} {c : Char} (h : c = '/' ∨ c = '*') :
    (s.enter c).inLiteral = s.inLiteral := by
  obtain ⟨last, hs⟩ := settle_eq ((s.push c).mark c) c
  rw [enter, hs]
  exact inLiteral_mark (s := s.push c) h

theorem step_enter_of_inComment {s : State} {c : Char} (hc : c ≠ '\n')
    (h : (s.enter c).inComment = true) : (s.enter c).step = .skip := by
  have hmark : ((s.push c).mark c).inComment = true := by
    rw [inComment_enter] at h
    rw [(comments_mark (s.push c) c).1]
    exact h
  rw [step_enter, classify, if_neg hc, if_pos (by simp [hmark])]

theorem step_enter_of_pairs {s : State} {c : Char}
    (h : s.pairs '/' '*' c = true ∨ s.pairs '*' '/' c = true) : (s.enter c).step = .skip := by
  have hc : c ≠ '\n' := by
    rintro rfl
    simp [pairs] at h
  have hmark : ((s.push c).mark c).claimed = true := claimed_mark_of_pairs (s := s.push c) h
  rw [step_enter, classify, if_neg hc, if_pos (by simp [hmark])]

/-! ## The state after a character -/

section Advance

variable (s : State) (c : Char)

@[simp] theorem previous_advance : (s.advance c).previous = c := rfl

@[simp] theorem inBlock_advance : (s.advance c).inBlock = (s.enter c).inBlock := by
  simp only [advance, leave]
  split <;> rfl

theorem inComment_advance :
    (s.advance c).inComment = if c = '\n' then (s.enter c).inBlock else (s.enter c).inComment := by
  simp only [advance, leave]
  split <;> rfl

end Advance

theorem inLiteral_advance {s : State} {c : Char} (h : c = '/' ∨ c = '*') :
    (s.advance c).inLiteral = s.inLiteral := by
  have hc : c ≠ '\n' := by
    rintro rfl
    simp at h
  have hleave : (s.advance c).inLiteral = (s.enter c).inLiteral := by
    simp only [advance, leave, if_neg hc]
    rfl
  rw [hleave, inLiteral_enter h]

/-! ## Reachable states -/

/-- Some text leads to the state. -/
def Reachable (s : State) : Prop := ∃ text, s = ({} : State).run text

/-- A comment that lasts beyond its line is a comment. -/
theorem inComment_of_inBlock_run {s : State} (h : s.inBlock = true → s.inComment = true)
    (text : List Char) : (s.run text).inBlock = true → (s.run text).inComment = true := by
  induction text generalizing s with
  | nil => exact h
  | cons c cs ih =>
    refine ih (s := s.advance c) ?_
    rw [inBlock_advance, inComment_advance, inComment_enter, inBlock_enter]
    grind

theorem Reachable.inComment_of_inBlock {s : State} (h : s.Reachable) :
    s.inBlock = true → s.inComment = true := by
  obtain ⟨text, rfl⟩ := h
  refine inComment_of_inBlock_run ?_ text
  intro hb
  cases hb

end State
end Lexical
end StyleScan
