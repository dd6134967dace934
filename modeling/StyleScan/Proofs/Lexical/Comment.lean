import StyleScan.Proofs.Lexical.Transition

/-!
# StyleScan.Proofs.Lexical.Comment

How far a comment reaches. Quotes and hash signs are marks inside comments too, and inside the
literals that they open no pair of characters opens or closes a comment.

* `State.block_run`           — a block comment goes on through a text without a terminator.
* `State.line_run`            — a line comment goes on through a text without marks of blocks.
* `State.blockComment_extent` — a block comment ends at its first terminator that is not in a literal.
* `State.lineComment_extent`  — a line comment ends with its line, or at the first mark of a block.
-/

namespace StyleScan
namespace Lexical
namespace State

theorem pairs_eq_false_of_not_infix {s : State} {a b c : Char} {cs : List Char}
    (h : ¬ [a, b] <:+: s.previous :: c :: cs) : s.pairs a b c = false := by
  rw [Bool.eq_false_iff]
  intro hpairs
  simp only [pairs, Bool.and_eq_true, beq_iff_eq] at hpairs
  obtain ⟨⟨_, hprev⟩, rfl⟩ := hpairs
  refine h ⟨[], cs, ?_⟩
  simp [hprev]

/-! ## Block comments -/

theorem block_open {s : State} (hl : s.inLiteral = false) :
    (s.run ['/', '*']).inComment = true ∧ (s.run ['/', '*']).inBlock = true := by
  have hpairs : (s.advance '/').pairs '/' '*' '*' = true := by
    simp [pairs, inLiteral_advance, hl]
  simp [inComment_advance, inComment_enter, inBlock_enter, hpairs]

/-- Inside a block comment every character but a line feed is skipped, and the comment goes on, as
long as no star is followed by a slash. -/
theorem block_run {s : State} {w : List Char} (hc : s.inComment = true) (hb : s.inBlock = true)
    (hw : ¬ ['*', '/'] <:+: s.previous :: w) :
    (∀ p ∈ s.trace w, p.2.step = if p.1 = '\n' then .lineEnd else .skip) ∧
      (s.run w).inComment = true ∧ (s.run w).inBlock = true := by
  induction w generalizing s with
  | nil =>
    refine ⟨?_, hc, hb⟩
    intro p hp
    cases hp
  | cons c cs ih =>
    have hpairs := pairs_eq_false_of_not_infix hw
    have hb' : (s.enter c).inBlock = true := by simp [inBlock_enter, hb, hpairs]
    have hc' : (s.enter c).inComment = true := by simp [inComment_enter, hc, hpairs]
    have hstep : (s.enter c).step = if c = '\n' then .lineEnd else .skip := by
      split
      · next h => rw [h, step_enter_newline]
      · next h => exact step_enter_of_inComment h hc'
    -- a line feed leaves a comment open exactly if it is a block
    have hnext : (s.advance c).inComment = true := by
      rw [inComment_advance, hb', hc', ite_self]
    obtain ⟨htrace, hrun⟩ := ih (s := s.advance c) hnext (by rw [inBlock_advance, hb'])
      fun h => hw (List.infix_cons h)
    refine ⟨?_, hrun⟩
    intro p hp
    rcases List.mem_cons.mp hp with rfl | hp
    · exact hstep
    · exact htrace p hp

theorem pair_close {s : State} {c : Char} (h : s.pairs '*' '/' c = true) :
    (s.advance c).inComment = false ∧ (s.advance c).inBlock = false := by
  have hpairs := h
  simp only [pairs, Bool.and_eq_true, beq_iff_eq] at hpairs
  obtain ⟨⟨_, hprev⟩, rfl⟩ := hpairs
  have hline : s.pairs '/' '/' '/' = false := by simp [pairs, hprev]
  have hblock : s.pairs '/' '*' '/' = false := by simp [pairs]
  simp [inComment_advance, inComment_enter, inBlock_enter, h, hline, hblock]

theorem block_close {s : State} (hc : s.inComment = true) (hb : s.inBlock = true) :
    (s.run ['*', '/']).inComment = s.inLiteral ∧ (s.run ['*', '/']).inBlock = s.inLiteral := by
  obtain ⟨hc', hb'⟩ : (s.advance '*').inComment = true ∧ (s.advance '*').inBlock = true := by
    simp [inComment_advance, inComment_enter, inBlock_enter, hc, hb, pairs]
  have hpairs : (s.advance '*').pairs '*' '/' '/' = !s.inLiteral := by
    simp [pairs, inLiteral_advance]
  have hline : (s.advance '*').pairs '/' '/' '/' = false := by simp [pairs]
  have hblock : (s.advance '*').pairs '/' '*' '/' = false := by simp [pairs]
  show ((s.advance '*').advance '/').inComment = _ ∧ ((s.advance '*').advance '/').inBlock = _
  constructor
  · rw [inComment_advance, if_neg (by decide), inComment_enter, hline, hblock, hpairs, hc']
    simp
  · rw [inBlock_advance, inBlock_enter, hblock, hpairs, hb']
    simp

/-- **How far a block comment reaches.** It hides a text without a terminator, line feeds apart, and
ends at the terminator behind that text exactly if no literal is open there. The star that opens the
comment may be the star of the terminator: a slash right behind it ends the comment at once. -/
theorem blockComment_extent (s : State) (hl : s.inLiteral = false) (w : List Char)
    (hw : ¬ ['*', '/'] <:+: w) :
    let opened := s.run ['/', '*']
    let before := opened.run w
    let after := before.run ['*', '/']
    (w.head? ≠ some '/' →
      (∀ p ∈ opened.trace w, p.2.step = if p.1 = '\n' then .lineEnd else .skip) ∧
      before.inComment = true ∧ before.inBlock = true ∧
      after.inComment = before.inLiteral ∧ after.inBlock = before.inLiteral) ∧
    (w.head? = some '/' →
      (opened.run ['/']).inComment = false ∧ (opened.run ['/']).inBlock = false) := by
  intro opened before after
  obtain ⟨hc, hb⟩ := block_open hl
  constructor
  · intro hhead
    -- the star of the opening pair is the previous character of `w`
    have hinfix : ¬ ['*', '/'] <:+: opened.previous :: w := by
      intro h
      rcases List.infix_cons_iff.mp h with h | h
      · obtain ⟨rest, rfl⟩ := (List.cons_prefix_cons.mp h).2
        exact hhead rfl
      · exact hw h
    obtain ⟨htrace, hc', hb'⟩ := block_run hc hb hinfix
    exact ⟨htrace, hc', hb', block_close hc' hb'⟩
  · intro _
    have hpairs : opened.pairs '*' '/' '/' = true := by
      simp [opened, pairs, inLiteral_advance, hl]
    exact pair_close hpairs

/-- A line feed ends the literal of its line, and the string behind it is closed again: the
terminator ends the comment. -/
theorem blockComment_extent_quotes :
    let w := ['\'', '\n', '"', '*', '"', '*']
    ({} : State).inLiteral = false ∧ ¬ ['*', '/'] <:+: w ∧ w.head? ≠ some '/' ∧
      (((({} : State).run ['/', '*']).run w).run ['*', '/']).inComment = false := by
  intro w
  have hw : ¬ ['*', '/'] <:+: w := by decide
  have hhead : w.head? ≠ some '/' := by decide
  refine ⟨rfl, hw, hhead, ?_⟩
  have hend := ((blockComment_extent {} rfl w hw).1 hhead).2.2.2.1
  exact hend.trans (by decide)

/-- A quote inside a block comment keeps its terminator from ending it. -/
theorem blockComment_outlives_terminator :
    ¬ ∀ (s : State) (w : List Char), s.Reachable → s.inLiteral = false → s.inComment = false →
      s.previous ≠ '/' → ¬ ['*', '/'] <:+: w →
      (∀ p ∈ (s.run ['/', '*']).trace w, p.2.step = if p.1 = '\n' then .lineEnd else .skip) ∧
      (s.run (['/', '*'] ++ w ++ ['*', '/'])).inComment = false ∧
      (s.run (['/', '*'] ++ w ++ ['*', '/'])).inBlock = false := by
  intro h
  have hend := (h {} ['\''] ⟨[], rfl⟩ rfl rfl (by decide) (by decide)).2.1
  revert hend
  decide

/-! ## Line comments -/

/-- Outside literals, `c` completes a pair that opens a block comment or closes a comment. -/
def isBlockMark (s : State) (c : Char) : Bool := s.pairs '/' '*' c || s.pairs '*' '/' c

theorem pairs_enter (s : State) (a : Char) {b : Char} (hb : b = '/' ∨ b = '*') (c : Char) :
    (s.enter c).pairs a b c = s.pairs a b c := by
  by_cases hc : c = b
  · subst hc
    rw [pairs, pairs, previous_enter, inLiteral_enter hb]
  · have hc' : (c == b) = false := beq_false_of_ne hc
    rw [pairs, pairs, hc', Bool.and_false, Bool.and_false]

theorem isBlockMark_enter (s : State) (c : Char) : (s.enter c).isBlockMark c = s.isBlockMark c := by
  rw [isBlockMark, isBlockMark, pairs_enter s '/' (.inr rfl), pairs_enter s '*' (.inl rfl)]

theorem line_open {s : State} (hl : s.inLiteral = false) (hb : s.inBlock = false) :
    (s.run ['/', '/']).inComment = true ∧ (s.run ['/', '/']).inBlock = false := by
  have hpairs : (s.advance '/').pairs '/' '/' '/' = true := by
    simp [pairs, inLiteral_advance, hl]
  have hfirst : (s.advance '/').inBlock = false := by
    simp [inBlock_enter, hb, pairs]
  show ((s.advance '/').advance '/').inComment = true ∧ ((s.advance '/').advance '/').inBlock = false
  constructor
  · rw [inComment_advance, if_neg (by decide), inComment_enter, hpairs]
    simp
  · rw [inBlock_advance, inBlock_enter, hfirst]
    simp [pairs]

/-- Inside a line comment every character is skipped, and the comment goes on, as long as there is
no mark of a block. -/
theorem line_run {s : State} {w : List Char} (hc : s.inComment = true) (hb : s.inBlock = false)
    (hline : '\n' ∉ w) (hw : ∀ p ∈ s.trace w, p.2.isBlockMark p.1 = false) :
    (∀ p ∈ s.trace w, p.2.step = .skip) ∧
      (s.run w).inComment = true ∧ (s.run w).inBlock = false := by
  induction w generalizing s with
  | nil =>
    refine ⟨?_, hc, hb⟩
    intro p hp
    cases hp
  | cons c cs ih =>
    have hne : c ≠ '\n' := fun h => hline (h ▸ List.mem_cons_self)
    have hmark : s.pairs '/' '*' c = false ∧ s.pairs '*' '/' c = false := by
      rw [← Bool.or_eq_false_iff, ← isBlockMark, ← isBlockMark_enter]
      exact hw (c, s.enter c) List.mem_cons_self
    have hb' : (s.enter c).inBlock = false := by simp [inBlock_enter, hb, hmark]
    have hc' : (s.enter c).inComment = true := by simp [inComment_enter, hc, hmark]
    obtain ⟨htrace, hrun⟩ := ih (s := s.advance c)
      (by rw [inComment_advance, if_neg hne, hc']) (by rw [inBlock_advance, hb'])
      (fun h => hline (List.mem_cons_of_mem c h)) (fun p hp => hw p (List.mem_cons_of_mem _ hp))
    refine ⟨?_, hrun⟩
    intro p hp
    rcases List.mem_cons.mp hp with rfl | hp
    · exact step_enter_of_inComment hne hc'
    · exact htrace p hp

theorem line_close {s : State} (hb : s.inBlock = false) :
    (s.advance '\n').inComment = false ∧ (s.advance '\n').inBlock = false := by
  simp [inComment_advance, inBlock_enter, hb, pairs]

/-- Inside a line comment a star behind a slash opens a block, and a slash behind a star ends the
comment. -/
theorem line_blockMark {s : State} {c : Char} (hmark : s.isBlockMark c = true) :
    (s.enter c).step = .skip ∧ (s.advance c).inComment = (c == '*') ∧
      (s.advance c).inBlock = (c == '*') := by
  rw [isBlockMark, Bool.or_eq_true] at hmark
  refine ⟨step_enter_of_pairs hmark, ?_⟩
  rcases hmark with h | h
  · have hc : c = '*' := by simp only [pairs, Bool.and_eq_true, beq_iff_eq] at h; exact h.2
    subst hc
    simp [inComment_advance, inComment_enter, inBlock_enter, h]
  · have hc : c = '/' := by simp only [pairs, Bool.and_eq_true, beq_iff_eq] at h; exact h.2
    subst hc
    exact pair_close h

/-- **How far a line comment reaches.** Without marks of blocks outside literals it hides the rest of
its line and ends with it. The first such mark in it is hidden too; a star there turns the comment
into a block, and a slash ends it. -/
theorem lineComment_extent {s : State} (hs : s.Reachable) (hl : s.inLiteral = false)
    (hc : s.inComment = false) {w : List Char} (hw : '\n' ∉ w) :
    let opened := s.run ['/', '/']
    ((∀ p ∈ opened.trace w, p.2.isBlockMark p.1 = false) →
      (∀ p ∈ opened.trace w, p.2.step = .skip) ∧
      (opened.run (w ++ ['\n'])).inComment = false ∧ (opened.run (w ++ ['\n'])).inBlock = false) ∧
    (∀ v c rest, w = v ++ c :: rest → (∀ p ∈ opened.trace v, p.2.isBlockMark p.1 = false) →
      (opened.run v).isBlockMark c = true →
      (∀ p ∈ opened.trace (v ++ [c]), p.2.step = .skip) ∧
      (opened.run (v ++ [c])).inComment = (c == '*') ∧
      (opened.run (v ++ [c])).inBlock = (c == '*')) := by
  intro opened
  -- only here the state has to be a reachable one
  have hb : s.inBlock = false := by
    rw [Bool.eq_false_iff]
    intro hb
    rw [hs.inComment_of_inBlock hb] at hc
    cases hc
  obtain ⟨hc', hb'⟩ := line_open hl hb
  constructor
  · intro hfree
    obtain ⟨htrace, _, hrun⟩ := line_run hc' hb' hw hfree
    rw [run_append]
    exact ⟨htrace, line_close hrun⟩
  · rintro v c rest rfl hfree hmark
    have hv : '\n' ∉ v := fun h => hw (List.mem_append_left _ h)
    obtain ⟨htrace, _, _⟩ := line_run hc' hb' hv hfree
    obtain ⟨hstep, hend⟩ := line_blockMark hmark
    rw [trace_append, run_append]
    refine ⟨?_, hend⟩
    intro p hp
    rcases List.mem_append.mp hp with hp | hp
    · exact htrace p hp
    · rw [List.mem_singleton.mp hp]
      exact hstep

/-- Inside a string the mark of a block is none, in a line comment too. -/
theorem lineComment_extent_quotes :
    let s := ({} : State).run ['a', ';']
    let w := ['"', '/', '*', '"']
    s.Reachable ∧ s.inLiteral = false ∧ s.inComment = false ∧ '\n' ∉ w ∧
      (∀ p ∈ (s.run ['/', '/']).trace w, p.2.isBlockMark p.1 = false) ∧
      ((s.run ['/', '/']).run (w ++ ['\n'])).inComment = false := by
  intro s w
  have hs : s.Reachable := ⟨['a', ';'], rfl⟩
  have hw : '\n' ∉ w := by decide
  have hfree : ∀ p ∈ (s.run ['/', '/']).trace w, p.2.isBlockMark p.1 = false := by decide
  refine ⟨hs, by decide, by decide, hw, hfree, ?_⟩
  exact ((lineComment_extent hs (by decide) (by decide) hw).1 hfree).2.1

/-- A star right behind the slashes carries a line comment over the end of its line. -/
theorem lineComment_outlives_line :
    ¬ ∀ (s : State) (w : List Char), s.Reachable → s.inLiteral = false → s.inComment = false →
      s.previous ≠ '/' → s.previous ≠ '*' → '\n' ∉ w →
      (∀ p ∈ (s.run ['/', '/']).trace w, p.2.step = .skip) ∧
      (s.run (['/', '/'] ++ w ++ ['\n'])).inComment = false ∧
      (s.run (['/', '/'] ++ w ++ ['\n'])).inBlock = false := by
  intro h
  have hend := (h {} ['*'] ⟨[], rfl⟩ rfl rfl (by decide) (by decide) (by decide)).2.1
  revert hend
  decide

end State
end Lexical
end StyleScan
