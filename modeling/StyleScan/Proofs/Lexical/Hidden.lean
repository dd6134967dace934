import StyleScan.Proofs.Lexical.LineBoundary

/-!
# StyleScan.Proofs.Lexical.Hidden

Two texts that differ only inside literals, directives and comments, in characters that are no
marks.

* `isPlain`       — a character that is no blank and no mark.
* `State.hides`   — inside a literal, a directive or a comment.
* `State.veiled`  — a state without the text of its line and the character before.
* `State.Masks`   — the two texts differ in plain characters where they are hidden only.
* `State.Alike`   — what holds of the two states along such texts.
* `State.Alike.step`, `State.Alike.trace` — one character, and whole texts.
-/

namespace StyleScan
namespace Lexical

/-- A character that is no blank, no NUL, no backslash and no mark of a literal, a directive or a
comment. -/
def isPlain (c : Char) : Bool :=
  !(Text.isBlank c || ['\x00', '\'', '"', '#', '/', '*', '\\'].contains c)

namespace State

/-- Inside a literal, a directive or a comment. -/
def hides (s : State) : Bool := s.inLiteral || s.inComment

/-- The state without the text of its line and the character before. -/
def veiled (s : State) : State := { s with previous := lineStart, currentLine := "" }

/-- The second text is as long as the first, and differs from it only where the first is hidden when
it is read from `s`; the characters there are plain in both. -/
def Masks (s : State) (text text' : List Char) : Prop :=
  text'.length = text.length ∧
    ∀ p ∈ (s.trace text).zip text', p.2 ≠ p.1.1 →
      p.1.2.hides = true ∧ isPlain p.1.1 = true ∧ isPlain p.2 = true

/-- The two states differ in the text of their line only, and in the character before if it is
plain. -/
structure Alike (s s' : State) : Prop where
  veiled : s'.veiled = s.veiled
  previous : s'.previous = s.previous ∨ (isPlain s.previous = true ∧ isPlain s'.previous = true)

theorem Masks.eq_nil {s : State} {text' : List Char} (h : s.Masks [] text') : text' = [] :=
  List.eq_nil_of_length_eq_zero h.1

theorem Masks.exists_cons {s : State} {c : Char} {cs text' : List Char}
    (h : s.Masks (c :: cs) text') :
    ∃ c' cs', text' = c' :: cs' ∧
      (c' ≠ c → (s.enter c).hides = true ∧ isPlain c = true ∧ isPlain c' = true) ∧
      (s.advance c).Masks cs cs' := by
  cases text' with
  | nil => cases h.1
  | cons c' cs' =>
    simp only [Masks, trace, List.zip_cons_cons, List.forall_mem_cons, List.length_cons,
      Nat.add_right_cancel_iff] at h
    exact ⟨c', cs', rfl, h.2.1, h.1, h.2.2⟩

/-! ## The character before -/

/-- The state with another text of its line and another character before. -/
def retold (p : Char) (line : String) (s : State) : State :=
  { s with previous := p, currentLine := line }

theorem Alike.eq_retold {s s' : State} (h : s.Alike s') :
    s' = s.retold s'.previous s'.currentLine := by
  have hveiled := h.veiled
  cases s
  cases s'
  simp_all [State.veiled, retold]

theorem ne_of_isPlain {c d : Char} (hc : isPlain c = true) (hd : isPlain d = false) : c ≠ d := by
  rintro rfl
  rw [hc] at hd
  cases hd

theorem isBlank_of_isPlain {c : Char} (hc : isPlain c = true) : Text.isBlank c = false := by
  simp only [isPlain, Bool.not_eq_true', Bool.or_eq_false_iff] at hc
  exact hc.1

/-- What a character sees of the one before: a slash, a star, a blank, or none of these. -/
theorem Alike.previous_eq {s s' : State} (h : s.Alike s') :
    (s'.previous == '/') = (s.previous == '/') ∧ (s'.previous == '*') = (s.previous == '*') ∧
      Text.isBlank s'.previous = Text.isBlank s.previous := by
  rcases h.previous with hprevious | ⟨hs, hs'⟩
  · rw [hprevious]
    exact ⟨rfl, rfl, rfl⟩
  · have hne {c : Char} (hc : isPlain c = false) : (s'.previous == c) = (s.previous == c) := by
      rw [beq_false_of_ne (ne_of_isPlain hs hc), beq_false_of_ne (ne_of_isPlain hs' hc)]
    exact ⟨hne (by decide), hne (by decide),
      (isBlank_of_isPlain hs').trans (isBlank_of_isPlain hs).symm⟩

theorem mark_retold {s : State} {p : Char} (hslash : (p == '/') = (s.previous == '/'))
    (hstar : (p == '*') = (s.previous == '*')) (line : String) (c : Char) :
    (s.retold p line).mark c = (s.mark c).retold p line := by
  have hprevious : (s.retold p line).previous = p := rfl
  simp only [mark, toggleChar, toggleString, enterDirective, markSlash, markStar, hprevious, hslash,
    hstar, bne, apply_ite (retold p line)]
  rfl

theorem Alike.enter {s s' : State} (h : s.Alike s') (c : Char) :
    (s'.enter c).veiled = (s.enter c).veiled := by
  obtain ⟨hslash, hstar, hblank⟩ := h.previous_eq
  rw [h.eq_retold]
  generalize s'.previous = p at hslash hstar hblank
  generalize s'.currentLine = line
  have hpush : (s.retold p line).push c = (s.push c).retold p (line.push c) := rfl
  rw [State.enter, State.enter, hpush, mark_retold (s := s.push c) hslash hstar]
  generalize ht : (s.push c).mark c = t
  have hprevious : t.previous = s.previous := by
    rw [← ht, previous_mark]
    rfl
  -- a slash is classified by whether it stands behind a blank
  have hstep : (t.retold p (line.push c)).classify c = t.classify c := by
    simp [classify, retold, hprevious, hblank]
  have hliteral : (t.retold p (line.push c)).inLiteral = t.inLiteral := rfl
  simp only [settle, hstep, hliteral]
  split <;> rfl

/-! ## Hidden characters -/

theorem mark_of_isPlain {c : Char} (hc : isPlain c = true) (s : State) :
    s.mark c = { s with claimed := false } := by
  have hne {d : Char} (hd : isPlain d = false) : c ≠ d := ne_of_isPlain hc hd
  rw [mark, if_neg (hne (by decide)), if_neg (hne (by decide)), if_neg (hne (by decide)),
    if_neg (hne (by decide)), if_neg (hne (by decide))]

theorem hides_enter {c : Char} (hc : isPlain c = true) (s : State) :
    (s.enter c).hides = s.hides := by
  obtain ⟨last, h⟩ := settle_eq ((s.push c).mark c) c
  rw [enter, h, mark_of_isPlain hc]
  rfl

/-- Hidden code is in a literal. -/
theorem inLiteral_of_hides {s : State} {c : Char} (hc : isPlain c = true)
    (hs : (s.enter c).hides = true) (hcode : (s.enter c).step = .code) :
    (s.enter c).inLiteral = true := by
  rcases Bool.or_eq_true_iff.mp hs with hliteral | hcomment
  · exact hliteral
  · have hnewline : c ≠ '\n' := ne_of_isPlain hc (by decide)
    rw [step_enter_of_inComment hnewline hcomment] at hcode
    cases hcode

/-- A plain character makes no transition. Where it is hidden, it is not significant either. -/
theorem enter_of_isPlain {s : State} (hs : s.hides = true) {c : Char} (hc : isPlain c = true) :
    s.enter c =
      { s.push c with
        claimed := false
        step := if s.inComment || s.inBlock then .skip else .code } := by
  have hnewline : c ≠ '\n' := ne_of_isPlain hc (by decide)
  have hslash : c ≠ '/' := ne_of_isPlain hc (by decide)
  have hstep : classify { s.push c with claimed := false } c =
      if s.inComment || s.inBlock then .skip else .code := by
    simp [classify, hnewline, hslash, push]
  rw [enter, mark_of_isPlain hc, settle, hstep, if_neg]
  -- code that is hidden is in a literal, and what is significant is not
  rintro ⟨hcode, _, hliteral⟩
  have hliteral : s.inLiteral = false := hliteral
  simp_all [hides]

theorem Alike.enter_plain {s s' : State} (h : s.Alike s') (hs : s.hides = true) {c c' : Char}
    (hc : isPlain c = true) (hc' : isPlain c' = true) :
    (s'.enter c').veiled = (s.enter c).veiled := by
  rw [h.eq_retold]
  generalize s'.previous = p
  generalize s'.currentLine = line
  have hs' : (s.retold p line).hides = true := hs
  rw [enter_of_isPlain hs hc, enter_of_isPlain hs' hc']
  simp [State.veiled, push, retold, isBlank_of_isPlain hc, isBlank_of_isPlain hc']

/-! ## Along the texts -/

theorem veiled_leave (s : State) (c : Char) : (s.leave c).veiled = (s.veiled.leave c).veiled := by
  by_cases hc : c = '\n'
  · simp only [leave, if_pos hc]
    rfl
  · simp only [leave, if_neg hc]
    rfl

theorem leave_of_isPlain {c : Char} (hc : isPlain c = true) (s : State) :
    s.leave c = { s with previous := c, escaped := false, claimed := false } := by
  have hnewline : c ≠ '\n' := ne_of_isPlain hc (by decide)
  have hescape : c ≠ '\\' := ne_of_isPlain hc (by decide)
  simp [leave, hnewline, hescape]

/-- One character of each text: the rules see the same, and the states stay alike. -/
theorem Alike.step {s s' : State} (h : s.Alike s') {c c' : Char}
    (hmask : c' ≠ c → (s.enter c).hides = true ∧ isPlain c = true ∧ isPlain c' = true) :
    (s'.enter c').veiled = (s.enter c).veiled ∧ (s.advance c).Alike (s'.advance c') := by
  by_cases hsame : c' = c
  · subst hsame
    have henter := h.enter c'
    refine ⟨henter, ?_, .inl rfl⟩
    rw [advance, advance, veiled_leave, henter, ← veiled_leave]
  · -- a plain character opens and closes nothing, so it was hidden before it was read
    obtain ⟨hs, hc, hc'⟩ := hmask hsame
    rw [hides_enter hc] at hs
    have henter := h.enter_plain hs hc hc'
    refine ⟨henter, ?_, .inr ⟨hc, hc'⟩⟩
    rw [advance, advance, veiled_leave, henter, leave_of_isPlain hc, leave_of_isPlain hc']
    rfl

theorem Alike.trace {s s' : State} (h : s.Alike s') {text text' : List Char}
    (hmask : s.Masks text text') :
    (s'.trace text').map (fun p => p.2.veiled) = (s.trace text).map (fun p => p.2.veiled) := by
  induction text generalizing s s' text' with
  | nil =>
    rw [hmask.eq_nil]
    rfl
  | cons c cs ih =>
    obtain ⟨c', cs', rfl, hc, hrest⟩ := hmask.exists_cons
    obtain ⟨henter, hnext⟩ := h.step hc
    simp only [State.trace, List.map_cons, henter, ih hnext hrest]

theorem alike_refl (s : State) : s.Alike s := ⟨rfl, .inl rfl⟩

end State
end Lexical
end StyleScan
