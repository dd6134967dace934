import StyleScan.Proofs.Lexical.Invariant

/-!
# StyleScan.Proofs.Lexical.Nesting

Which literals are open at once. A quote opens nothing inside a literal of the other kind, and a
hash sign nothing inside either; but inside a directive a quote opens a literal as everywhere else.

* `State.openLiterals`    — how many of character literal, string and directive are open.
* `State.points`          — every state that a scan goes through.
* `State.quotesDirective` — a character opens a literal inside a directive.
* `State.literals_enter`  — what a character does to the literals.
* `State.openLiterals_enter_iff` — a second literal is opened inside a directive only.
* `State.literals_nest_iff` — the texts in whose scan no literal is opened inside another.
-/

namespace StyleScan
namespace Lexical
namespace State

/-- How many of the three kinds of literals are open. -/
def openLiterals (s : State) : Nat := [s.inChar, s.inString, s.inDirective].count true

/-- The states that a text leads through: those between its characters, and those in which its
characters are observed. -/
def points (s : State) : List Char → List State
  | [] => [s]
  | c :: cs => s :: s.enter c :: (s.advance c).points cs

/-- A quote inside a directive, and not an escaped one of a character literal. -/
def quotesDirective (s : State) (c : Char) : Bool :=
  s.inDirective && (c == '"' || (c == '\'' && !s.escaped))

/-! ## One character -/

theorem literals_mark_eq (s : State) (c : Char) :
    (s.mark c).inChar = (s.inChar ^^ (c == '\'' && !s.escaped && !s.inString)) ∧
      (s.mark c).inString = (s.inString ^^ (c == '"' && !s.inChar)) ∧
      (s.mark c).inDirective = (s.inDirective || (c == '#' && !s.inChar && !s.inString)) := by
  by_cases hquote : c = '\'' ∨ c = '"' ∨ c = '#'
  · rcases hquote with rfl | rfl | rfl
    · grind [mark, toggleChar]
    · grind [mark, toggleString]
    · grind [mark, enterDirective]
  · -- the marks of comments leave the literals alone
    grind [mark, markSlash, markStar]

/-- A quote toggles the literal of its kind outside the other kind, escaped ones apart, and a hash
sign opens a directive outside both. -/
theorem literals_enter (s : State) (c : Char) :
    (s.enter c).inChar = (s.inChar ^^ (c == '\'' && !s.escaped && !s.inString)) ∧
      (s.enter c).inString = (s.inString ^^ (c == '"' && !s.inChar)) ∧
      (s.enter c).inDirective = (s.inDirective || (c == '#' && !s.inChar && !s.inString)) := by
  rw [enter_eq]
  exact literals_mark_eq (s.push c) c

theorem openLiterals_advance_le (s : State) (c : Char) :
    (s.advance c).openLiterals ≤ (s.enter c).openLiterals := by
  simp only [advance, leave]
  split
  · exact Nat.zero_le _
  · exact Nat.le_refl _

theorem quotesDirective_enter (s : State) (c : Char) :
    (s.enter c).quotesDirective c = s.quotesDirective c := by
  rw [quotesDirective, quotesDirective, (literals_enter s c).2.2, escaped_enter]
  grind

theorem openLiterals_le_one_iff (s : State) :
    s.openLiterals ≤ 1 ↔
      ¬ (s.inChar = true ∧ s.inString = true) ∧
        (s.inDirective = true → s.inChar = false ∧ s.inString = false) := by
  rw [openLiterals]
  cases s.inChar <;> cases s.inString <;> cases s.inDirective <;> decide

/-- Where at most one literal is open, a second one is opened by a quote inside a directive and by
nothing else. -/
theorem openLiterals_enter_iff {s : State} (h : s.openLiterals ≤ 1) (c : Char) :
    (s.enter c).openLiterals ≤ 1 ↔ s.quotesDirective c = false := by
  obtain ⟨hchar, hstring, hdirective⟩ := literals_enter s c
  rw [openLiterals_le_one_iff] at h ⊢
  rw [hchar, hstring, hdirective, quotesDirective]
  cases hd : s.inDirective with
  | true =>
    -- nothing else is open, so a quote opens its literal
    obtain ⟨hc, hs⟩ := h.2 hd
    rw [hc, hs]
    grind
  | false =>
    -- each mark looks at all the literals that can be open
    have hs := h.1
    grind

/-! ## Along a text -/

theorem literals_points {s : State} (h : ¬ (s.inChar = true ∧ s.inString = true))
    (text : List Char) :
    ∀ t ∈ s.points text, ¬ (t.inChar = true ∧ t.inString = true) := by
  induction text generalizing s with
  | nil =>
    intro t ht
    rw [List.mem_singleton.mp ht]
    exact h
  | cons c cs ih =>
    have henter : ¬ ((s.enter c).inChar = true ∧ (s.enter c).inString = true) := by
      rw [enter_eq]
      exact literals_mark (s := s.push c) h c
    intro t ht
    rcases List.mem_cons.mp ht with rfl | ht
    · exact h
    · rcases List.mem_cons.mp ht with rfl | ht
      · exact henter
      · exact ih (literals_advance h c) t ht

theorem openLiterals_points_iff {s : State} (h : s.openLiterals ≤ 1) (text : List Char) :
    (∀ t ∈ s.points text, t.openLiterals ≤ 1) ↔
      ∀ p ∈ s.trace text, p.2.quotesDirective p.1 = false := by
  induction text generalizing s with
  | nil => simp [points, trace, h]
  | cons c cs ih =>
    simp only [points, trace, List.forall_mem_cons, quotesDirective_enter]
    rw [openLiterals_enter_iff h]
    constructor
    · rintro ⟨_, hc, hrest⟩
      have hnext := (openLiterals_advance_le s c).trans ((openLiterals_enter_iff h c).mpr hc)
      exact ⟨hc, (ih hnext).mp hrest⟩
    · rintro ⟨hc, hrest⟩
      have hnext := (openLiterals_advance_le s c).trans ((openLiterals_enter_iff h c).mpr hc)
      exact ⟨h, hc, (ih hnext).mpr hrest⟩

/-- **Literals nest in directives only.** At no point of a scan are a character literal and a string
open at once. At most one of the three kinds of literals is open at every point exactly if no quote
stands inside a directive, an escaped quote of a character literal apart. -/
theorem literals_nest_iff (text : List Char) :
    (∀ s ∈ ({} : State).points text, ¬ (s.inChar = true ∧ s.inString = true)) ∧
      ((∀ s ∈ ({} : State).points text, s.openLiterals ≤ 1) ↔
        ∀ p ∈ ({} : State).trace text, p.2.quotesDirective p.1 = false) := by
  refine ⟨literals_points ?_ text, openLiterals_points_iff ?_ text⟩
  · simp
  · decide

/-- A string inside a directive. -/
theorem string_nests_in_directive :
    ¬ ∀ (text : List Char), ∀ s ∈ ({} : State).points text, s.openLiterals ≤ 1 := by
  intro h
  have hstring := h ['#', '"']
  revert hstring
  decide

end State
end Lexical
end StyleScan
