import Mathlib.Data.List.Forall2
import StyleScan.Proofs.Scan.Observe

/-!
# StyleScan.Proofs.Scan.LineText

What the rules make of the text of a line: they copy it into their violations, and all but one look
no further. The rule of statements that span lines looks for the call of a constructor.

* `State.shown`          — what rules see of a state when its line is changed by `f`.
* `LineView`             — a change of lines that changes the source lines of violations by `g`.
* `Rule.check_shown`, `Rule.close_shown` — a rule that is shown changed lines reports as before,
  with changed source lines.
* `Rule.SameShown`       — two rules that differ in what they remember of the text of lines.
* `Rule.sameShown_checkAll`, `Rule.sameShown_closeAll` — such rules go on alike.
-/

namespace StyleScan

open Lexical (State Step lineStart)
open Violation (stripLineEnding)

/-- What rules see of a state when its line is changed by `f`: neither the character before, nor
whether it escapes, nor who claimed the current one, nor how long a comment lasts. -/
def Lexical.State.shown (f : String → String) (s : State) : State :=
  { s with
    previous := lineStart
    escaped := false
    inBlock := false
    claimed := false
    currentLine := f s.currentLine }

section State

variable (f : String → String) (s : State)

@[simp] theorem Lexical.State.step_shown : (s.shown f).step = s.step := rfl

@[simp] theorem Lexical.State.inLiteral_shown : (s.shown f).inLiteral = s.inLiteral := rfl

@[simp] theorem Lexical.State.lastSignificant_shown :
    (s.shown f).lastSignificant = s.lastSignificant := rfl

@[simp] theorem Lexical.State.blankLine_shown : (s.shown f).blankLine = s.blankLine := rfl

end State

/-- The violation with its source line changed by `g`. -/
def Violation.shown (g : String → String) (v : Violation) : Violation :=
  { v with sourceLine := g v.sourceLine }

/-- Changing a line by `f` changes the source lines that are made of it by `g`. -/
structure LineView (f g : String → String) : Prop where
  plain (line : String) : stripLineEnding (f line) = g (stripLineEnding line)
  dotted (line : String) :
    stripLineEnding (Rule.LineWidth.dotted (f line)) =
      g (stripLineEnding (Rule.LineWidth.dotted line))
  /-- A finding about the whole file has no source line. -/
  empty : g "" = ""

theorem LineView.make {f g : String → String} (h : LineView f g) (kind : Kind) (line : Option Nat)
    (message text : String) (suggestion : Option String) :
    Violation.make kind line message (f text) suggestion =
      (Violation.make kind line message text suggestion).shown g := by
  simp only [Violation.make, Violation.shown, h.plain]

namespace Rule

/-- The rule with its held-back violation changed by `g`. -/
def StatementSpan.shown (g : String → String) (r : StatementSpan) : StatementSpan :=
  { r with pending := r.pending.map (Violation.shown g) }

/-- The rule with the line that opened its method changed by `f`. -/
def MethodLength.shown (f : String → String) (r : MethodLength) : MethodLength :=
  { r with openingLine := f r.openingLine }

/-- The rule with the lines that it remembers changed by `f`, and the violations by `g`. -/
def shown (f g : String → String) : Rule → Rule
  | fileLength r => fileLength r
  | lineWidth r => lineWidth r
  | statementCount r => statementCount r
  | statementSpan r => statementSpan (r.shown g)
  | methodLength r => methodLength (r.shown f)
  | wordLength r => wordLength r
  | observer kind => observer kind

/-- If the rule looks into lines, it finds in a changed line what it finds in the line. -/
def Overlooks (f : String → String) : Rule → Prop
  | statementSpan _ => ∀ (s : State) (first : Char),
      (s.shown f).opensInitializer first = s.opensInitializer first
  | _ => True

/-! ## Rule by rule -/

section Step

variable {f g : String → String} (h : LineView f g) (c : Char) (s : State)

theorem FileLength.check_shown (r : FileLength) :
    r.check c (s.shown f) = (r.check c s).map id (List.map (Violation.shown g)) := by
  rw [check, check, State.step_shown, State.blankLine_shown]
  split
  · rfl
  · split <;> rfl
  · rfl

include h

theorem FileLength.close_shown (r : FileLength) :
    (r.close (s.shown f)).2 = (r.close s).2.map (Violation.shown g) := by
  have hviolation : r.violation.shown g = r.violation := by
    have hstrip : stripLineEnding "" = "" := rfl
    simp only [violation, Violation.make, Violation.shown, hstrip, h.empty]
  simp only [close]
  split
  · simp [hviolation]
  · rfl

theorem LineWidth.endLine_shown (r : LineWidth) :
    r.endLine (s.shown f) = (r.endLine s).map id (List.map (Violation.shown g)) := by
  have hviolation : r.violation (s.shown f) = (r.violation s).shown g := by
    simp only [violation, Violation.make, Violation.shown, State.shown, h.dotted]
  simp only [endLine, hviolation]
  split <;> rfl

theorem LineWidth.check_shown (r : LineWidth) :
    r.check c (s.shown f) = (r.check c s).map id (List.map (Violation.shown g)) := by
  rw [check, check, State.step_shown]
  split
  · exact endLine_shown h s r
  · split <;> rfl

theorem StatementCount.endLine_shown (r : StatementCount) :
    r.endLine (s.shown f) = (r.endLine s).map id (List.map (Violation.shown g)) := by
  have hviolation : violation (s.shown f) = (violation s).shown g := h.make ..
  have hseparators : r.separators (s.shown f) = r.separators s := rfl
  simp only [endLine, hviolation, hseparators]
  split <;> rfl

theorem StatementCount.check_shown (r : StatementCount) :
    r.check c (s.shown f) = (r.check c s).map id (List.map (Violation.shown g)) := by
  rw [check, check, State.step_shown, State.inLiteral_shown]
  split
  · exact endLine_shown h s r
  · split <;> rfl
  · rfl

theorem WordLength.flush_shown (r : WordLength) :
    r.flush (s.shown f) = (r.flush s).map id (List.map (Violation.shown g)) := by
  have hviolation : r.violation (s.shown f) = (r.violation s).shown g := h.make ..
  simp only [flush, hviolation]
  split
  · rfl
  · split <;> rfl

theorem WordLength.check_shown (r : WordLength) :
    r.check c (s.shown f) = (r.check c s).map id (List.map (Violation.shown g)) := by
  rw [check, check, State.step_shown, State.inLiteral_shown]
  split
  · exact flush_shown h s r
  · split
    · rfl
    · split
      · exact flush_shown h s r
      · split <;> rfl
  · rfl

theorem StatementSpan.endLine_shown (r : StatementSpan) (hlooks : (statementSpan r).Overlooks f) :
    (r.shown g).endLine (s.shown f) =
      (r.endLine s).map (StatementSpan.shown g) (List.map (Violation.shown g)) := by
  have hviolation : violation (s.shown f) = (violation s).shown g := h.make ..
  have hrelease : (r.shown g).release (s.shown f) = (r.release s).map (Violation.shown g) := by
    have hopens : (s.shown f).opensInitializer (r.shown g).first = s.opensInitializer r.first :=
      hlooks s r.first
    simp only [release, hopens]
    split
    · rfl
    · cases hpending : r.pending <;> simp [shown, hpending]
  have hclosed (last : Char) : (r.shown g).isClosed last = r.isClosed last := rfl
  rw [endLine, endLine, hrelease, hclosed, hviolation, State.lastSignificant_shown]
  split
  · rfl
  · split
    · rfl
    · simp only [Prod.map, List.map_append]
      rfl

theorem StatementSpan.check_shown (r : StatementSpan) (hlooks : (statementSpan r).Overlooks f) :
    (r.shown g).check c (s.shown f) =
      (r.check c s).map (StatementSpan.shown g) (List.map (Violation.shown g)) := by
  rw [check, check, State.step_shown, State.inLiteral_shown]
  split
  · exact endLine_shown h s r hlooks
  · split <;> rfl
  · rfl

theorem MethodLength.closeBrace_shown (r : MethodLength) :
    (r.shown f).closeBrace =
      r.closeBrace.map (MethodLength.shown f) (List.map (Violation.shown g)) := by
  have hviolation : (r.shown f).violation = r.violation.shown g := h.make ..
  have hmethod : ((r.shown f).inMethod = true ∧ (r.shown f).braces - 1 < (r.shown f).start) =
      (r.inMethod = true ∧ r.braces - 1 < r.start) := rfl
  have hlong : ((r.shown f).maxLines < (r.shown f).length) = (r.maxLines < r.length) := rfl
  simp only [closeBrace, hviolation, hmethod, hlong]
  split
  · split <;> rfl
  · rfl

theorem MethodLength.count_shown (r : MethodLength) :
    (r.shown f).count c =
      (r.count c).map (MethodLength.shown f) (List.map (Violation.shown g)) := by
  simp only [count]
  split
  · rfl
  · split
    · rfl
    · split
      · rfl
      · split
        · exact closeBrace_shown h r
        · rfl

omit h in
theorem MethodLength.endLine_shown (r : MethodLength) :
    (r.shown f).endLine (s.shown f) = (r.endLine s).shown f := by
  have hmethod : (r.shown f).inMethod = r.inMethod := rfl
  have hcounts : ((s.shown f).blankLine || (r.shown f).hasCode) = (s.blankLine || r.hasCode) := rfl
  have hopens : (r.shown f).opensMethod (s.shown f) = r.opensMethod s := rfl
  simp only [endLine, hmethod, hcounts, hopens]
  split
  · split <;> rfl
  · split <;> rfl

theorem MethodLength.check_shown (r : MethodLength) :
    (r.shown f).check c (s.shown f) =
      (r.check c s).map (MethodLength.shown f) (List.map (Violation.shown g)) := by
  rw [check, check, State.step_shown, State.inLiteral_shown]
  split
  · rw [endLine_shown]
    rfl
  · split
    · rfl
    · split
      · rfl
      · exact count_shown h c { r with hasCode := true }
  · rfl

/-! ## Every rule -/

/-- A rule that is shown changed lines goes on as before, and reports changed source lines. -/
theorem check_shown {r : Rule} (hlooks : r.Overlooks f) :
    (r.shown f g).check c (s.shown f) =
      (r.check c s).map (shown f g) (List.map (Violation.shown g)) := by
  cases r with
  | fileLength r =>
    rw [shown, check, check, FileLength.check_shown]
    rfl
  | lineWidth r =>
    rw [shown, check, check, LineWidth.check_shown h]
    rfl
  | statementCount r =>
    rw [shown, check, check, StatementCount.check_shown h]
    rfl
  | statementSpan r =>
    rw [shown, check, check, StatementSpan.check_shown h c s r hlooks]
    rfl
  | methodLength r =>
    rw [shown, check, check, MethodLength.check_shown h]
    rfl
  | wordLength r =>
    rw [shown, check, check, WordLength.check_shown h]
    rfl
  | observer kind => rfl

theorem close_shown {r : Rule} (hlooks : r.Overlooks f) :
    ((r.shown f g).close (s.shown f)).2 = (r.close s).2.map (Violation.shown g) := by
  cases r with
  | fileLength r => exact FileLength.close_shown h s r
  | lineWidth r =>
    rw [shown, close, close, LineWidth.close, LineWidth.close, LineWidth.endLine_shown h]
    rfl
  | statementCount r =>
    rw [shown, close, close, StatementCount.close, StatementCount.close,
      StatementCount.endLine_shown h]
    rfl
  | statementSpan r =>
    simp only [shown, close, StatementSpan.close, StatementSpan.endLine_shown h s r hlooks,
      Prod.map, id, List.map_append]
    cases hpending : (r.endLine s).1.pending <;> simp [StatementSpan.shown, hpending]
  | methodLength r => rfl
  | wordLength r =>
    rw [shown, close, close, WordLength.close, WordLength.close, WordLength.flush_shown h]
    rfl
  | observer kind => rfl

end Step

/-! ## Rules that remember different texts -/

/-- Two rules that differ in what they remember of the text of lines only, and do not look there. -/
structure SameShown (f g : String → String) (r r' : Rule) : Prop where
  overlooks : r.Overlooks f
  overlooks' : r'.Overlooks f
  shown : r'.shown f g = r.shown f g

section Same

variable {f g : String → String} (h : LineView f g) {s s' : State} (hs : s'.shown f = s.shown f)

theorem overlooks_check {r : Rule} (hlooks : r.Overlooks f) (c : Char) (s : State) :
    (r.check c s).1.Overlooks f := by
  cases r with
  | statementSpan r => exact hlooks
  | _ => trivial

include h hs

theorem SameShown.check {r r' : Rule} (hr : SameShown f g r r') (c : Char) :
    SameShown f g (r.check c s).1 (r'.check c s').1 ∧
      (r'.check c s').2.map (Violation.shown g) = (r.check c s).2.map (Violation.shown g) := by
  -- shown the changed line, the two rules are one
  have hcheck := check_shown h c s' hr.overlooks'
  rw [hr.shown, hs, check_shown h c s hr.overlooks] at hcheck
  obtain ⟨hrule, hreports⟩ := Prod.ext_iff.mp hcheck
  exact ⟨⟨overlooks_check hr.overlooks c s, overlooks_check hr.overlooks' c s', hrule.symm⟩,
    hreports.symm⟩

theorem SameShown.close {r r' : Rule} (hr : SameShown f g r r') :
    (r'.close s').2.map (Violation.shown g) = (r.close s).2.map (Violation.shown g) := by
  rw [← close_shown h s' hr.overlooks', ← close_shown h s hr.overlooks, hr.shown, hs]

theorem sameShown_checkAll {rules rules' : List Rule}
    (hrules : List.Forall₂ (SameShown f g) rules rules') (c : Char) :
    List.Forall₂ (SameShown f g) (checkAll c s rules).1 (checkAll c s' rules').1 ∧
      (checkAll c s' rules').2.map (Violation.shown g) =
        (checkAll c s rules).2.map (Violation.shown g) := by
  induction hrules with
  | nil => exact ⟨.nil, rfl⟩
  | cons hr _ ih =>
    obtain ⟨hrule, hreports⟩ := hr.check h hs c
    simp only [checkAll, List.map_append]
    exact ⟨.cons hrule ih.1, by rw [hreports, ih.2]⟩

theorem sameShown_closeAll {rules rules' : List Rule}
    (hrules : List.Forall₂ (SameShown f g) rules rules') :
    (closeAll s' rules').2.map (Violation.shown g) =
      (closeAll s rules).2.map (Violation.shown g) := by
  induction hrules with
  | nil => rfl
  | cons hr _ ih => simp only [closeAll, List.map_append, hr.close h hs, ih]

end Same
end Rule
end StyleScan
