import StyleScan.Proofs.Lexical.LineBoundary
import StyleScan.Proofs.Scan.Observe

/-!
# StyleScan.Proofs.Scan.LineBoundary

Scanning a text in two parts that are cut behind a line feed outside comments.

* `Rule.carries`        — what a rule takes with it over the end of a line.
* `Rule.SameBelow`      — two rules are in the same situation, one of them on a later line.
* `Rule.sameBelow_check` — a character keeps them so, and both report the same.
* `Rule.sameBelow_line` — a rule that carries nothing over a line feed is as good as new.
* `Rule.scan_by_lines`  — what is found in a text is what is found in its parts.
-/

namespace StyleScan

open Lexical (State Step lineStart)

/-- The violation with its line `n` lines further down. -/
def Violation.below (n : Nat) (v : Violation) : Violation := { v with line := v.line.map (· + n) }

namespace Rule

/-! ## The same situation on a later line -/

/-- The two rules agree on the current line, and on the open method if there is one. The depth of
the braces outside a method does not matter. -/
structure MethodLength.SameBelow (n : Nat) (r r' : MethodLength) : Prop where
  maxLines : r'.maxLines = r.maxLines
  length : r'.length = r.length
  inMethod : r'.inMethod = r.inMethod
  opened : r'.opened = r.opened
  closed : r'.closed = r.closed
  depth : r'.depth = r.depth
  hasCode : r'.hasCode = r.hasCode
  method : r.inMethod = true → r'.braces - r'.start = r.braces - r.start ∧
    r'.openingLine = r.openingLine ∧ r'.openingNumber = r.openingNumber + n

/-- The rule with the violation that it holds back `n` lines further down. -/
def StatementSpan.below (n : Nat) (r : StatementSpan) : StatementSpan :=
  { r with pending := r.pending.map (Violation.below n) }

/-- The second rule, `n` lines further down, is in the situation of the first. -/
inductive SameBelow (n : Nat) : Rule → Rule → Prop where
  | fileLength (r : FileLength) : SameBelow n (.fileLength r) (.fileLength r)
  | lineWidth (r : LineWidth) : SameBelow n (.lineWidth r) (.lineWidth r)
  | statementCount (r : StatementCount) : SameBelow n (.statementCount r) (.statementCount r)
  | statementSpan (r : StatementSpan) : SameBelow n (.statementSpan r) (.statementSpan (r.below n))
  | methodLength {r r' : MethodLength} :
      r.SameBelow n r' → SameBelow n (.methodLength r) (.methodLength r')
  | wordLength (r : WordLength) : SameBelow n (.wordLength r) (.wordLength r)
  | observer (kind : Kind) : SameBelow n (.observer kind) (.observer kind)

section Step

variable (n : Nat) (c : Char) (s : State)

theorem FileLength.check_below (r : FileLength) :
    r.check c (s.below n) = (r.check c s).map id (List.map (Violation.below n)) := by
  rw [check, check, State.step_below]
  split
  · rfl
  · split <;> rfl
  · rfl

theorem LineWidth.endLine_below (r : LineWidth) :
    r.endLine (s.below n) = (r.endLine s).map id (List.map (Violation.below n)) := by
  simp only [endLine]
  split <;> rfl

theorem LineWidth.check_below (r : LineWidth) :
    r.check c (s.below n) = (r.check c s).map id (List.map (Violation.below n)) := by
  rw [check, check, State.step_below]
  split
  · exact endLine_below n s r
  · split <;> rfl

theorem StatementCount.endLine_below (r : StatementCount) :
    r.endLine (s.below n) = (r.endLine s).map id (List.map (Violation.below n)) := by
  have hseparators : r.separators (s.below n) = r.separators s := rfl
  simp only [endLine, hseparators]
  split <;> rfl

theorem StatementCount.check_below (r : StatementCount) :
    r.check c (s.below n) = (r.check c s).map id (List.map (Violation.below n)) := by
  rw [check, check, State.step_below, State.inLiteral_below]
  split
  · exact endLine_below n s r
  · split <;> rfl
  · rfl

theorem WordLength.flush_below (r : WordLength) :
    r.flush (s.below n) = (r.flush s).map id (List.map (Violation.below n)) := by
  simp only [flush]
  split
  · rfl
  · split <;> rfl

theorem WordLength.check_below (r : WordLength) :
    r.check c (s.below n) = (r.check c s).map id (List.map (Violation.below n)) := by
  rw [check, check, State.step_below, State.inLiteral_below]
  split
  · exact flush_below n s r
  · split
    · rfl
    · split
      · exact flush_below n s r
      · split <;> rfl
  · rfl

theorem StatementSpan.endLine_below (r : StatementSpan) :
    (r.below n).endLine (s.below n) =
      (r.endLine s).map (StatementSpan.below n) (List.map (Violation.below n)) := by
  have hrelease : (r.below n).release (s.below n) = (r.release s).map (Violation.below n) := by
    have hopens : (s.below n).opensInitializer (r.below n).first = s.opensInitializer r.first := rfl
    simp only [release, hopens]
    split
    · rfl
    · cases hpending : r.pending <;> simp [below, hpending]
  have hclosed (last : Char) : (r.below n).isClosed last = r.isClosed last := rfl
  rw [endLine, endLine, hrelease, hclosed, State.lastSignificant_below]
  split
  · rfl
  · split
    · rfl
    · simp only [Prod.map, List.map_append]
      rfl

theorem StatementSpan.check_below (r : StatementSpan) :
    (r.below n).check c (s.below n) =
      (r.check c s).map (StatementSpan.below n) (List.map (Violation.below n)) := by
  rw [check, check, State.step_below, State.inLiteral_below]
  split
  · exact endLine_below n s r
  · split <;> rfl
  · rfl

/-- A brace closes the methods of both rules or of neither: only the depth within counts. -/
theorem MethodLength.SameBelow.closeBrace {r r' : MethodLength} (h : r.SameBelow n r') :
    r.closeBrace.1.SameBelow n r'.closeBrace.1 ∧
      r'.closeBrace.2 = r.closeBrace.2.map (Violation.below n) := by
  by_cases hend : r.inMethod = true ∧ r.braces - 1 < r.start
  · obtain ⟨hbraces, hline, hnumber⟩ := h.method hend.1
    have hend' : r'.inMethod = true ∧ r'.braces - 1 < r'.start :=
      ⟨h.inMethod.trans hend.1, by omega⟩
    have hviolation : r'.violation = r.violation.below n := by
      rw [violation, violation, hline, hnumber, h.length, h.maxLines]
      rfl
    simp only [MethodLength.closeBrace, if_pos hend, if_pos hend', hviolation, h.maxLines, h.length]
    refine ⟨⟨rfl, rfl, rfl, h.opened, h.closed, h.depth, h.hasCode, ?_⟩, ?_⟩
    · intro hm
      cases hm
    · split <;> rfl
  · have hend' : ¬ (r'.inMethod = true ∧ r'.braces - 1 < r'.start) := by
      rintro ⟨hm, hlt⟩
      rw [h.inMethod] at hm
      have := (h.method hm).1
      exact hend ⟨hm, by omega⟩
    simp only [MethodLength.closeBrace, if_neg hend, if_neg hend']
    refine ⟨⟨h.maxLines, h.length, h.inMethod, h.opened, h.closed, h.depth, h.hasCode, ?_⟩, rfl⟩
    intro hm
    obtain ⟨hbraces, hline, hnumber⟩ := h.method hm
    exact ⟨by simp only; omega, hline, hnumber⟩

theorem MethodLength.SameBelow.count {r r' : MethodLength} (h : r.SameBelow n r') :
    (r.count c).1.SameBelow n (r'.count c).1 ∧
      (r'.count c).2 = (r.count c).2.map (Violation.below n) := by
  simp only [MethodLength.count]
  split
  · exact ⟨{ h with opened := by simp [h.opened, h.inMethod], depth := by simp [h.depth] }, rfl⟩
  · split
    · exact ⟨{ h with closed := by simp [h.closed, h.inMethod], depth := by simp [h.depth] }, rfl⟩
    · split
      · refine ⟨{ h with method := fun hm => ?_ }, rfl⟩
        obtain ⟨hbraces, hline, hnumber⟩ := h.method hm
        exact ⟨by simp only; omega, hline, hnumber⟩
      · split
        · exact h.closeBrace n
        · exact ⟨h, rfl⟩

theorem MethodLength.SameBelow.nextLine {r r' : MethodLength} (h : r.SameBelow n r') :
    r.nextLine.SameBelow n r'.nextLine :=
  { h with opened := rfl, closed := rfl, depth := rfl, hasCode := rfl }

theorem MethodLength.SameBelow.endLine {r r' : MethodLength} (h : r.SameBelow n r') :
    (r.endLine s).SameBelow n (r'.endLine (s.below n)) := by
  have hopens : r'.opensMethod (s.below n) = r.opensMethod s := by
    simp only [opensMethod, h.opened, h.closed, h.depth, State.lastSignificant_below]
  have hcounts : ((s.below n).blankLine || r'.hasCode) = (s.blankLine || r.hasCode) := by
    rw [h.hasCode, State.blankLine_below]
  rw [MethodLength.endLine, MethodLength.endLine, hcounts, hopens]
  by_cases hm : r.inMethod = true
  · rw [if_pos hm, if_pos (h.inMethod.trans hm)]
    refine SameBelow.nextLine n ?_
    split
    · exact { h with length := by simp [h.length] }
    · exact h
  · have hm' : ¬ r'.inMethod = true := h.inMethod ▸ hm
    rw [if_neg hm, if_neg hm']
    split
    · refine SameBelow.nextLine n { h with inMethod := rfl, method := fun _ => ⟨?_, rfl, rfl⟩ }
      simp
    · exact h.nextLine n

theorem MethodLength.SameBelow.check {r r' : MethodLength} (h : r.SameBelow n r') :
    (r.check c s).1.SameBelow n (r'.check c (s.below n)).1 ∧
      (r'.check c (s.below n)).2 = (r.check c s).2.map (Violation.below n) := by
  rw [MethodLength.check, MethodLength.check, State.step_below, State.inLiteral_below]
  split
  · exact ⟨h.endLine n s, rfl⟩
  · split
    · exact ⟨h, rfl⟩
    · split
      · exact ⟨{ h with hasCode := rfl }, rfl⟩
      · exact SameBelow.count n c { h with hasCode := rfl }
  · exact ⟨h, rfl⟩

/-- Two rules in the same situation stay in it, and report the same. -/
theorem sameBelow_check {r r' : Rule} (h : r.SameBelow n r') :
    (r.check c s).1.SameBelow n (r'.check c (s.below n)).1 ∧
      (r'.check c (s.below n)).2 = (r.check c s).2.map (Violation.below n) := by
  cases h with
  | fileLength r =>
    rw [check, check, FileLength.check_below]
    exact ⟨.fileLength _, rfl⟩
  | lineWidth r =>
    rw [check, check, LineWidth.check_below]
    exact ⟨.lineWidth _, rfl⟩
  | statementCount r =>
    rw [check, check, StatementCount.check_below]
    exact ⟨.statementCount _, rfl⟩
  | statementSpan r =>
    rw [check, check, StatementSpan.check_below]
    exact ⟨.statementSpan _, rfl⟩
  | methodLength h =>
    obtain ⟨hnext, hreports⟩ := h.check n c s
    exact ⟨.methodLength hnext, hreports⟩
  | wordLength r =>
    rw [check, check, WordLength.check_below]
    exact ⟨.wordLength _, rfl⟩
  | observer kind => exact ⟨.observer kind, rfl⟩

theorem sameBelow_close {r r' : Rule} (h : r.SameBelow n r') :
    (r'.close (s.below n)).2 = (r.close s).2.map (Violation.below n) := by
  cases h with
  | fileLength r =>
    simp only [close, FileLength.close, Prod.map, id]
    split <;> rfl
  | lineWidth r =>
    rw [close, close, LineWidth.close, LineWidth.close, LineWidth.endLine_below]
    rfl
  | statementCount r =>
    rw [close, close, StatementCount.close, StatementCount.close, StatementCount.endLine_below]
    rfl
  | statementSpan r =>
    simp only [close, StatementSpan.close, StatementSpan.endLine_below, Prod.map, id,
      List.map_append]
    cases hpending : (r.endLine s).1.pending <;> simp [StatementSpan.below, hpending]
  | methodLength h => rfl
  | wordLength r =>
    rw [close, close, WordLength.close, WordLength.close, WordLength.flush_below]
    rfl
  | observer kind => rfl

end Step

/-- A text finds two rules in the same situation and leaves them in it; both report the same. -/
theorem sameBelow_observe {n : Nat} {r r' : Rule} (h : r.SameBelow n r') (s : State)
    (cs : List Char) :
    (r.observe s cs).SameBelow n (r'.observe (s.below n) cs) ∧
      r'.reportsAlong (s.below n) cs = (r.reportsAlong s cs).map (Violation.below n) := by
  induction cs generalizing r r' s with
  | nil => exact ⟨h, rfl⟩
  | cons c cs ih =>
    obtain ⟨hnext, hreport⟩ := sameBelow_check n c (s.enter c) h
    obtain ⟨hrest, hreports⟩ := ih hnext (s.advance c)
    simp only [observe, reportsAlong, State.enter_below, State.advance_below]
    refine ⟨hrest, ?_⟩
    rw [hreport, hreports, List.map_append]

/-! ## No rule looks at the character before -/

theorem check_behind (r : Rule) (p : Char) (c : Char) (s : State) :
    r.check c (s.behind p s.step) = r.check c s := by
  cases r <;> rfl

theorem close_behind (r : Rule) (p : Char) (x : Step) (s : State) :
    r.close (s.behind p x) = r.close s := by
  cases r <;> rfl

section Behind

variable {s : State} {p : Char} (hs : Text.isBlank s.previous = true)
  (hp : Text.isBlank p = true) (x : Step)
include hs hp

theorem observe_behind (r : Rule) (cs : List Char) :
    r.observe (s.behind p x) cs = r.observe s cs := by
  cases cs with
  | nil => rfl
  | cons c cs =>
    rw [observe, State.enter_behind hs hp, State.advance_behind hs hp, check_behind, observe]

theorem reportsAlong_behind (r : Rule) (cs : List Char) :
    r.reportsAlong (s.behind p x) cs = r.reportsAlong s cs := by
  cases cs with
  | nil => rfl
  | cons c cs =>
    rw [reportsAlong, State.enter_behind hs hp, State.advance_behind hs hp, check_behind,
      reportsAlong]

theorem close_run_behind (r : Rule) (cs : List Char) :
    r.close ((s.behind p x).run cs) = r.close (s.run cs) := by
  cases cs with
  | nil => exact close_behind r p x s
  | cons c cs => rw [State.run_cons, State.advance_behind hs hp, State.run_cons]

end Behind

/-! ## What a rule carries over a line feed -/

/-- Whether a rule carries something over the end of a line: its count, the indentation of open
braces, a violation held back, or an open method. -/
def carries : Rule → Bool
  | fileLength _ => true
  | lineWidth r => r.indentation != 0
  | statementSpan r => r.pending.isSome
  | methodLength r => r.inMethod
  | _ => false

/-- Outside words nothing is left of the last one. -/
def WordLength.Tidy (r : WordLength) : Prop := r.length = 0 → r.word = "" ∧ r.number = false

/-- Outside methods nothing is left of the length of the last one. -/
def MethodLength.Tidy (r : MethodLength) : Prop := r.inMethod = false → r.length = 0

def Tidy : Rule → Prop
  | wordLength r => r.Tidy
  | methodLength r => r.Tidy
  | _ => True

section Tidy

variable (c : Char) (s : State)

theorem WordLength.Tidy.flush {r : WordLength} (h : r.Tidy) : (r.flush s).1.Tidy := by
  rw [WordLength.flush]
  split
  · exact h
  · exact fun _ => ⟨rfl, rfl⟩

theorem WordLength.Tidy.check {r : WordLength} (h : r.Tidy) : (r.check c s).1.Tidy := by
  have hextend : (r.extend c).Tidy := fun hlength => absurd hlength (Nat.succ_ne_zero r.length)
  rw [WordLength.check]
  split
  · exact h.flush s
  · split
    · exact h
    · split
      · exact h.flush s
      · split
        · exact hextend
        · exact h
  · exact h

theorem MethodLength.Tidy.count {r : MethodLength} (h : r.Tidy) : (r.count c).1.Tidy := by
  have hbrace : r.closeBrace.1.Tidy := by
    rw [MethodLength.closeBrace]
    split
    · exact fun _ => rfl
    · exact h
  simp only [MethodLength.count]
  repeat' split
  all_goals first | exact hbrace | exact h

theorem MethodLength.Tidy.endLine {r : MethodLength} (h : r.Tidy) : (r.endLine s).Tidy := by
  rw [MethodLength.endLine]
  split
  · next hm =>
    split
    · exact fun hnone => absurd (hm.symm.trans hnone) (by decide)
    · exact h
  · split
    · intro hnone
      cases hnone
    · exact h

theorem MethodLength.Tidy.check {r : MethodLength} (h : r.Tidy) : (r.check c s).1.Tidy := by
  rw [MethodLength.check]
  split
  · exact h.endLine s
  · split
    · exact h
    · split
      · exact h
      · exact Tidy.count c (r := { r with hasCode := true }) h
  · exact h

theorem tidy_check {r : Rule} (h : r.Tidy) : (r.check c s).1.Tidy := by
  cases r with
  | wordLength r => exact WordLength.Tidy.check c s h
  | methodLength r => exact MethodLength.Tidy.check c s h
  | _ => trivial

end Tidy

theorem tidy_observe {r : Rule} (h : r.Tidy) (s : State) (cs : List Char) :
    (r.observe s cs).Tidy := by
  induction cs generalizing r s with
  | nil => exact h
  | cons c cs ih => exact ih (tidy_check c (s.enter c) h) (s.advance c)

theorem tidy_fresh (r : Rule) : r.fresh.Tidy := by
  cases r with
  | wordLength r => exact fun _ => ⟨rfl, rfl⟩
  | methodLength r => exact fun _ => rfl
  | _ => trivial

/-- A rule keeps its options. -/
theorem fresh_check (r : Rule) (c : Char) (s : State) : (r.check c s).1.fresh = r.fresh := by
  cases r with
  | fileLength r =>
    simp only [check, FileLength.check]
    repeat' split
    all_goals rfl
  | lineWidth r =>
    simp only [check, LineWidth.check, LineWidth.align, LineWidth.indent]
    repeat' split
    all_goals rfl
  | statementCount r => rfl
  | statementSpan r => rfl
  | methodLength r =>
    simp only [check, MethodLength.check, MethodLength.endLine, MethodLength.count,
      MethodLength.closeBrace]
    repeat' split
    all_goals rfl
  | wordLength r =>
    simp only [check, WordLength.check, WordLength.flush]
    repeat' split
    all_goals rfl
  | observer kind => rfl

theorem fresh_observe (r : Rule) (s : State) (cs : List Char) :
    (r.observe s cs).fresh = r.fresh := by
  induction cs generalizing r s with
  | nil => rfl
  | cons c cs ih => rw [observe, ih, fresh_check]

theorem fresh_fresh (r : Rule) : r.fresh.fresh = r.fresh := by
  cases r <;> rfl

section LineEnd

variable {s : State} (hs : s.step = .lineEnd)
include hs

theorem StatementSpan.check_lineEnd (r : StatementSpan) (c : Char) :
    (r.check c s).1 = { pending := (r.check c s).1.pending } := by
  simp only [check, hs, endLine]
  repeat' split
  all_goals rfl

theorem WordLength.Tidy.check_lineEnd {r : WordLength} (h : r.Tidy) (c : Char) :
    (r.check c s).1 = r.fresh := by
  simp only [WordLength.check, hs, WordLength.flush]
  split
  · next hlength =>
    obtain ⟨hword, hnumber⟩ := h hlength
    rw [WordLength.fresh, ← hlength, ← hword, ← hnumber]
  · rfl

theorem MethodLength.sameBelow_lineEnd (n : Nat) {r : MethodLength} (h : r.Tidy) (c : Char)
    (hmethod : (r.check c s).1.inMethod = false) :
    (r.check c s).1.fresh.SameBelow n (r.check c s).1 := by
  have hlength : (r.check c s).1.length = 0 := h.check c s hmethod
  have hline : (r.check c s).1.opened = false ∧ (r.check c s).1.closed = false ∧
      (r.check c s).1.depth = 0 ∧ (r.check c s).1.hasCode = false := by
    simp only [MethodLength.check, hs, MethodLength.endLine]
    repeat' split
    all_goals exact ⟨rfl, rfl, rfl, rfl⟩
  obtain ⟨hopened, hclosed, hdepth, hcode⟩ := hline
  refine ⟨rfl, hlength, hmethod, hopened, hclosed, hdepth, hcode, ?_⟩
  intro hm
  cases hm

/-- A rule that carries nothing over a line feed starts the next line like a new one. -/
theorem sameBelow_lineEnd (n : Nat) {r : Rule} (htidy : r.Tidy) (c : Char)
    (h : (r.check c s).1.carries = false) : r.fresh.SameBelow n (r.check c s).1 := by
  cases r with
  | fileLength r => cases h
  | lineWidth r =>
    have hline : ((lineWidth r).check c s).1 =
        lineWidth { r with width := 0, atStart := true } := by
      simp [check, LineWidth.check, hs, LineWidth.endLine]
    rw [hline] at h ⊢
    have hindentation : r.indentation = 0 := by simpa [carries] using h
    rw [hindentation]
    exact .lineWidth r.fresh
  | statementCount r =>
    have hline : ((statementCount r).check c s).1 = statementCount {} := by
      simp [check, StatementCount.check, hs, StatementCount.endLine]
    rw [hline]
    exact .statementCount {}
  | statementSpan r =>
    have hpending : (r.check c s).1.pending = none := by simpa [carries, check] using h
    have hline : (r.check c s).1 = {} := by rw [StatementSpan.check_lineEnd hs, hpending]
    show SameBelow n _ (statementSpan (r.check c s).1)
    rw [hline]
    exact .statementSpan {}
  | methodLength r =>
    rw [← fresh_check _ c s]
    exact .methodLength (MethodLength.sameBelow_lineEnd hs n htidy c h)
  | wordLength r =>
    show SameBelow n _ (wordLength (r.check c s).1)
    rw [WordLength.Tidy.check_lineEnd hs htidy]
    exact .wordLength r.fresh
  | observer kind => exact .observer kind

end LineEnd

theorem sameBelow_line {r : Rule} {cs : List Char} (hline : cs.getLast? = some '\n')
    (h : (r.fresh.observe {} cs).carries = false) (n : Nat) :
    r.fresh.SameBelow n (r.fresh.observe {} cs) := by
  obtain ⟨as, rfl⟩ := List.getLast?_eq_some_iff.mp hline
  rw [observe_append] at h ⊢
  have hfresh : (r.fresh.observe {} as).fresh = r.fresh := by rw [fresh_observe, fresh_fresh]
  have hbelow := sameBelow_lineEnd (State.step_enter_newline _) n
    (tidy_observe (tidy_fresh r) {} as) '\n' h
  rw [hfresh] at hbelow
  exact hbelow

theorem close_fresh (r : Rule) : (r.fresh.close {}).2 = [] := by
  cases r with
  | statementCount r =>
    show (({} : StatementCount).close {}).2 = []
    decide
  | statementSpan r =>
    show (({} : StatementSpan).close {}).2 = []
    decide
  | _ => rfl

/-! ## The file length -/

/-- The lines that the rule of a file's length has counted. -/
def lineCount : Rule → Nat
  | fileLength r => r.count
  | _ => 0

/-- The rule with `k` more lines counted. -/
def FileLength.plus (k : Nat) (r : FileLength) : FileLength := { r with count := r.count + k }

theorem FileLength.check_plus (k : Nat) (r : FileLength) (c : Char) (s : State) :
    ((r.plus k).check c s).1 = (r.check c s).1.plus k := by
  simp only [check]
  split
  · cases hcounts : s.blankLine || r.hasCode <;> simp [plus, hcounts, Nat.add_right_comm]
  · split <;> rfl
  · rfl

theorem observe_plus (n k : Nat) (r : FileLength) (s : State) (cs : List Char) :
    ((fileLength (r.plus k)).observe (s.below n) cs).lineCount =
      ((fileLength r).observe s cs).lineCount + k := by
  induction cs generalizing r s with
  | nil => rfl
  | cons c cs ih =>
    rw [observe, observe, State.enter_below, State.advance_below, check, check,
      FileLength.check_below]
    simp only [Prod.map, id]
    rw [FileLength.check_plus]
    exact ih _ _

/-- Behind a line feed the rule of a file's length has nothing but its count. -/
theorem observe_fileLength (r : FileLength) {cs : List Char} (hline : cs.getLast? = some '\n') :
    (fileLength r).fresh.observe {} cs =
      fileLength (r.fresh.plus ((fileLength r).fresh.observe {} cs).lineCount) := by
  obtain ⟨as, rfl⟩ := List.getLast?_eq_some_iff.mp hline
  have hfresh := fresh_observe (fileLength r).fresh {} as
  rw [observe_append]
  generalize (fileLength r).fresh.observe {} as = seen at hfresh ⊢
  cases seen with
  | fileLength q =>
    have hmax : q.maxLines = r.maxLines := by
      simpa [fresh, FileLength.fresh] using hfresh
    have hstep := State.step_enter_newline (({} : State).run as)
    simp [observe, check, FileLength.check, hstep, lineCount, FileLength.plus, FileLength.fresh,
      hmax]
  | _ => cases hfresh

/-- **A text can be scanned by its lines.** If the first part of a text ends in a line feed, outside
comments, the second part is observed like a text of its own, on later lines. A rule that carries
nothing over that line feed finds in the whole what it finds in the parts, and the rule of a file's
length counts the lines of both. -/
theorem scan_by_lines {as : List Char} (hline : as.getLast? = some '\n')
    (hcomment : (({} : State).run as).inComment = false) (bs : List Char) :
    State.observed (as ++ bs) =
        State.observed as ++ (State.observed bs).map (fun p => (p.1, p.2.below (as.count '\n'))) ∧
      (∀ r : Rule, (r.fresh.observe {} as).carries = false →
        scanText [r] (as ++ bs) =
          scanText [r] as ++ (scanText [r] bs).map (Violation.below (as.count '\n'))) ∧
      (∀ r : FileLength,
        ((fileLength r).fresh.observe {} (as ++ bs)).lineCount =
          ((fileLength r).fresh.observe {} as).lineCount +
            ((fileLength r).fresh.observe {} bs).lineCount) := by
  have hstate := State.run_line hline hcomment
  refine ⟨State.observed_append hline hcomment bs, ?_, ?_⟩
  · intro r hcarries
    have hbelow := sameBelow_line hline hcarries (as.count '\n')
    obtain ⟨hrest, hreports⟩ := sameBelow_observe hbelow {} bs
    have hclose := sameBelow_close _ (({} : State).run bs) hrest
    -- nothing is found at the end of the first part
    have hend : ((r.fresh.observe {} as).close (({} : State).run as)).2 = [] := by
      rw [hstate, close_behind, sameBelow_close _ {} hbelow, close_fresh, List.map_nil]
    rw [scanText_alone, scanText_alone, scanText_alone, hend, List.append_nil, reportsAlong_append,
      observe_append, State.run_append, hstate, reportsAlong_behind (by rfl) (by decide),
      observe_behind (by rfl) (by decide), close_run_behind (by rfl) (by decide), State.run_below,
      hreports, hclose, List.map_append, List.append_assoc]
  · intro r
    have hcount := observe_fileLength r hline
    generalize ((fileLength r).fresh.observe {} as).lineCount = k at hcount ⊢
    rw [observe_append, hstate, observe_behind (by rfl) (by decide), hcount, observe_plus,
      Nat.add_comm]
    rfl

/-- An open brace is not carried: only the lines of the second part move. -/
theorem scan_by_lines_brace :
    let as := ['{', '\n']
    let bs := ['m', '(', ')', '{', '\n', 'a', ',', 'b', '\n', '}']
    let method := methodLength { maxLines := 0 }
    as.getLast? = some '\n' ∧ (({} : State).run as).inComment = false ∧
      (method.fresh.observe {} as).carries = false ∧
      scanText [method] (as ++ bs) =
        scanText [method] as ++ (scanText [method] bs).map (Violation.below 1) ∧
      (scanText [method] (as ++ bs)).map Violation.line = [some 2] ∧
      (scanText [method] bs).map Violation.line = [some 1] := by
  intro as bs method
  have hline : as.getLast? = some '\n' := rfl
  have hcomment : (({} : State).run as).inComment = false := by decide
  have hcarries : (method.fresh.observe {} as).carries = false := by decide
  exact ⟨hline, hcomment, hcarries, (scan_by_lines hline hcomment bs).2.1 method hcarries,
    by decide +kernel, by decide +kernel⟩

end Rule
end StyleScan
