import StyleScan.Proofs.Scan.Line

/-!
# StyleScan.Proofs.Rule.StatementCount

What the rule of one statement on a line reports: the lines that are crowded, each judged by its own
characters.

* `StatementCount.bracketDepth` — brackets of all kinds, opened minus closed.
* `StatementCount.countBy`      — how many characters count, by what stands before them.
* `StatementCount.crowded`      — a line that holds more than one statement.
* `StatementCount.upTo_eq`      — what the rule's fields say at a line.
* `StatementCount.scanText_eq`  — what the rule finds alone.
* `Rule.scanText_statementCount` — the crowded lines are reported, in their order.
-/

namespace StyleScan
namespace Rule
namespace StatementCount

open Lexical (State Step)

/-- Parentheses, angle brackets and braces opened minus closed. -/
def bracketDepth (cs : List Char) : Int :=
  cs.countP (fun c => c = '(' || c = '<' || c = '{') -
    cs.countP (fun c => c = ')' || c = '>' || c = '}')

/-- The number of characters that count, by what stands before them. -/
def countBy (counts : List Char → Char → Bool) (cs : List Char) : Nat :=
  (List.range cs.length).countP fun i => cs[i]?.any (counts (cs.take i))

/-- A comma outside brackets, before the first colon. -/
def isSeparator (before : List Char) (c : Char) : Bool :=
  c = ',' && bracketDepth before < 1 && !before.contains ':'

/-- A semicolon outside brackets. -/
def isTerminator (before : List Char) (c : Char) : Bool := c = ';' && bracketDepth before < 1

/-- The line holds two semicolons, or a comma beyond the one that may end it. -/
def crowded (l : Line) : Bool :=
  2 ≤ countBy isTerminator l.code ||
    1 ≤ (countBy isSeparator l.code : Int) - if l.significant.getLast? = some ',' then 1 else 0

/-- The violation of a crowded line. -/
def lineViolation (l : Line) : Violation :=
  .make .oneStatementPerLine (some l.number) "Line holds more than one statement"
    (String.ofList l.chars)

/-! ## One character more -/

theorem countBy_concat (counts : List Char → Char → Bool) (cs : List Char) (c : Char) :
    countBy counts (cs ++ [c]) = countBy counts cs + if counts cs c then 1 else 0 := by
  have hbefore : (List.range cs.length).countP
        (fun i => (cs ++ [c])[i]?.any (counts ((cs ++ [c]).take i))) = countBy counts cs := by
    refine List.countP_congr ?_
    intro i hi
    have hlt : i < cs.length := List.mem_range.mp hi
    rw [List.getElem?_append_left hlt, List.take_append_of_le_length hlt.le]
  rw [countBy, List.length_append, List.length_singleton, List.range_succ, List.countP_append,
    hbefore]
  simp [List.countP_cons]

theorem bracketDepth_concat (cs : List Char) (c : Char) :
    bracketDepth (cs ++ [c]) =
      bracketDepth cs + (if c = '(' ∨ c = '<' ∨ c = '{' then 1 else 0) -
        (if c = ')' ∨ c = '>' ∨ c = '}' then 1 else 0) := by
  simp only [bracketDepth, List.countP_append, List.countP_singleton, Bool.or_eq_true,
    decide_eq_true_eq, or_assoc]
  split <;> split <;> simp <;> omega

/-! ## The rule at a line -/

/-- The rule when it has counted the code of a line. -/
def counted (cs : List Char) : StatementCount where
  commas := countBy isSeparator cs
  semicolons := countBy isTerminator cs
  depth := bracketDepth cs
  colon := cs.contains ':'

theorem counted_concat (cs : List Char) (c : Char) :
    counted (cs ++ [c]) = (counted cs).count c := by
  have hdepth := bracketDepth_concat cs c
  have hcommas := countBy_concat isSeparator cs c
  have hsemicolons := countBy_concat isTerminator cs c
  simp only [count]
  split
  · next hc =>
    subst hc
    split <;> simp_all [counted, isSeparator, isTerminator]
  · split
    · next hc =>
      subst hc
      split <;> simp_all [counted, isSeparator, isTerminator]
    · split
      · next hc =>
        rcases hc with rfl | rfl | rfl <;> simp_all [counted, isSeparator, isTerminator]
      · split
        · next hc =>
          rcases hc with rfl | rfl | rfl <;> simp_all [counted, isSeparator, isTerminator]
        · split <;> simp_all [counted, isSeparator, isTerminator, eq_comm]

theorem upTo_eq (r : StatementCount) (l : Line) :
    (statementCount r).upTo l = statementCount (counted l.code) := by
  refine upTo_eq_of_step (q := fun l => statementCount (counted l.code)) (by simp [kind]) rfl
    ?_ ?_ l
  · intro l c hc
    rw [l.code_extend, if_neg hc, Rule.check, check]
    cases hs : (l.state.enter c).step with
    | lineEnd => exact absurd hs (l.step_enter_ne hc)
    | skip => simp
    | code => cases (l.state.enter c).inLiteral <;> simp [counted_concat]
  · intro l
    rw [l.code_extend, if_pos rfl]
    rfl

theorem violation_state (l : Line) : violation l.state = lineViolation l := by
  rw [violation, l.lineNumber_state, l.currentLine_state, lineViolation]

/-- Taking a comma off that may end the line, the rule stops at zero. -/
theorem endLine_counted (l : Line) :
    ((counted l.code).endLine l.state).2 = if crowded l then [lineViolation l] else [] := by
  have hlast := l.lastSignificant_eq_iff (show ',' ≠ Lexical.lineStart by decide)
  have hcrowded : 0 < (counted l.code).separators l.state ∨ 1 < (counted l.code).semicolons ↔
      crowded l = true := by
    simp only [separators, counted, hlast, crowded, Bool.or_eq_true, decide_eq_true_eq]
    split <;> omega
  simp only [endLine, hcrowded, violation_state]

theorem scanText_eq (r : StatementCount) (text : List Char) :
    scanText [statementCount r] text = ((Line.all text).filter crowded).map lineViolation := by
  refine scanText_judged (by simp [kind]) ?_ ?_ ?_ text
  · intro l c hc
    rw [upTo_eq, List.eq_nil_iff_forall_not_mem]
    intro v hv
    exact l.step_enter_ne hc (mem_check hv).1
  · intro l
    rw [upTo_eq]
    exact endLine_counted l
  · intro l
    rw [upTo_eq]
    exact endLine_counted l

end StatementCount

open StatementCount (crowded lineViolation)

/-- **Exactly the crowded lines are reported.** A line is crowded if it holds two semicolons outside
brackets, or a comma outside brackets and before the first colon beyond the one that may end it.
Each is judged by its own characters, and they are reported in increasing order. -/
theorem scanText_statementCount (r : StatementCount) (text : List Char) :
    scanText [statementCount r] text = ((Line.all text).filter crowded).map lineViolation ∧
      ((scanText [statementCount r] text).map Violation.line).Pairwise (· < ·) := by
  rw [StatementCount.scanText_eq]
  exact ⟨rfl, Line.pairwise_line List.filter_sublist fun l => rfl⟩

/-- A comma inside parentheses at the end of a line makes up for one outside. -/
example :
    (scanText [statementCount {}] "a, f(b,\nc; d;\n: e, f, g".toList).map Violation.line =
      [some 2] := by
  decide +kernel

end Rule
end StyleScan
