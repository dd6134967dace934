import StyleScan.Proofs.Scan.Line

/-!
# StyleScan.Proofs.Rule.LineWidth

What the rule of a line's width reports: the lines that are too wide. The width of a line is told
from its characters and from the braces that are open where its text starts.

* `Line.lead`, `Line.rest`  — a line cut at its first visible character.
* `LineWidth.braceBalance`  — braces opened minus closed, outside literals and comments.
* `LineWidth.widthOf`       — the width of a line.
* `LineWidth.upTo_eq`       — what the rule's fields say at a line.
* `Rule.scanText_lineWidth` — the lines that are too wide are reported, in their order.
-/

namespace StyleScan

open Lexical (State Step)

namespace Line

/-- A blank or a NUL, which may stand in front of a line's text. -/
def isLeading (c : Char) : Bool := Text.isBlank c || c == '\x00'

/-- The blanks and NUL characters in front of the text of the line. -/
def lead (l : Line) : List Char := l.chars.takeWhile isLeading

/-- The text of the line, from its first visible character on. -/
def rest (l : Line) : List Char := l.chars.dropWhile isLeading

/-- The whole text in front of the text of the line. -/
def upToRest (l : Line) : List Char := l.upTo.take (l.upTo.length - l.rest.length)

section Extend

variable (l : Line) {c : Char}

theorem lead_append_rest : l.lead ++ l.rest = l.chars := List.takeWhile_append_dropWhile

theorem rest_extend (hc : c ≠ '\n') :
    (l.extend c).rest = if l.rest = [] ∧ isLeading c then [] else l.rest ++ [c] := by
  have happend : (l.extend c).rest =
      if l.rest.isEmpty then [c].dropWhile isLeading else l.rest ++ [c] := by
    rw [rest, chars_extend, if_neg hc, List.dropWhile_append]
    rfl
  rw [happend]
  by_cases hrest : l.rest = [] <;> cases hlead : isLeading c <;> simp [hrest, hlead]

theorem lead_extend (hc : c ≠ '\n') :
    (l.extend c).lead = if l.rest = [] ∧ isLeading c then l.lead ++ [c] else l.lead := by
  have hcut := (l.extend c).lead_append_rest
  rw [chars_extend, if_neg hc, ← l.lead_append_rest, rest_extend l hc] at hcut
  split
  · next h => simpa [h] using hcut
  · next h =>
    rw [if_neg h, List.append_assoc] at hcut
    exact List.append_cancel_right hcut

theorem upToRest_extend (hc : c ≠ '\n') :
    (l.extend c).upToRest =
      if l.rest = [] then if isLeading c then (l.extend c).upTo else l.upTo else l.upToRest := by
  rw [upToRest, rest_extend l hc, upToRest]
  by_cases hrest : l.rest = [] <;> cases isLeading c <;>
    simp [extend, hrest, List.take_append_of_le_length]

end Extend
end Line

namespace Rule
namespace LineWidth

/-- Braces opened minus braces closed, at places outside literals and comments. -/
def braceBalance (text : List Char) : Int :=
  let plain := (({} : State).trace text).filter fun p => !(p.2.inLiteral || p.2.inComment)
  (plain.map Prod.fst).count '{' - (plain.map Prod.fst).count '}'

/-- The columns of some characters, added up. -/
def columnsOf (r : LineWidth) (cs : List Char) : Nat := (cs.map r.columns).foldl (· + ·) 0

/-- The width of a line. Its text starts no further left than the open braces indent it. -/
def widthOf (r : LineWidth) (l : Line) : Nat :=
  if l.rest = [] then r.columnsOf l.lead
  else
    max (r.columnsOf l.lead) (max 0 (r.indentWidth * braceBalance l.upToRest)).toNat +
      r.columnsOf l.rest

/-- The violation of a line that is too wide. -/
def lineViolation (r : LineWidth) (l : Line) : Violation :=
  .make .lineTooWide (some l.number)
    ("Line is " ++ toString (r.widthOf l) ++ " characters wide (max: " ++ toString r.maxWidth ++
      ")")
    (dotted (String.ofList l.chars))
    (some "Break the line up or reduce its nesting")

/-! ## One character more -/

/-- What a character adds to the balance of the braces. -/
def braceStep (c : Char) (s : State) : Int :=
  if s.inLiteral || s.inComment then 0 else if c = '{' then 1 else if c = '}' then -1 else 0

theorem braceStep_of_isLeading {c : Char} (h : Line.isLeading c = true) (s : State) :
    braceStep c s = 0 := by
  have hopen : c ≠ '{' := by
    rintro rfl
    revert h
    decide
  have hclose : c ≠ '}' := by
    rintro rfl
    revert h
    decide
  simp [braceStep, hopen, hclose]

theorem braceBalance_extend (l : Line) (c : Char) :
    braceBalance (l.extend c).upTo = braceBalance l.upTo + braceStep c (l.state.enter c) := by
  have htrace : ({} : State).trace (l.extend c).upTo =
      ({} : State).trace l.upTo ++ [(c, l.state.enter c)] := State.trace_append {} l.upTo [c]
  simp only [braceBalance, htrace, List.filter_append, List.filter_singleton, List.map_append,
    List.count_append, braceStep]
  cases (l.state.enter c).inLiteral || (l.state.enter c).inComment with
  | true => simp
  | false =>
    by_cases hopen : c = '{'
    · simp [hopen]
      omega
    · by_cases hclose : c = '}' <;> simp [hopen, hclose]
      omega

theorem columnsOf_concat (r : LineWidth) (cs : List Char) (c : Char) :
    r.columnsOf (cs ++ [c]) = r.columnsOf cs + r.columns c := by
  simp [columnsOf]

/-- A line grows by the columns of its characters, and to the baseline where its text starts. -/
theorem widthOf_extend (r : LineWidth) (l : Line) {c : Char} (hc : c ≠ '\n') :
    r.widthOf (l.extend c) =
      (if l.rest = [] ∧ Line.isLeading c = false then
        max (r.widthOf l) (r.indentWidth * braceBalance l.upTo).toNat
      else r.widthOf l) + r.columns c := by
  -- only the first visible character meets the baseline, with the whole text so far before it
  rw [widthOf, l.lead_extend hc, l.rest_extend hc, l.upToRest_extend hc, widthOf]
  by_cases hrest : l.rest = []
  · cases Line.isLeading c with
    | true => simp [hrest, columnsOf_concat]
    | false =>
      have hfloor (i : Int) : (max 0 i).toNat = i.toNat := by omega
      simp [hrest, hfloor, columnsOf]
  · simp [hrest, columnsOf_concat, Nat.add_assoc]

/-! ## The rule at a line -/

/-- The rule when it has measured a line. -/
def measured (r : LineWidth) (l : Line) : LineWidth :=
  { r.fresh with
    width := r.widthOf l
    indentation := r.indentWidth * braceBalance l.upTo
    atStart := l.rest.isEmpty }

theorem indent_eq (q : LineWidth) (c : Char) (s : State) :
    q.indent c s = { q with indentation := q.indentation + q.indentWidth * braceStep c s } := by
  rw [indent, braceStep]
  split
  · simp
  · split
    · simp
    · split <;> simp [Int.sub_eq_add_neg]

theorem measured_extend (r : LineWidth) (l : Line) {c : Char} (hc : c ≠ '\n') :
    r.measured (l.extend c) =
      if Line.isLeading c then (r.measured l).widen c
      else ((r.measured l).align.indent c (l.state.enter c)).widen c := by
  rw [measured, widthOf_extend r l hc, braceBalance_extend, l.rest_extend hc, Int.mul_add]
  cases hlead : Line.isLeading c with
  | true =>
    have hbraces := braceStep_of_isLeading hlead (l.state.enter c)
    cases hrest : l.rest <;> simp [measured, widen, columns, fresh, hrest, hbraces]
  | false =>
    cases hrest : l.rest <;> simp [measured, align, indent_eq, widen, columns, fresh, hrest]

theorem endLine_measured (r : LineWidth) (l : Line) :
    (r.measured l).endLine l.state =
      (r.measured (l.extend '\n'),
        if r.maxWidth < r.widthOf l then [lineViolation r l] else []) := by
  have hviolation : (r.measured l).violation l.state = lineViolation r l := by
    rw [violation, l.lineNumber_state, l.currentLine_state]
    rfl
  have hnext : r.measured (l.extend '\n') = { r.measured l with width := 0, atStart := true } := by
    have hrest : (l.extend '\n').rest = [] := by simp [Line.rest, l.chars_extend]
    have hlead : (l.extend '\n').lead = [] := by simp [Line.lead, l.chars_extend]
    have hbraces := braceStep_of_isLeading (c := '\n') (by decide) (l.state.enter '\n')
    simp [measured, widthOf, columnsOf, braceBalance_extend, hrest, hlead, hbraces]
  rw [endLine, hviolation, hnext]
  rfl

theorem check_eq (q : LineWidth) {c : Char} {s : State} (h : s.step ≠ .lineEnd) :
    q.check c s =
      (if Line.isLeading c then q.widen c else (q.align.indent c s).widen c, []) := by
  rw [check, if_neg h, Line.isLeading]
  simp only [Bool.or_eq_true, beq_iff_eq]
  split <;> rfl

theorem upTo_eq (r : LineWidth) (l : Line) : (lineWidth r).upTo l = lineWidth (r.measured l) := by
  refine upTo_eq_of_step (q := fun l => lineWidth (r.measured l)) (by simp [kind]) ?_ ?_ ?_ l
  · have hwidth : r.widthOf ⟨[]⟩ = 0 := rfl
    have hbalance : braceBalance [] = 0 := rfl
    simp only [measured, hwidth, hbalance, Int.mul_zero]
    rfl
  · intro l c hc
    rw [measured_extend r l hc, Rule.check, check_eq _ (l.step_enter_ne hc)]
    rfl
  · intro l
    show lineWidth ((r.measured l).endLine l.state).1 = _
    rw [endLine_measured]

end LineWidth

open LineWidth (lineViolation)

/-- **Exactly the lines that are too wide are reported,** once each and in increasing order, with
their width. The text of a line starts no further left than the open braces indent it. -/
theorem scanText_lineWidth (r : LineWidth) (text : List Char) :
    scanText [lineWidth r] text =
        ((Line.all text).filter fun l => r.maxWidth < r.widthOf l).map (lineViolation r) ∧
      ((scanText [lineWidth r] text).map Violation.line).Pairwise (· < ·) := by
  have hend (l : Line) : ((r.measured l).endLine l.state).2 =
      if decide (r.maxWidth < r.widthOf l) then [lineViolation r l] else [] := by
    simp [LineWidth.endLine_measured]
  have hfound : scanText [lineWidth r] text =
      ((Line.all text).filter fun l => r.maxWidth < r.widthOf l).map (lineViolation r) := by
    refine scanText_judged (by simp [kind]) ?_ ?_ ?_ text
    · intro l c hc
      rw [LineWidth.upTo_eq, Rule.check, LineWidth.check_eq _ (l.step_enter_ne hc)]
      rfl
    · intro l
      rw [LineWidth.upTo_eq]
      exact hend l
    · intro l
      rw [LineWidth.upTo_eq]
      exact hend l
  rw [hfound]
  exact ⟨rfl, Line.pairwise_line List.filter_sublist fun l => rfl⟩

/-- Two braces are open behind the first line, and its comment opens none. A tab is not wide enough
to reach the baseline. -/
example :
    let r : LineWidth := { maxWidth := 11 }
    (scanText [lineWidth r] "\x7b\x7b // \x7b\n\tabcd\nabc".toList).map Violation.line =
      [some 2] := by
  decide +kernel

end Rule
end StyleScan
