import StyleScan.Proofs.Scan.Line

/-!
# StyleScan.Proofs.Rule.StatementSpan

What the rule of one line for a statement reports: the lines that do not close their statement,
unless the line behind excuses them. A line that ends in a closing parenthesis is reported one line
late, when it is known whether it is excused.

* `Line.closesStatement`, `Line.isExcused` — the two ways in which a line is let off.
* `StatementSpan.unclosed`  — the lines that are reported.
* `StatementSpan.upTo_eq`   — what the rule's fields say at a line.
* `StatementSpan.flatMap_reports` — the late reports and the prompt ones, put together line by line.
* `Rule.scanText_statementSpan` — the lines that are not let off are reported, in their order.
-/

namespace StyleScan

open Lexical (State Step lineStart)

namespace Line

/-- The line before, if this one is not the first. -/
def previous? (l : Line) : Option Line :=
  if '\n' ∈ l.upTo then some ⟨(l.upTo.rdropWhile (· != '\n')).dropLast⟩ else none

/-- The line holds no code, or its parentheses are closed and it ends in a semicolon, a comma or a
brace, or stands in square brackets. -/
def closesStatement (l : Line) : Bool :=
  l.significant.isEmpty ||
    (l.significant.count '(' ≤ l.significant.count ')' &&
      (l.significant.getLast?.any [';', ',', '{', '}'].contains ||
        (l.significant.head? == some '[' && l.significant.getLast? == some ']')))

/-- The last character of code is a closing parenthesis. -/
def endsInParen (l : Line) : Bool := l.significant.getLast? == some ')'

/-- The line starts with a colon and calls a base or sibling constructor. -/
def opensInitializer (l : Line) : Bool :=
  l.significant.head? == some ':' && l.chars.contains '(' &&
    (Text.contains "base".toList l.chars || Text.contains "this".toList l.chars)

/-- The line ends in a closing parenthesis, and the line behind it calls a constructor. -/
def isExcused (l : Line) (next : Option Line) : Bool :=
  l.endsInParen && next.any opensInitializer

theorem previous?_extend (l : Line) (c : Char) :
    (l.extend c).previous? = if c = '\n' then some l else l.previous? := by
  by_cases hc : c = '\n'
  · simp [previous?, extend, hc]
  · simp [previous?, extend, hc, Ne.symm hc]

theorem isBlank_of_mem_significant {l : Line} {c : Char} (h : c ∈ l.significant) :
    Text.isBlank c = false :=
  State.isBlank_of_mem_significant h

theorem ne_lineStart_of_mem_significant {l : Line} {c : Char} (h : c ∈ l.significant) :
    c ≠ lineStart := by
  rintro rfl
  have hblank := isBlank_of_mem_significant h
  revert hblank
  decide

theorem not_closesStatement_of_endsInParen {l : Line} (h : l.endsInParen = true) :
    l.closesStatement = false := by
  have hlast : l.significant.getLast? = some ')' := by simpa [endsInParen] using h
  have hne : l.significant ≠ [] := by
    intro hnil
    simp [hnil] at hlast
  simp [closesStatement, hlast, hne]

end Line

namespace Rule
namespace StatementSpan

/-- The lines that are reported: neither do they close their statement, nor does the line behind
excuse them. -/
def unclosed : List Line → List Line
  | [] => []
  | l :: rest =>
    if l.closesStatement || l.isExcused rest.head? then unclosed rest else l :: unclosed rest

/-- The violation of a line that leaves its statement open. -/
def lineViolation (l : Line) : Violation :=
  .make .oneLinePerStatement (some l.number) "Statement does not end on this line"
    (String.ofList l.chars)

/-- What is held back when a line has ended. -/
def held (l : Line) : Option Violation := if l.endsInParen then some (lineViolation l) else none

/-- What is reported of the line before, at the end of a line. -/
def overdue (l : Line) : List Violation :=
  if l.opensInitializer then [] else (l.previous?.bind held).toList

/-- What is reported of a line at its own end. -/
def prompt (l : Line) : List Violation :=
  if l.closesStatement || l.endsInParen then [] else [lineViolation l]

/-! ## The rule at a line -/

/-- The rule when it has followed a line. -/
def seen (l : Line) : StatementSpan where
  depth := l.significant.count '(' - l.significant.count ')'
  first := l.significant.head?.getD lineStart
  pending := l.previous?.bind held

theorem first_seen_eq_iff (l : Line) {c : Char} (hc : c ≠ lineStart) :
    (seen l).first = c ↔ l.significant.head? = some c := by
  cases h : l.significant.head? with
  | none => simp [seen, h, Ne.symm hc]
  | some d => simp [seen, h]

theorem seen_extend (l : Line) {c : Char} (hc : c ≠ '\n') :
    seen (l.extend c) = if (l.state.enter c).isSignificant c then (seen l).count c else seen l := by
  have hprevious := l.previous?_extend c
  have hsignificant := l.significant_extend c
  rw [if_neg hc] at hprevious hsignificant
  split
  · next hcode =>
    rw [if_pos hcode] at hsignificant
    have hfirst : (l.extend c).significant.head?.getD lineStart =
        if (seen l).first = lineStart then c else (seen l).first := by
      rw [hsignificant]
      cases h : l.significant with
      | nil => simp [seen, h]
      | cons d ds =>
        have hd : d ≠ lineStart := Line.ne_lineStart_of_mem_significant (h ▸ List.mem_cons_self)
        simp [seen, h, hd]
    have hdepth : ((l.extend c).significant.count '(' : Int) - (l.extend c).significant.count ')' =
        if c = '(' then (seen l).depth + 1 else if c = ')' then (seen l).depth - 1
        else (seen l).depth := by
      rw [hsignificant]
      by_cases hopen : c = '('
      · simp [seen, hopen]
        omega
      · by_cases hclose : c = ')' <;> simp [seen, hopen, hclose]
        omega
    rw [seen, hfirst, hdepth, hprevious]
    rfl
  · next hcode =>
    rw [if_neg hcode] at hsignificant
    rw [seen, hsignificant, hprevious]
    rfl

/-! ## The end of a line -/

theorem violation_state (l : Line) : violation l.state = lineViolation l := by
  rw [violation, l.lineNumber_state, l.currentLine_state, lineViolation]

theorem isClosed_seen (l : Line) :
    (seen l).isClosed l.state.lastSignificant = l.closesStatement := by
  rw [l.lastSignificant_state, isClosed, Line.closesStatement]
  cases h : l.significant.getLast? with
  | none =>
    have hnil : l.significant = [] := List.getLast?_eq_none_iff.mp h
    simp [seen, hnil, closers]
  | some c =>
    have hmem : c ∈ l.significant := List.mem_of_getLast? h
    have hne : l.significant.isEmpty = false := by simpa using List.ne_nil_of_mem hmem
    have hcloses : closers.contains c = [';', ',', '{', '}'].contains c := by
      simp [closers, Line.ne_lineStart_of_mem_significant hmem]
    have hdepth : (seen l).depth ≤ 0 ↔ l.significant.count '(' ≤ l.significant.count ')' := by
      simp only [seen]
      omega
    have hfirst : ((seen l).first == '[') = (l.significant.head? == some '[') := by
      rw [Bool.eq_iff_iff, beq_iff_eq, beq_iff_eq, first_seen_eq_iff l (by decide)]
    rw [Option.getD_some, hcloses, hfirst, hne]
    simp only [hdepth, Bool.false_or, Option.any_some, Option.some_beq_some]

theorem release_seen (l : Line) : (seen l).release l.state = overdue l := by
  have hopens : l.state.opensInitializer (seen l).first = l.opensInitializer := by
    have hfirst := first_seen_eq_iff l (show ':' ≠ lineStart by decide)
    rw [Bool.eq_iff_iff, State.opensInitializer, l.currentLine_state, Line.opensInitializer]
    simp only [String.toList_ofList, Bool.and_eq_true, beq_iff_eq, hfirst]
    tauto
  rw [release, hopens, overdue]
  rfl

theorem endLine_seen (l : Line) :
    (seen l).endLine l.state = (seen (l.extend '\n'), overdue l ++ prompt l) := by
  have hnext : seen (l.extend '\n') = { pending := held l } := by
    simp [seen, l.significant_extend, l.previous?_extend]
  have hlast : l.state.lastSignificant = ')' ↔ l.endsInParen = true := by
    rw [l.lastSignificant_eq_iff (by decide), Line.endsInParen, beq_iff_eq]
  rw [endLine, isClosed_seen, release_seen, violation_state, hnext]
  simp only [hlast, held, prompt]
  cases hparen : l.endsInParen with
  | true => simp [Line.not_closesStatement_of_endsInParen hparen]
  | false => cases l.closesStatement <;> simp

theorem check_eq (q : StatementSpan) {c : Char} {s : State} (h : s.step ≠ .lineEnd) :
    q.check c s = (if s.isSignificant c then q.count c else q, []) := by
  rw [check, State.isSignificant]
  cases hs : s.step with
  | lineEnd => exact absurd hs h
  | skip => rfl
  | code => cases Text.isBlank c <;> cases s.inLiteral <;> rfl

theorem upTo_eq (r : StatementSpan) (l : Line) :
    (statementSpan r).upTo l = statementSpan (seen l) := by
  refine upTo_eq_of_step (q := fun l => statementSpan (seen l)) (by simp [kind]) rfl ?_ ?_ l
  · intro l c hc
    rw [seen_extend l hc, Rule.check, check_eq _ (l.step_enter_ne hc)]
    rfl
  · intro l
    show statementSpan ((seen l).endLine l.state).1 = _
    rw [endLine_seen]

/-! ## Late reports and prompt ones -/

theorem held_eq (l : Line) :
    prompt l ++ (held l).toList = if l.closesStatement then [] else [lineViolation l] := by
  rw [prompt, held]
  cases hparen : l.endsInParen with
  | true => simp [Line.not_closesStatement_of_endsInParen hparen]
  | false => cases l.closesStatement <;> simp

theorem overdue_next {l next : Line} (h : next.previous? = some l) :
    prompt l ++ overdue next =
      if l.closesStatement || l.isExcused (some next) then [] else [lineViolation l] := by
  rw [overdue, h, Option.bind_some, Line.isExcused, Option.any_some]
  cases hopens : next.opensInitializer with
  | false => simpa using held_eq l
  | true =>
    rw [prompt]
    cases l.endsInParen <;> cases l.closesStatement <;> simp

/-- The reports of all lines, the first of them being `l` when `cs` follows. What is overdue there
is a report of the line before. -/
theorem flatMap_reports (l : Line) (cs : List Char) :
    ∃ first rest, Line.allFrom l cs = first :: rest ∧ first.previous? = l.previous? ∧
      (first :: rest).flatMap (fun l => overdue l ++ prompt l) ++ (held ⟨l.upTo ++ cs⟩).toList =
        overdue first ++ (unclosed (first :: rest)).map lineViolation := by
  -- `first` is the line that `l` grows into; only at a line feed is it known what `l` is judged by
  induction cs generalizing l with
  | nil =>
    refine ⟨l, [], rfl, rfl, ?_⟩
    have hheld := held_eq l
    cases hcloses : l.closesStatement <;>
      simp_all [unclosed, Line.isExcused]
  | cons c cs ih =>
    obtain ⟨first, rest, hall, hprevious, hreports⟩ := ih (l.extend c)
    have hupTo : (l.extend c).upTo ++ cs = l.upTo ++ c :: cs := by simp [Line.extend]
    rw [l.previous?_extend] at hprevious
    rw [hupTo] at hreports
    rw [Line.allFrom]
    split
    · next hc =>
      rw [if_pos hc] at hprevious
      refine ⟨l, first :: rest, by rw [hall], rfl, ?_⟩
      have hunclosed : unclosed (l :: first :: rest) =
          if l.closesStatement || l.isExcused (some first) then unclosed (first :: rest)
          else l :: unclosed (first :: rest) := rfl
      rw [List.flatMap_cons, List.append_assoc, hreports, List.append_assoc,
        ← List.append_assoc (prompt l), overdue_next hprevious, hunclosed]
      cases l.closesStatement || l.isExcused (some first) <;> simp
    · next hc =>
      rw [if_neg hc] at hprevious
      exact ⟨first, rest, hall, hprevious, hreports⟩

theorem unclosed_sublist (ls : List Line) : (unclosed ls).Sublist ls := by
  induction ls with
  | nil => exact .slnil
  | cons l ls ih =>
    rw [unclosed]
    split
    · exact ih.cons l
    · exact ih.cons_cons l

/-! ## The whole text -/

section Text

variable (r : StatementSpan)

theorem check_upTo (l : Line) {c : Char} (hc : c ≠ '\n') :
    (((statementSpan r).upTo l).check c (l.state.enter c)).2 = [] := by
  rw [upTo_eq, Rule.check, check_eq _ (l.step_enter_ne hc)]
  rfl

theorem newline_upTo (l : Line) :
    (((statementSpan r).upTo l).check '\n' l.state.ended).2 = overdue l ++ prompt l := by
  rw [upTo_eq]
  show ((seen l).endLine l.state).2 = _
  rw [endLine_seen]

theorem close_upTo (l : Line) :
    (((statementSpan r).upTo l).close l.state).2 = overdue l ++ prompt l ++ (held l).toList := by
  have hheld : (seen (l.extend '\n')).pending = held l := by simp [seen, l.previous?_extend]
  rw [upTo_eq]
  show ((seen l).close l.state).2 = _
  simp only [close, endLine_seen, hheld]

theorem scanText_unclosed (text : List Char) :
    scanText [statementSpan r] text = (unclosed (Line.all text)).map lineViolation := by
  have hfound := scanText_lineEnds (by simp [kind]) (fun l c => check_upTo r l) _
    (fun l => (held l).toList) (newline_upTo r) (close_upTo r) text
  obtain ⟨first, rest, hall, hprevious, hreports⟩ := flatMap_reports ⟨[]⟩ text
  have hnone : overdue first = [] := by
    rw [overdue, hprevious]
    simp [Line.previous?]
  rw [hnone, List.nil_append] at hreports
  rw [hfound, Line.all, hall]
  exact hreports

end Text
end StatementSpan

open StatementSpan (unclosed lineViolation overdue prompt held)

/-- **Exactly the lines that leave their statement open are reported.** A line is let off if it
closes its statement, or if it ends in a closing parenthesis and the line behind it calls a
constructor. The others are reported once, in increasing order. At the end of a line the rule
reports the line before, if that ends in a closing parenthesis and is not let off, and then the line
itself unless it ends so; at the end of the text nothing is held back. -/
theorem scanText_statementSpan (r : StatementSpan) (text : List Char) :
    scanText [statementSpan r] text = (unclosed (Line.all text)).map lineViolation ∧
      ((scanText [statementSpan r] text).map Violation.line).Pairwise (· < ·) ∧
      ∀ l ∈ Line.all text,
        foundAt [statementSpan r] text l.upTo.length =
          overdue l ++ prompt l ++ if l.upTo = text then (held l).toList else [] := by
  refine ⟨StatementSpan.scanText_unclosed r text, ?_, ?_⟩
  · rw [StatementSpan.scanText_unclosed]
    exact Line.pairwise_line (StatementSpan.unclosed_sublist _) fun l => rfl
  · intro l hl
    rw [foundAt_line (by simp [kind]) hl]
    split
    · exact StatementSpan.close_upTo r l
    · rw [List.append_nil]
      exact StatementSpan.newline_upTo r l

/-- The second line excuses nothing and is excused itself; the fourth is reported at the end of the
text, behind the third. -/
theorem scanText_statementSpan_late :
    let text := "f()\ng()\n: this(a)\nh()".toList
    let second : Line := ⟨"f()\ng()".toList⟩
    second ∈ Line.all text ∧
      foundAt [statementSpan {}] text second.upTo.length =
        [.make .oneLinePerStatement (some 1) "Statement does not end on this line" "f()"] ∧
      (scanText [statementSpan {}] text).map Violation.line = [some 1, some 3, some 4] := by
  intro text second
  have hmem : second ∈ Line.all text := by decide +kernel
  refine ⟨hmem, ?_, by decide +kernel⟩
  rw [(scanText_statementSpan {} text).2.2 second hmem]
  decide +kernel

end Rule
end StyleScan
