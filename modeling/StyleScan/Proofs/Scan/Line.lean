import StyleScan.Proofs.Scan.SourceLine

/-!
# StyleScan.Proofs.Scan.Line

A scan seen line by line. A line is given by the text up to its end, so that it has a number, and a
lexical state for each of its characters; a text on its way gives the line that it has reached.

* `Line`                — a line, whole or in part, with its characters and its code.
* `Line.all`            — the lines of a text: the pieces between its line feeds, the last one empty
  behind a final line feed.
* `Rule.upTo`           — a rule that has observed a line and all before it; `Rule.upTo_eq_of_step`
  finds it from single characters.
* `Rule.scanText_lines` — what a rule finds alone, from what it finds on each line.
* `Rule.scanText_lineEnds`, `Rule.scanText_judged` — the same for rules that report at the ends of
  lines, and for rules that report lines one by one.
-/

namespace StyleScan

open Lexical (State Step lineStart lastLine)
open Violation (stripLineEnding)

/-- A line of a text, given by the text up to its end. -/
structure Line where
  upTo : List Char
deriving DecidableEq, Repr

namespace Line

/-- The characters of the line. -/
def chars (l : Line) : List Char := lastLine l.upTo

/-- The number of the line; lines count from one. -/
def number (l : Line) : Nat := 1 + l.upTo.count '\n'

/-- The lexical state behind the line. -/
def state (l : Line) : State := ({} : State).run l.upTo

/-- The characters of the line, each with the state in which it is observed. -/
def trace (l : Line) : List (Char × State) := State.lastLineTrace l.upTo

/-- The characters of code outside literals, blanks included. -/
def code (l : Line) : List Char :=
  (l.trace.filter fun p => p.2.step == .code && !p.2.inLiteral).map Prod.fst

/-- The characters of code outside literals that are no blanks. -/
def significant (l : Line) : List Char := State.significant l.upTo

/-- The line with one more character; a line feed leads to the next line, which is empty so far. -/
def extend (l : Line) (c : Char) : Line := ⟨l.upTo ++ [c]⟩

/-- The line that starts with `l` when `cs` follows, and all lines behind it. -/
def allFrom (l : Line) : List Char → List Line
  | [] => [l]
  | c :: cs => if c = '\n' then l :: allFrom (l.extend c) cs else allFrom (l.extend c) cs

/-- The lines of a text. A line feed ends a line, and what follows the last one is a line too. -/
def all (text : List Char) : List Line := allFrom ⟨[]⟩ text

/-! ## One character more -/

@[elab_as_elim]
theorem extend_induction {P : Line → Prop} (start : P ⟨[]⟩)
    (extend : ∀ l c, P l → P (l.extend c)) (l : Line) : P l := by
  obtain ⟨text⟩ := l
  induction text using List.reverseRecOn with
  | nil => exact start
  | append_singleton text c ih => exact extend ⟨text⟩ c ih

section Extend

variable (l : Line) (c : Char)

@[simp] theorem state_extend : (l.extend c).state = l.state.advance c :=
  State.run_concat {} l.upTo c

theorem chars_extend : (l.extend c).chars = if c = '\n' then [] else l.chars ++ [c] :=
  Lexical.lastLine_concat l.upTo c

theorem number_extend : (l.extend c).number = l.number + if c = '\n' then 1 else 0 := by
  by_cases hc : c = '\n' <;> simp [number, extend, hc, Nat.add_assoc]

theorem trace_extend :
    (l.extend c).trace = if c = '\n' then [] else l.trace ++ [(c, l.state.enter c)] :=
  State.lastLineTrace_concat l.upTo c

theorem code_extend :
    (l.extend c).code =
      if c = '\n' then []
      else if (l.state.enter c).step = .code ∧ (l.state.enter c).inLiteral = false then
        l.code ++ [c]
      else l.code := by
  rw [code, trace_extend]
  split
  · rfl
  · split <;> simp_all [code]

theorem significant_extend :
    (l.extend c).significant =
      if c = '\n' then []
      else if (l.state.enter c).isSignificant c then l.significant ++ [c]
      else l.significant :=
  State.significant_concat l.upTo c

end Extend

theorem not_mem_chars (l : Line) : '\n' ∉ l.chars := not_mem_lastLine l.upTo

theorem step_enter_ne (l : Line) {c : Char} (hc : c ≠ '\n') :
    (l.state.enter c).step ≠ .lineEnd := by
  rwa [Ne, State.step_enter_eq_lineEnd_iff]

theorem lineNumber_state (l : Line) : l.state.lineNumber = l.number :=
  (State.represents_run l.upTo).lineNumber

theorem currentLine_state (l : Line) : l.state.currentLine = String.ofList l.chars :=
  (State.represents_run l.upTo).currentLine

theorem blankLine_state (l : Line) : l.state.blankLine = l.chars.all Text.isBlank :=
  (State.represents_run l.upTo).blankLine

theorem lastSignificant_state (l : Line) :
    l.state.lastSignificant = l.significant.getLast?.getD lineStart :=
  (State.represents_run l.upTo).lastSignificant

/-- A visible character is the last significant one of the state exactly if it is so on the line. -/
theorem lastSignificant_eq_iff (l : Line) {c : Char} (hc : c ≠ lineStart) :
    l.state.lastSignificant = c ↔ l.significant.getLast? = some c := by
  rw [lastSignificant_state]
  cases l.significant.getLast? with
  | none => simp [Ne.symm hc]
  | some d => simp

/-! ## The lines of a text -/

theorem map_chars_allFrom (l : Line) (cs : List Char) :
    (allFrom l cs).map chars = Text.fields '\n' (l.chars ++ cs) := by
  induction cs generalizing l with
  | nil => simp [allFrom, Text.fields_of_not_mem l.not_mem_chars]
  | cons c cs ih =>
    rw [allFrom]
    split
    · next hc => rw [List.map_cons, ih, chars_extend, if_pos hc, hc,
        Text.fields_append_cons l.not_mem_chars, List.nil_append]
    · next hc => rw [ih, chars_extend, if_neg hc, List.append_assoc, List.singleton_append]

/-- The lines of a text are its pieces between line feeds. -/
theorem map_chars_all (text : List Char) : (all text).map chars = Text.fields '\n' text :=
  map_chars_allFrom ⟨[]⟩ text

theorem number_le_of_mem_allFrom {l l' : Line} {cs : List Char} (h : l' ∈ allFrom l cs) :
    l.number ≤ l'.number := by
  induction cs generalizing l with
  | nil => rw [List.mem_singleton.mp h]
  | cons c cs ih =>
    have hnext := l.number_extend c
    rw [allFrom] at h
    split at h
    · rcases List.mem_cons.mp h with rfl | h
      · exact Nat.le_refl _
      · have := ih h
        omega
    · have := ih h
      omega

theorem pairwise_allFrom (l : Line) (cs : List Char) :
    (allFrom l cs).Pairwise fun l l' => l.number < l'.number := by
  induction cs generalizing l with
  | nil => exact List.pairwise_singleton _ _
  | cons c cs ih =>
    rw [allFrom]
    split
    · next hc =>
      refine List.pairwise_cons.mpr ⟨?_, ih _⟩
      intro l' hl'
      have hnext := l.number_extend c
      have hle := number_le_of_mem_allFrom hl'
      rw [if_pos hc] at hnext
      omega
    · exact ih _

/-- Violations of some of the lines, in their order, have increasing numbers. -/
theorem pairwise_line {ls : List Line} {text : List Char} (hls : ls.Sublist (all text))
    {v : Line → Violation} (hv : ∀ l, (v l).line = some l.number) :
    ((ls.map v).map Violation.line).Pairwise (· < ·) := by
  rw [List.map_map, List.pairwise_map]
  refine ((pairwise_allFrom ⟨[]⟩ text).sublist hls).imp ?_
  intro l l' hlt
  simpa [hv] using hlt

theorem exists_append_of_mem_allFrom {l l' : Line} {cs : List Char} (h : l' ∈ allFrom l cs) :
    ∃ rest, l.upTo ++ cs = l'.upTo ++ rest ∧ ∀ c ∈ rest.head?, c = '\n' := by
  induction cs generalizing l with
  | nil => exact ⟨[], by rw [List.mem_singleton.mp h], by simp⟩
  | cons c cs ih =>
    have htail (h : l' ∈ allFrom (l.extend c) cs) :
        ∃ rest, l.upTo ++ c :: cs = l'.upTo ++ rest ∧ ∀ c ∈ rest.head?, c = '\n' := by
      obtain ⟨rest, heq, hrest⟩ := ih h
      exact ⟨rest, by rw [← heq]; simp [extend], hrest⟩
    rw [allFrom] at h
    split at h
    · next hc =>
      rcases List.mem_cons.mp h with rfl | h
      · exact ⟨c :: cs, rfl, by simp [hc]⟩
      · exact htail h
    · exact htail h

end Line

namespace Rule

/-! ## A rule at a line -/

/-- The rule with the options of `r`, when it has observed a line and all before it. -/
def upTo (r : Rule) (l : Line) : Rule := r.fresh.observe {} l.upTo

theorem upTo_extend (r : Rule) (l : Line) (c : Char) :
    r.upTo (l.extend c) = ((r.upTo l).check c (l.state.enter c)).1 := by
  rw [upTo, Line.extend, observe_append]
  rfl

theorem kind_upTo (r : Rule) (l : Line) : (r.upTo l).kind = r.kind := by
  rw [upTo, kind_observe, kind_fresh]

/-- A rule that remembers no text of lines is not touched by a change of the line ending. -/
theorem shown_eq_self {r : Rule} (h : r.kind ≠ .methodTooLong) :
    r.shown stripLineEnding id = r := by
  cases r with
  | statementSpan r =>
    obtain ⟨depth, first, pending⟩ := r
    cases pending <;> rfl
  | methodLength r => exact absurd rfl h
  | _ => rfl

/-- A line feed is on its line when the line is judged, and no such rule sees it there. -/
theorem check_newline {r : Rule} (h : r.kind ≠ .methodTooLong) (s : State) :
    r.check '\n' (s.enter '\n') = r.check '\n' s.ended := by
  have hstrip (s : State) : r.check '\n' (s.shown stripLineEnding) = r.check '\n' s := by
    have hshown := check_shown lineView_strip '\n' s r.overlooks_strip
    have hkind : (r.check '\n' s).1.kind ≠ .methodTooLong := by rwa [kind_check]
    rw [shown_eq_self h] at hshown
    rw [hshown]
    exact Prod.ext (shown_eq_self hkind) (Violation.map_shown_id _)
  rw [← hstrip, State.shown_enter_newline, hstrip]

/-- A rule at a line, from what one character does to it. -/
theorem upTo_eq_of_step {r : Rule} {q : Line → Rule} (hq : ∀ l, (q l).kind ≠ .methodTooLong)
    (hstart : r.fresh = q ⟨[]⟩)
    (hcheck : ∀ l c, c ≠ '\n' → ((q l).check c (l.state.enter c)).1 = q (l.extend c))
    (hnext : ∀ l, ((q l).check '\n' l.state.ended).1 = q (l.extend '\n')) (l : Line) :
    r.upTo l = q l := by
  induction l using Line.extend_induction with
  | start => exact hstart
  | extend l c ih =>
    rw [upTo_extend, ih]
    by_cases hc : c = '\n'
    · subst hc
      rw [check_newline (hq l), hnext]
    · exact hcheck l c hc

/-- What a rule reports at the end of a line: on the line feed, or on the end of the text. -/
theorem foundAt_line {r : Rule} (h : r.kind ≠ .methodTooLong) {text : List Char} {l : Line}
    (hl : l ∈ Line.all text) :
    foundAt [r] text l.upTo.length =
      if l.upTo = text then ((r.upTo l).close l.state).2
      else ((r.upTo l).check '\n' l.state.ended).2 := by
  obtain ⟨rest, htext, hrest⟩ := Line.exists_append_of_mem_allFrom hl
  simp only [List.nil_append] at htext
  subst htext
  rw [foundAt_eq _ _ (by simp), List.flatMap_singleton, reportsAt, List.take_left]
  cases rest with
  | nil => simp [Line.state, upTo]
  | cons c rest =>
    obtain rfl : c = '\n' := hrest c rfl
    have hget : (l.upTo ++ '\n' :: rest)[l.upTo.length]? = some '\n' := by simp
    have hne : l.upTo ≠ l.upTo ++ '\n' :: rest := by simp
    rw [hget, if_neg hne, ← check_newline (by rwa [kind_upTo])]
    rfl

/-! ## All lines -/

section Lines

variable {α : Type} {r : Rule} {f : Violation → α} (soFar judged rest : Line → List α)
  (hcheck : ∀ l c, c ≠ '\n' →
    soFar l ++ ((r.upTo l).check c (l.state.enter c)).2.map f = soFar (l.extend c))
  (hnext : ∀ l : Line, soFar (l.extend '\n') = [])
  (hline : ∀ l, soFar l ++ ((r.upTo l).check '\n' (l.state.enter '\n')).2.map f = judged l)
  (hclose : ∀ l, soFar l ++ ((r.upTo l).close l.state).2.map f = judged l ++ rest l)
include hcheck hnext hline hclose

theorem reports_allFrom (l : Line) (cs : List Char) :
    soFar l ++ ((r.upTo l).reportsAlong l.state cs ++
        ((r.upTo ⟨l.upTo ++ cs⟩).close (Line.state ⟨l.upTo ++ cs⟩)).2).map f =
      (Line.allFrom l cs).flatMap judged ++ rest ⟨l.upTo ++ cs⟩ := by
  induction cs generalizing l with
  | nil => simpa [reportsAlong, Line.allFrom] using hclose l
  | cons c cs ih =>
    have hrest : (⟨l.upTo ++ c :: cs⟩ : Line) = ⟨(l.extend c).upTo ++ cs⟩ := by simp [Line.extend]
    have htail := ih (l.extend c)
    rw [Line.state_extend, upTo_extend] at htail
    rw [reportsAlong, Line.allFrom, hrest, List.append_assoc, List.map_append, ← List.append_assoc]
    split
    · next hc =>
      subst hc
      rw [hnext, List.nil_append] at htail
      rw [htail, hline, List.flatMap_cons, List.append_assoc]
    · next hc => rw [hcheck l c hc, htail]

/-- What a rule finds in a text, from what it has found on a line so far, and what is judged when
the line is ended. The end of the text may add a rest to the judgement of the last line. -/
theorem scanText_lines (hstart : soFar ⟨[]⟩ = []) (text : List Char) :
    (scanText [r] text).map f = (Line.all text).flatMap judged ++ rest ⟨text⟩ := by
  have hall := reports_allFrom soFar judged rest hcheck hnext hline hclose ⟨[]⟩ text
  rw [hstart, List.nil_append, List.nil_append] at hall
  rw [scanText_alone]
  exact hall

end Lines

section LineEnds

variable {r : Rule} (hr : r.kind ≠ .methodTooLong)
  (hcheck : ∀ l c, c ≠ '\n' → ((r.upTo l).check c (l.state.enter c)).2 = [])
include hr hcheck

/-- What is found by a rule that reports at the ends of lines only. -/
theorem scanText_lineEnds (judged rest : Line → List Violation)
    (hline : ∀ l, ((r.upTo l).check '\n' l.state.ended).2 = judged l)
    (hclose : ∀ l, ((r.upTo l).close l.state).2 = judged l ++ rest l) (text : List Char) :
    scanText [r] text = (Line.all text).flatMap judged ++ rest ⟨text⟩ := by
  rw [← List.map_id (scanText [r] text)]
  refine scanText_lines (fun _ => []) judged rest ?_ (fun _ => rfl) ?_ ?_ rfl text
  · intro l c hc
    simp [hcheck l c hc]
  · intro l
    rw [check_newline (by rwa [kind_upTo]), hline]
    simp
  · intro l
    rw [hclose]
    simp

/-- What is found by a rule that reports some of the lines, each at its end. -/
theorem scanText_judged {p : Line → Bool} {v : Line → Violation}
    (hline : ∀ l, ((r.upTo l).check '\n' l.state.ended).2 = if p l then [v l] else [])
    (hclose : ∀ l, ((r.upTo l).close l.state).2 = if p l then [v l] else []) (text : List Char) :
    scanText [r] text = ((Line.all text).filter p).map v := by
  have hflat (ls : List Line) :
      ls.flatMap (fun l => if p l then [v l] else []) = (ls.filter p).map v := by
    induction ls with
    | nil => rfl
    | cons l ls ih => cases hp : p l <;> simp [hp, ih]
  rw [scanText_lineEnds hr hcheck _ (fun _ => []) hline (by simpa using hclose), hflat,
    List.append_nil]

end LineEnds
end Rule
end StyleScan
