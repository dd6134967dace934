import StyleScan.Proofs.Scan.Line

/-!
# StyleScan.Proofs.Rule.FileLength

What the rule of a file's length reports: the file, once and at its end, if too many of the lines
that a line feed ends are blank or hold code.

* `Line.ended`              — the lines of a text that a line feed ends.
* `Line.mem_ended_iff`      — they are what stands before each line feed.
* `FileLength.counts`       — a line that is blank from end to end, or holds visible code.
* `FileLength.counts_eq_false_iff` — a line is free if it shows something, all of it skipped.
* `FileLength.upTo_eq`      — what the rule's fields say at a line.
* `Rule.scanText_fileLength` — the file is reported exactly if too many lines count.
-/

namespace StyleScan

open Lexical (State Step)

namespace Line

/-- The lines of a text that a line feed ends: all but the last one. -/
def ended (text : List Char) : List Line := (all text).dropLast

theorem allFrom_ne_nil (l : Line) (cs : List Char) : allFrom l cs ≠ [] := by
  induction cs generalizing l with
  | nil => simp [allFrom]
  | cons c cs ih =>
    rw [allFrom]
    split
    · simp
    · exact ih _

/-- One more character either goes to the last line or, as a line feed, starts another one. -/
theorem allFrom_concat (l : Line) (cs : List Char) (c : Char) :
    allFrom l (cs ++ [c]) =
      (if c = '\n' then allFrom l cs else (allFrom l cs).dropLast) ++
        [⟨l.upTo ++ (cs ++ [c])⟩] := by
  induction cs generalizing l with
  | nil => by_cases hc : c = '\n' <;> simp [allFrom, hc, extend]
  | cons d cs ih =>
    have htail := ih (l.extend d)
    have hne := allFrom_ne_nil (l.extend d) cs
    have hup : (l.extend d).upTo ++ (cs ++ [c]) = l.upTo ++ (d :: cs ++ [c]) := by simp [extend]
    rw [hup] at htail
    rw [List.cons_append, allFrom, allFrom, htail]
    -- a line feed at `d` ends the first line, and the lines behind it are those of the rest
    by_cases hc : c = '\n'
    · by_cases hd : d = '\n' <;> simp [hd, hc]
    · rw [if_neg hc, if_neg hc]
      split
      · rw [List.dropLast_cons_of_ne_nil hne]
        rfl
      · rfl

theorem all_eq (text : List Char) : all text = ended text ++ [⟨text⟩] := by
  rcases List.eq_nil_or_concat text with rfl | ⟨text, c, rfl⟩
  · rfl
  · simp [ended, all, allFrom_concat]

theorem ended_concat (text : List Char) (c : Char) :
    ended (text ++ [c]) = if c = '\n' then ended text ++ [⟨text⟩] else ended text := by
  rw [← all_eq, ended, all, allFrom_concat, List.dropLast_concat]
  rfl

theorem mem_ended_iff {text : List Char} {l : Line} :
    l ∈ ended text ↔ l.upTo ++ ['\n'] <+: text := by
  induction text using List.reverseRecOn with
  | nil => simp [ended, all, allFrom]
  | append_singleton text c ih =>
    rw [ended_concat, List.prefix_concat_iff, ← ih]
    split
    · next hc =>
      obtain ⟨before⟩ := l
      simp [hc, or_comm]
    · next hc => simp [Ne.symm hc]

theorem step_ne_of_mem_trace {l : Line} {p : Char × State} (h : p ∈ l.trace) :
    p.2.step ≠ .lineEnd := by
  induction l using extend_induction with
  | start => cases h
  | extend l c ih =>
    rw [trace_extend] at h
    split at h
    · cases h
    · next hc =>
      rcases List.mem_append.mp h with h | h
      · exact ih h
      · rw [List.mem_singleton.mp h]
        exact l.step_enter_ne hc

end Line

namespace Rule
namespace FileLength

/-- The line holds code that can be seen, inside literals and directives too. -/
def holdsCode (l : Line) : Bool := l.trace.any fun p => p.2.step == .code && !Text.isBlank p.1

/-- The line is blank from end to end, or holds code that can be seen. -/
def counts (l : Line) : Bool := l.chars.all Text.isBlank || holdsCode l

/-- The number of lines that count, of those that a line feed ends. -/
def countedLines (text : List Char) : Nat := (Line.ended text).countP counts

/-- The violation of a file of `n` lines. -/
def fileViolation (n maxLines : Nat) : Violation :=
  .make .fileTooLong none
    ("File has " ++ toString n ++ " lines of code (max: " ++ toString maxLines ++ ")") ""
    (some "Split the file into smaller compilation units")

theorem counts_eq_false_iff (l : Line) :
    counts l = false ↔
      (∃ c ∈ l.chars, Text.isBlank c = false) ∧
        ∀ p ∈ l.trace, Text.isBlank p.1 = false → p.2.step = .skip := by
  have hstep (p : Char × State) (hp : p ∈ l.trace) : p.2.step = .code ∨ p.2.step = .skip := by
    have hne := Line.step_ne_of_mem_trace hp
    cases hs : p.2.step with
    | lineEnd => exact absurd hs hne
    | code => exact .inl rfl
    | skip => exact .inr rfl
  rw [counts, Bool.or_eq_false_iff, holdsCode, List.all_eq_false, List.any_eq_false]
  refine and_congr (by simp) (forall₂_congr ?_)
  intro p hp
  rcases hstep p hp with hs | hs <;> simp [hs]

/-! ## The rule at a line -/

/-- The rule when it has followed a line, and counted those before it. -/
def reached (r : FileLength) (l : Line) : FileLength where
  maxLines := r.maxLines
  count := countedLines l.upTo
  hasCode := holdsCode l

theorem reached_extend (r : FileLength) (l : Line) {c : Char} (hc : c ≠ '\n') :
    r.reached (l.extend c) =
      { r.reached l with
        hasCode := holdsCode l || ((l.state.enter c).step == .code && !Text.isBlank c) } := by
  have hcount : countedLines (l.extend c).upTo = countedLines l.upTo := by
    rw [countedLines, Line.extend, Line.ended_concat, if_neg hc, countedLines]
  rw [reached, hcount, holdsCode, l.trace_extend, if_neg hc]
  simp [reached, holdsCode]

theorem reached_newline (r : FileLength) (l : Line) :
    r.reached (l.extend '\n') =
      { maxLines := r.maxLines
        count := if counts l then countedLines l.upTo + 1 else countedLines l.upTo } := by
  have hcount : countedLines (l.extend '\n').upTo =
      if counts l then countedLines l.upTo + 1 else countedLines l.upTo := by
    rw [countedLines, Line.extend, Line.ended_concat, if_pos rfl, List.countP_append,
      List.countP_singleton, countedLines]
    split <;> rfl
  rw [reached, hcount, holdsCode, l.trace_extend, if_pos rfl]
  rfl

theorem upTo_eq (r : FileLength) (l : Line) : (fileLength r).upTo l = fileLength (r.reached l) := by
  refine upTo_eq_of_step (q := fun l => fileLength (r.reached l)) (by simp [kind]) rfl ?_ ?_ l
  · intro l c hc
    rw [r.reached_extend l hc, Rule.check, check]
    cases hs : (l.state.enter c).step with
    | lineEnd => exact absurd hs (l.step_enter_ne hc)
    | code => cases hblank : Text.isBlank c <;> simp [reached]
    | skip => simp [reached]
  · intro l
    rw [r.reached_newline l, counts, ← l.blankLine_state]
    rfl

theorem reportsAlong_eq (r : FileLength) (s : State) (cs : List Char) :
    (fileLength r).reportsAlong s cs = [] := by
  induction cs generalizing r s with
  | nil => rfl
  | cons c cs ih =>
    have hnone : ((fileLength r).check c (s.enter c)).2 = [] :=
      r.check_reports_nothing c (s.enter c)
    rw [reportsAlong, hnone, List.nil_append]
    exact ih _ _

end FileLength

open FileLength (counts countedLines fileViolation)

/-- **A file is reported exactly if too many of its lines count,** once and at its end. A line
counts if a line feed ends it, and it is blank from end to end or holds visible code; what is inside
literals and directives is code too. A line that shows something, all of it skipped, is free. -/
theorem scanText_fileLength (r : FileLength) (text : List Char) :
    scanText [fileLength r] text =
        (if r.maxLines < countedLines text then [fileViolation (countedLines text) r.maxLines]
        else []) ∧
      (scanUpTo [fileLength r] text text.length).found = #[] ∧
      (∀ l, l ∈ Line.ended text ↔ l.upTo ++ ['\n'] <+: text) ∧
      ∀ l, counts l = false ↔
        (∃ c ∈ l.chars, Text.isBlank c = false) ∧
          ∀ p ∈ l.trace, Text.isBlank p.1 = false → p.2.step = .skip := by
  have hend : (fileLength r).fresh.observe {} text = fileLength (r.reached ⟨text⟩) :=
    r.upTo_eq ⟨text⟩
  refine ⟨?_, ?_, fun _ => Line.mem_ended_iff, FileLength.counts_eq_false_iff⟩
  · rw [scanText_alone, hend, fresh, FileLength.reportsAlong_eq, List.nil_append]
    rfl
  · rw [← Array.toList_inj, scanUpTo, found_feedText_alone (fileLength r).fresh _ rfl, fresh,
      FileLength.reportsAlong_eq]
    rfl

/-- The comment's lines are free but for the blank one inside it, and so is the last line. -/
example :
    (scanText [fileLength { maxLines := 3 }] "#if x\n/* a\n \n*/\n// b\n\nc /* d */\ne".toList).map
      Violation.message = ["File has 4 lines of code (max: 3)"] := by
  decide +kernel

end Rule
end StyleScan
