import StyleScan.Proofs.Scan.Line

/-!
# StyleScan.Proofs.Rule.WordLength

What the rule of a word's length reports: the words that are too short. The words of a line are cut
out of its code at blanks; all that is neither letter nor digit, and all that is no code, joins what
stands around it.

* `WordLength.words`         — the words of some characters of code.
* `WordLength.words_eq`      — the words that are ended, and the one that is not.
* `WordLength.upTo_eq`       — what the rule's fields say at a line.
* `Rule.scanText_wordLength` — the words that are too short are reported, line by line.
-/

namespace StyleScan
namespace Rule
namespace WordLength

open Lexical (State Step)

/-- The words of some characters: what there is of letters and digits between two blanks. -/
def words (cs : List Char) : List (List Char) :=
  ((cs.splitOnP Text.isBlank).map (·.filter Text.isAlphanumeric)).filter (· ≠ [])

/-- A word that is no number, is shorter than the limit and is not allowed. -/
def isTooShort (r : WordLength) (w : List Char) : Bool :=
  !w.head?.any Text.isNumeric && w.length < r.minLength && !r.allowed.contains (String.ofList w)

/-- The violation of a word that is too short. -/
def wordViolation (r : WordLength) (number : Nat) (source : String) (w : List Char) : Violation :=
  .make .identifierTooShort (some number)
    ("Identifier '" ++ String.ofList w ++ "' is " ++ toString w.length ++ " characters long (min: "
      ++ toString r.minLength ++ ")")
    source
    (some "Use a descriptive name")

/-- The violations of the words that are too short. -/
def judge (r : WordLength) (number : Nat) (source : String) (ws : List (List Char)) :
    List Violation :=
  (ws.filter r.isTooShort).map (r.wordViolation number source)

section Judge

variable (r : WordLength) (number : Nat) (source : String)

theorem judge_append (ws ws' : List (List Char)) :
    r.judge number source (ws ++ ws') = r.judge number source ws ++ r.judge number source ws' := by
  simp only [judge, List.filter_append, List.map_append]

theorem map_shown_judge (ws : List (List Char)) :
    (r.judge number source ws).map (Violation.shown fun _ => "") = r.judge number "" ws := by
  rw [judge, List.map_map]
  rfl

end Judge

/-! ## Cutting at blanks -/

/-- What stands before the last blank, and the blank. -/
def ended (cs : List Char) : List Char := cs.rdropWhile fun c => !Text.isBlank c

/-- What stands behind the last blank. -/
def current (cs : List Char) : List Char := cs.rtakeWhile fun c => !Text.isBlank c

@[simp] theorem words_nil : words [] = [] := by
  simp [words]

theorem words_append_blank {c : Char} (hc : Text.isBlank c = true) (as bs : List Char) :
    words (as ++ c :: bs) = words as ++ words bs := by
  rw [words, List.splitOnP_append_cons as bs hc, List.map_append, List.filter_append]
  rfl

theorem words_concat {c : Char} (hc : Text.isBlank c = true) (cs : List Char) :
    words (cs ++ [c]) = words cs := by
  rw [words_append_blank hc, words_nil, List.append_nil]

theorem words_current (cs : List Char) :
    words (current cs) = [(current cs).filter Text.isAlphanumeric].filter (· ≠ []) := by
  have hblank : ∀ c ∈ current cs, Text.isBlank c = false := by
    intro c hc
    simpa using List.mem_rtakeWhile_imp hc
  rw [words, List.splitOnP_eq_singleton hblank, List.map_singleton]

theorem words_ended_concat (cs : List Char) (c : Char) :
    words (ended (cs ++ [c])) = if Text.isBlank c then words cs else words (ended cs) := by
  cases hc : Text.isBlank c with
  | false => simp [ended, hc]
  | true => simp [ended, hc, words_concat]

/-- The words that a blank has ended, and behind them the one that is left. -/
theorem words_eq (cs : List Char) : words cs = words (ended cs) ++ words (current cs) := by
  have hcut : ended cs ++ current cs = cs := List.rdropWhile_append_rtakeWhile
  -- what is ended is empty, or its last character is the blank that cuts there
  rcases List.eq_nil_or_concat' (ended cs) with hnil | ⟨as, c, hconcat⟩
  · rw [hnil, List.nil_append] at hcut
    rw [hnil, words_nil, List.nil_append, hcut]
  · have hblank : Text.isBlank c = true := by
      have hlast := List.rdropWhile_last_not (fun c => !Text.isBlank c) cs
      simp_all [ended]
    rw [hconcat, words_concat hblank, ← words_append_blank hblank]
    rw [hconcat] at hcut
    simpa using congrArg words hcut.symm

/-! ## The rule at a line -/

/-- The rule when it has read some code. -/
def reading (r : WordLength) (cs : List Char) : WordLength :=
  let w := (current cs).filter Text.isAlphanumeric
  { r.fresh with word := String.ofList w, length := w.length, number := w.head?.any Text.isNumeric }

theorem reading_blank (r : WordLength) {c : Char} (hc : Text.isBlank c = true) (cs : List Char) :
    r.reading (cs ++ [c]) = r.fresh := by
  have hnone : current (cs ++ [c]) = [] := by simp [current, hc]
  rw [reading, hnone]
  rfl

theorem reading_concat (r : WordLength) {c : Char} (hc : Text.isBlank c = false) (cs : List Char) :
    r.reading (cs ++ [c]) =
      if Text.isAlphanumeric c then (r.reading cs).extend c else r.reading cs := by
  have hcurrent : current (cs ++ [c]) = current cs ++ [c] := by simp [current, hc]
  rw [reading, hcurrent, List.filter_append, List.filter_singleton, reading]
  generalize (current cs).filter Text.isAlphanumeric = w
  cases Text.isAlphanumeric c with
  | false => simp
  | true =>
    have hword : String.ofList (w ++ [c]) = (String.ofList w).push c := by simp
    have hnumber : (w ++ [c]).head?.any Text.isNumeric =
        if w.length = 0 then Text.isNumeric c || w.head?.any Text.isNumeric
        else w.head?.any Text.isNumeric := by
      cases w <;> simp
    simp only [cond_true, if_true, extend, hword, hnumber, List.length_append,
      List.length_singleton]

/-- The word that is left is reported when it ends, and then the rule starts over. -/
theorem flush_reading (r : WordLength) (cs : List Char) (s : State) :
    (r.reading cs).flush s =
      (r.fresh, r.judge s.lineNumber s.currentLine (words (current cs))) := by
  rw [words_current]
  cases hw : (current cs).filter Text.isAlphanumeric with
  | nil => simp [flush, reading, hw, judge, fresh]
  | cons c w =>
    have hshort : (r.reading cs).tooShort = r.isTooShort (c :: w) := by
      simp [tooShort, reading, hw, isTooShort, fresh]
    have hviolation : (r.reading cs).violation s =
        r.wordViolation s.lineNumber s.currentLine (c :: w) := by
      simp [violation, reading, hw, wordViolation, fresh]
    rw [flush, hshort, hviolation]
    cases h : r.isTooShort (c :: w) <;> simp [reading, hw, judge, fresh, h]

/-- Code is read on, and a blank in it ends a word. All other characters are passed over. -/
theorem check_reading (r : WordLength) (cs : List Char) {c : Char} {s : State}
    (h : s.step ≠ .lineEnd) :
    (r.reading cs).check c s =
      if s.step = .code ∧ s.inLiteral = false then
        (r.reading (cs ++ [c]),
          if Text.isBlank c then r.judge s.lineNumber s.currentLine (words (current cs)) else [])
      else (r.reading cs, []) := by
  rw [check]
  cases hs : s.step with
  | lineEnd => exact absurd hs h
  | skip => simp
  | code =>
    cases s.inLiteral with
    | true => simp
    | false =>
      cases hc : Text.isBlank c with
      | true => simp [flush_reading, reading_blank r hc]
      | false => cases ha : Text.isAlphanumeric c <;> simp [reading_concat r hc, ha]

theorem upTo_eq (r : WordLength) (l : Line) :
    (wordLength r).upTo l = wordLength (r.reading l.code) := by
  refine upTo_eq_of_step (q := fun l => wordLength (r.reading l.code)) (by simp [kind]) rfl ?_ ?_ l
  · intro l c hc
    rw [l.code_extend, if_neg hc, Rule.check, check_reading r _ (l.step_enter_ne hc)]
    split <;> rfl
  · intro l
    show wordLength ((r.reading l.code).flush l.state.ended).1 = _
    rw [flush_reading, l.code_extend, if_pos rfl]
    rfl

/-! ## The words of a line -/

section Line

variable (r : WordLength) (l : Line)

/-- The words that have ended on the line so far are reported. -/
theorem check_upTo {c : Char} (hc : c ≠ '\n') :
    r.judge l.number "" (words (ended l.code)) ++
        (((wordLength r).upTo l).check c (l.state.enter c)).2.map (Violation.shown fun _ => "") =
      r.judge (l.extend c).number "" (words (ended (l.extend c).code)) := by
  rw [upTo_eq, Rule.check, check_reading r _ (l.step_enter_ne hc), l.number_extend, l.code_extend,
    if_neg hc, if_neg hc, Nat.add_zero]
  split
  · rw [words_ended_concat]
    split
    · rw [Prod.map_snd, id_eq, map_shown_judge, State.lineNumber_enter, l.lineNumber_state,
        ← judge_append, ← words_eq]
    · simp
  · simp

/-- The word that is left joins them when the line ends. -/
theorem flush_upTo {s : State} (hs : s.lineNumber = l.number) :
    r.judge l.number "" (words (ended l.code)) ++
        ((r.reading l.code).flush s).2.map (Violation.shown fun _ => "") =
      r.judge l.number "" (words l.code) := by
  rw [flush_reading, map_shown_judge, hs, ← judge_append, ← words_eq]

end Line
end WordLength

open WordLength (words ended judge)

/-- **Exactly the words that are too short are reported,** line by line and in the order of the
line, with the number of their line. A word is cut at the blanks of code, its other characters than
letters and digits left out; it is too short if it is no number, is below the limit and is not
allowed. The source lines are left out here. -/
theorem scanText_wordLength (r : WordLength) (text : List Char) :
    (scanText [wordLength r] text).map (Violation.shown fun _ => "") =
      (Line.all text).flatMap fun l =>
        ((words l.code).filter r.isTooShort).map (r.wordViolation l.number "") := by
  -- so far on a line, the words that a blank has ended are reported; the end of the line adds one
  have hfound := scanText_lines
    (fun l => judge r l.number "" (words (ended l.code)))
    (fun l => judge r l.number "" (words l.code)) (fun _ => [])
    (fun l c hc => WordLength.check_upTo r l hc) ?_ ?_ ?_ ?_ text
  · rw [hfound, List.append_nil]
    rfl
  · intro l
    rw [l.code_extend, if_pos rfl]
    rfl
  · intro l
    have hnumber : (l.state.enter '\n').lineNumber = l.number := by
      rw [Lexical.State.lineNumber_enter, l.lineNumber_state]
    have hend : (l.state.enter '\n').step = .lineEnd := by
      rw [Lexical.State.step_enter_eq_lineEnd_iff]
    rw [WordLength.upTo_eq, Rule.check, WordLength.check, hend, Prod.map_snd, id_eq,
      WordLength.flush_upTo r l hnumber]
  · intro l
    rw [WordLength.upTo_eq, Rule.close, WordLength.close, Prod.map_snd, id_eq,
      WordLength.flush_upTo r l l.lineNumber_state, List.append_nil]
  · rfl

/-- A comment and a literal join what stands around them, and a word that starts with a digit is a
number. -/
example :
    (scanText [wordLength {}] "ab.c x/* */y 2z\nif \"a b\"q".toList).map
        (fun v => (v.line, v.message)) =
      [(some 1, "Identifier 'xy' is 2 characters long (min: 3)"),
        (some 2, "Identifier 'q' is 1 characters long (min: 3)")] := by
  decide +kernel

end Rule
end StyleScan
