import Mathlib.Data.List.DropRight
import StyleScan.Proofs.Lexical.LineBoundary
import StyleScan.Scan

/-!
# StyleScan.Proofs.Lexical.Invariant

What each field of a lexical state says about the text that led to it.

* `lastLine`, `State.lastLineTrace` — what stands behind the last line feed of a text.
* `State.mark_eq`, `State.enter_eq` — the fields that a character leaves alone.
* `State.Represents`         — the meaning of every field, in terms of the text.
* `State.Represents.advance` — one more character keeps the meaning.
* `Scan.represents_feedText` — it holds after every text, under any rules.
-/

namespace StyleScan
namespace Lexical

/-- What stands behind the last line feed of a text. -/
def lastLine (text : List Char) : List Char := text.rtakeWhile (· != '\n')

theorem lastLine_concat (text : List Char) (c : Char) :
    lastLine (text ++ [c]) = if c = '\n' then [] else lastLine text ++ [c] := by
  by_cases hc : c = '\n' <;> simp [lastLine, hc]

namespace State

/-- Code outside literals that is no blank, in the state in which it is observed. -/
def isSignificant (s : State) (c : Char) : Bool :=
  s.step == .code && !Text.isBlank c && !s.inLiteral

/-- The characters behind the last line feed of a text, each with the state in which it is
observed. -/
def lastLineTrace (text : List Char) : List (Char × State) :=
  (({} : State).trace text).rtakeWhile fun p => p.1 != '\n'

/-- The significant characters behind the last line feed of a text. -/
def significant (text : List Char) : List Char :=
  ((lastLineTrace text).filter fun p => p.2.isSignificant p.1).map Prod.fst

theorem run_concat (s : State) (text : List Char) (c : Char) :
    s.run (text ++ [c]) = (s.run text).advance c := by
  rw [run_append]
  rfl

theorem lastLineTrace_concat (text : List Char) (c : Char) :
    lastLineTrace (text ++ [c]) =
      if c = '\n' then [] else lastLineTrace text ++ [(c, (({} : State).run text).enter c)] := by
  rw [lastLineTrace, trace_append, trace, trace, List.rtakeWhile_concat]
  by_cases hc : c = '\n' <;> simp [lastLineTrace, hc]

theorem significant_concat (text : List Char) (c : Char) :
    significant (text ++ [c]) =
      if c = '\n' then []
      else if ((({} : State).run text).enter c).isSignificant c then significant text ++ [c]
      else significant text := by
  rw [significant, lastLineTrace_concat]
  split
  · rfl
  · split <;> simp_all [significant]

theorem isBlank_of_mem_significant {text : List Char} {c : Char} (h : c ∈ significant text) :
    Text.isBlank c = false := by
  simp only [significant, List.mem_map, List.mem_filter, isSignificant, Bool.and_eq_true,
    Bool.not_eq_true'] at h
  obtain ⟨p, ⟨_, ⟨_, hblank⟩, _⟩, rfl⟩ := h
  exact hblank

/-! ## What a character changes -/

theorem mark_eq (s : State) (c : Char) :
    s.mark c =
      { s with
        inChar := (s.mark c).inChar
        inString := (s.mark c).inString
        inDirective := (s.mark c).inDirective
        inComment := (s.mark c).inComment
        inBlock := (s.mark c).inBlock
        claimed := (s.mark c).claimed } := by
  simp only [mark, toggleChar, toggleString, enterDirective, markSlash, markStar]
  repeat' split
  all_goals rfl

theorem enter_eq (s : State) (c : Char) :
    s.enter c =
      { (s.push c).mark c with
        step := (s.enter c).step
        lastSignificant := (s.enter c).lastSignificant } := by
  obtain ⟨last, h⟩ := settle_eq ((s.push c).mark c) c
  rw [enter, h]

section Enter

variable (s : State) (c : Char)

@[simp] theorem currentLine_enter : (s.enter c).currentLine = s.currentLine.push c := by
  rw [enter_eq, mark_eq]
  rfl

@[simp] theorem blankLine_enter : (s.enter c).blankLine = (s.blankLine && Text.isBlank c) := by
  rw [enter_eq, mark_eq]
  rfl

@[simp] theorem escaped_enter : (s.enter c).escaped = s.escaped := by
  rw [enter_eq, mark_eq]
  rfl

theorem step_enter_eq_lineEnd_iff : (s.enter c).step = .lineEnd ↔ c = '\n' := by
  rw [step_enter, classify]
  split
  · simp_all
  · split <;> simp_all

theorem isSignificant_settle :
    (s.settle c).isSignificant c = (s.classify c == .code && !Text.isBlank c && !s.inLiteral) := by
  obtain ⟨last, h⟩ := settle_eq s c
  rw [h]
  rfl

theorem lastSignificant_enter :
    (s.enter c).lastSignificant =
      if (s.enter c).isSignificant c then c else s.lastSignificant := by
  have hmark : ((s.push c).mark c).lastSignificant = s.lastSignificant := by
    rw [mark_eq]
    rfl
  rw [enter, isSignificant_settle, ← hmark]
  generalize (s.push c).mark c = t
  simp only [settle, Bool.and_eq_true, beq_iff_eq, Bool.not_eq_true', and_assoc]
  split <;> rfl

end Enter

section Advance

variable (s : State) (c : Char)

theorem currentLine_advance :
    (s.advance c).currentLine = if c = '\n' then "" else s.currentLine.push c := by
  simp only [advance, leave]
  split
  · rfl
  · exact currentLine_enter s c

theorem blankLine_advance :
    (s.advance c).blankLine = if c = '\n' then true else s.blankLine && Text.isBlank c := by
  simp only [advance, leave]
  split
  · rfl
  · exact blankLine_enter s c

@[simp] theorem escaped_advance : (s.advance c).escaped = (!s.escaped && c == '\\') := by
  simp only [advance, leave, escaped_enter]

theorem lastSignificant_advance :
    (s.advance c).lastSignificant =
      if c = '\n' then lineStart
      else if (s.enter c).isSignificant c then c else s.lastSignificant := by
  simp only [advance, leave]
  split
  · rfl
  · exact lastSignificant_enter s c

end Advance

theorem literals_mark {s : State} (h : ¬ (s.inChar = true ∧ s.inString = true)) (c : Char) :
    ¬ ((s.mark c).inChar = true ∧ (s.mark c).inString = true) := by
  grind [mark, toggleChar, toggleString, enterDirective, markSlash, markStar]

theorem literals_advance {s : State} (h : ¬ (s.inChar = true ∧ s.inString = true)) (c : Char) :
    ¬ ((s.advance c).inChar = true ∧ (s.advance c).inString = true) := by
  have hmark := literals_mark (s := s.push c) h c
  rw [advance, enter_eq]
  simp only [leave]
  split
  · simp [endLine]
  · exact hmark

/-! ## The meaning of the fields -/

/-- What the fields of a state say about the text that led to it. -/
structure Represents (s : State) (text : List Char) : Prop where
  lineNumber : s.lineNumber = 1 + text.count '\n'
  currentLine : s.currentLine = String.ofList (lastLine text)
  blankLine : s.blankLine = (lastLine text).all Text.isBlank
  previous : s.previous = text.getLast?.getD lineStart
  escaped : s.escaped = true ↔ (text.rtakeWhile (· == '\\')).length % 2 = 1
  claimed : s.claimed = false
  lastSignificant : s.lastSignificant = (significant text).getLast?.getD lineStart
  noneSignificant : s.lastSignificant = lineStart ↔ significant text = []
  block : s.inBlock = true → s.inComment = true
  literals : ¬ (s.inChar = true ∧ s.inString = true)
  afterLine : text.getLast? = some '\n' →
    s.inChar = false ∧ s.inString = false ∧ s.inDirective = false ∧ s.inComment = s.inBlock

theorem represents_start : ({} : State).Represents [] where
  lineNumber := rfl
  currentLine := rfl
  blankLine := rfl
  previous := rfl
  escaped := by simp
  claimed := rfl
  lastSignificant := rfl
  noneSignificant := by simp [significant, lastLineTrace, trace]
  block := by simp
  literals := by simp
  afterLine := by simp

theorem getD_significant_eq_lineStart (text : List Char) :
    (significant text).getLast?.getD lineStart = lineStart ↔ significant text = [] := by
  constructor
  · intro h
    by_contra hne
    -- `lineStart` is a blank, and no blank is significant
    rw [List.getLast?_eq_some_getLast hne, Option.getD_some] at h
    have hblank := isBlank_of_mem_significant (h ▸ List.getLast_mem hne)
    revert hblank
    decide
  · intro h
    rw [h]
    rfl

theorem Represents.advance {text : List Char} (h : (({} : State).run text).Represents text)
    (c : Char) : ((({} : State).run text).advance c).Represents (text ++ [c]) := by
  -- `hs` is kept, since `lastSignificant` and `block` speak of the run that led to the state
  generalize hs : ({} : State).run text = s at h
  have hlast :
      (s.advance c).lastSignificant = (significant (text ++ [c])).getLast?.getD lineStart := by
    rw [lastSignificant_advance, significant_concat, hs, h.lastSignificant]
    split
    · rfl
    · split <;> simp
  constructor
  case lineNumber => rw [lineNumber_advance, h.lineNumber, List.count_append, Nat.add_assoc]
  case currentLine =>
    rw [currentLine_advance, lastLine_concat, h.currentLine]
    split
    · rfl
    · rw [String.ofList_append]
      rfl
  case blankLine =>
    rw [blankLine_advance, lastLine_concat, h.blankLine]
    split <;> simp
  case previous => simp
  case escaped =>
    rw [escaped_advance, List.rtakeWhile_concat]
    by_cases hc : c = '\\'
    · -- one more backslash, and the other parity
      simp only [hc, beq_self_eq_true, Bool.and_true, if_true, List.length_append,
        List.length_singleton]
      rw [Bool.not_eq_true', ← Bool.not_eq_true, h.escaped]
      omega
    · simp [hc]
  case claimed => rfl
  case lastSignificant => exact hlast
  case noneSignificant => rw [hlast, getD_significant_eq_lineStart]
  case block =>
    rw [← hs, ← run_concat]
    exact Reachable.inComment_of_inBlock ⟨text ++ [c], rfl⟩
  case literals => exact literals_advance h.literals c
  case afterLine =>
    intro hline
    have hc : c = '\n' := by simpa using hline
    rw [hc, advance_newline]
    exact ⟨rfl, rfl, rfl, rfl⟩

theorem represents_run (text : List Char) : (({} : State).run text).Represents text := by
  induction text using List.reverseRecOn with
  | nil => exact represents_start
  | append_singleton text c ih =>
    rw [run_concat]
    exact ih.advance c

end State
end Lexical

/-- **The lexical state says what the text is.** After any text, under any rules, every field of the
state has its meaning: the number and the text of the current line, whether that line is blank, the
character before, whether it escapes the next one, and the last significant character of the line.
Character and string literals exclude each other, a block is a comment, and a line feed ends all but
a block. -/
theorem Scan.represents_feedText (rules : List Rule) (text : List Char) :
    ((Scan.start rules).feedText text).state.Represents text := by
  rw [Scan.state_feedText]
  exact Lexical.State.represents_run text

end StyleScan
