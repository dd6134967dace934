import StyleScan.Proofs.Lexical.Comment
import StyleScan.Proofs.Scan.LineEnding
import StyleScan.Proofs.Scan.Origin

/-!
# StyleScan.Proofs.Scan.OpenComment

A block comment that is open behind a line feed and is not closed again: the rest of the text is
read, and only the widths and the number of its lines are judged.

* `Rule.AtLineStart`  — the rule judges code and knows nothing of the current line.
* `Rule.check_skip`, `Rule.check_emptyLine`, `Rule.close_emptyLine` — a rule in a comment.
* `Rule.foundFrom_block` — in the comment a scan finds what its rules have held back.
* `Rule.scanText_open_block` — what is found in a text that ends in an open comment.
-/

namespace StyleScan

open Lexical (State Step lineStart)

namespace Rule

/-- The rule judges code, and knows nothing of the current line. -/
def AtLineStart : Rule → Prop
  | fileLength _ => False
  | lineWidth _ => False
  | statementCount r => r = {}
  | statementSpan r => r = { pending := r.pending }
  | methodLength _ => True
  | wordLength r => r.length = 0
  | observer _ => True

/-! ## A rule in a comment -/

theorem check_skip {r : Rule} (hr : r.AtLineStart) {s : State} (hs : s.step = .skip) (c : Char) :
    r.check c s = (r, []) := by
  cases r with
  | fileLength r => exact hr.elim
  | lineWidth r => exact hr.elim
  | statementCount r => simp [check, StatementCount.check, hs]
  | statementSpan r => simp [check, StatementSpan.check, hs]
  | methodLength r => simp [check, MethodLength.check, hs]
  | wordLength r => simp [check, WordLength.check, hs]
  | observer kind => rfl

/-- The end of a line leaves nothing of it to a rule that judges code. -/
theorem atLineStart_check {r : Rule} (hlength : r.kind ≠ .fileTooLong)
    (hwidth : r.kind ≠ .lineTooWide) {s : State} (hs : s.step = .lineEnd) (c : Char) :
    (r.check c s).1.AtLineStart := by
  cases r with
  | fileLength r => exact absurd rfl hlength
  | lineWidth r => exact absurd rfl hwidth
  | statementCount r => simp [check, StatementCount.check, hs, StatementCount.endLine, AtLineStart]
  | statementSpan r => exact StatementSpan.check_lineEnd hs r c
  | methodLength r => trivial
  | wordLength r =>
    show (r.check c s).1.length = 0
    simp only [WordLength.check, hs, WordLength.flush]
    split
    · assumption
    · rfl
  | observer kind => trivial

theorem StatementCount.endLine_new (s : State) : ({} : StatementCount).endLine s = ({}, []) := by
  simp [endLine, separators]

section EmptyLine

variable {s : State} (hlast : s.lastSignificant = lineStart)
include hlast

/-- A line without code closes its statement, and calls no constructor. -/
theorem StatementSpan.endLine_emptyLine (pending : Option Violation) :
    ({ pending } : StatementSpan).endLine s = ({}, pending.toList) := by
  simp [endLine, hlast, isClosed, closers, release, State.opensInitializer, lineStart]

/-- A line without code ends: what was held back is reported, and nothing else. -/
theorem check_emptyLine {r : Rule} (hr : r.AtLineStart) (hs : s.step = .lineEnd) (c : Char) :
    (r.check c s).2 = r.heldBack ∧ (r.check c s).1.AtLineStart ∧ (r.check c s).1.heldBack = [] := by
  cases r with
  | fileLength r => exact hr.elim
  | lineWidth r => exact hr.elim
  | statementCount r =>
    have hr : r = {} := hr
    simp [check, StatementCount.check, hs, hr, StatementCount.endLine_new, heldBack,
      AtLineStart]
  | statementSpan r =>
    have hr : r = { pending := r.pending } := hr
    rw [hr]
    simp [check, StatementSpan.check, hs, StatementSpan.endLine_emptyLine hlast, heldBack,
      AtLineStart]
  | methodLength r => simp [check, MethodLength.check, hs, heldBack, AtLineStart]
  | wordLength r =>
    have hr : r.length = 0 := hr
    simp [check, WordLength.check, hs, WordLength.flush, hr, heldBack, AtLineStart]
  | observer kind => exact ⟨rfl, trivial, rfl⟩

theorem close_emptyLine {r : Rule} (hr : r.AtLineStart) : (r.close s).2 = r.heldBack := by
  cases r with
  | fileLength r => exact hr.elim
  | lineWidth r => exact hr.elim
  | statementCount r =>
    have hr : r = {} := hr
    simp [close, StatementCount.close, hr, StatementCount.endLine_new, heldBack]
  | statementSpan r =>
    have hr : r = { pending := r.pending } := hr
    rw [hr]
    simp [close, StatementSpan.close, StatementSpan.endLine_emptyLine hlast, heldBack]
  | methodLength r => rfl
  | wordLength r =>
    have hr : r.length = 0 := hr
    simp [close, WordLength.close, WordLength.flush, hr, heldBack]
  | observer kind => rfl

end EmptyLine

end Rule

/-! ## Along the comment -/

/-- Inside a block comment, with no code before it on the line. -/
structure Lexical.State.BlockLine (s : State) : Prop where
  comment : s.inComment = true
  block : s.inBlock = true
  noCode : s.lastSignificant = lineStart

/-- A character that does not end the comment is a line feed or skipped, and shows no code. -/
theorem Lexical.State.BlockLine.step {s : State} (h : s.BlockLine) {c : Char} {cs : List Char}
    (hw : ¬ ['*', '/'] <:+: s.previous :: c :: cs) :
    (s.enter c).step = (if c = '\n' then .lineEnd else .skip) ∧
      (s.enter c).lastSignificant = lineStart ∧ (s.advance c).BlockLine := by
  have hone : ¬ ['*', '/'] <:+: s.previous :: [c] := fun hone =>
    hw (hone.trans (List.infix_append [] [s.previous, c] cs))
  obtain ⟨htrace, hc, hb⟩ := State.block_run h.comment h.block hone
  have hstep : (s.enter c).step = if c = '\n' then .lineEnd else .skip :=
    htrace (c, s.enter c) List.mem_cons_self
  have hcode : (s.enter c).step ≠ .code := by
    rw [hstep]
    split <;> decide
  have hlast : (s.enter c).lastSignificant = lineStart := by
    rw [lastSignificant_enter, if_neg, h.noCode]
    simp [isSignificant, hcode]
  refine ⟨hstep, hlast, hc, hb, ?_⟩
  simp only [advance, leave]
  split
  · rfl
  · exact hlast

namespace Rule

/-- In a block comment that is not closed, rules that stand at the start of a line find what they
have held back, and nothing in the comment. -/
theorem foundFrom_block {rules : List Rule} (hrules : ∀ r ∈ rules, r.AtLineStart) {s : State}
    (hs : s.BlockLine) {w : List Char} (hw : ¬ ['*', '/'] <:+: s.previous :: w) :
    foundFrom rules s w = rules.flatMap heldBack := by
  induction w generalizing rules s with
  | nil =>
    rw [foundFrom, closeAll_eq]
    exact List.flatMap_congr fun r hr => close_emptyLine hs.noCode (hrules r hr)
  | cons c cs ih =>
    obtain ⟨hstep, hlast, hnext⟩ := hs.step hw
    have hrest : ¬ ['*', '/'] <:+: (s.advance c).previous :: cs := fun h => hw (List.infix_cons h)
    rw [foundFrom]
    by_cases hline : c = '\n'
    · -- the first line of the comment releases what was held back
      rw [if_pos hline] at hstep
      have hcheck (r : Rule) (hr : r ∈ rules) := check_emptyLine hlast (hrules r hr) hstep c
      have hstart : ∀ r ∈ rules.map fun r => (r.check c (s.enter c)).1, r.AtLineStart := by
        rw [List.forall_mem_map]
        exact fun r hr => (hcheck r hr).2.1
      have hnone : (rules.flatMap fun r => (r.check c (s.enter c)).1.heldBack) = [] :=
        List.flatMap_eq_nil_iff.mpr fun r hr => (hcheck r hr).2.2
      rw [checkAll_eq, ih hstart hnext hrest, List.flatMap_map, hnone, List.append_nil]
      exact List.flatMap_congr fun r hr => (hcheck r hr).1
    · rw [if_neg hline] at hstep
      rw [checkAll_idle fun r hr => check_skip (hrules r hr) hstep c]
      exact ih hrules hnext hrest

/-- What is found in a text is found in its first part, or behind it by the rules as they are
then. -/
theorem scanText_append (rules : List Rule) (text w : List Char) :
    let before := (Scan.start (rules.map fresh)).feedText text
    scanText rules (text ++ w) =
      before.found.toList ++ foundFrom before.rules (({} : State).run text) w := by
  intro before
  have hstate : before.state = ({} : State).run text := Scan.state_feedText _ _
  rw [scanText, Scan.feedText_append, finish_feedText, hstate]

theorem atLineStart_feedText {rules : List Rule}
    (hrules : ∀ r ∈ rules, r.kind ≠ .fileTooLong ∧ r.kind ≠ .lineTooWide) {text : List Char}
    (hline : text.getLast? = some '\n') :
    ∀ r ∈ ((Scan.start (rules.map fresh)).feedText text).rules, r.AtLineStart := by
  obtain ⟨as, rfl⟩ := List.getLast?_eq_some_iff.mp hline
  rw [Scan.rules_feedText, List.forall_mem_map]
  simp only [Scan.start, List.forall_mem_map]
  intro r hr
  have hkind : (r.fresh.observe {} as).kind = r.kind := by rw [kind_observe, kind_fresh]
  obtain ⟨hlength, hwidth⟩ := hrules r hr
  rw [← hkind] at hlength hwidth
  rw [observe_append]
  exact atLineStart_check hlength hwidth (State.step_enter_newline _) '\n'

/-- **An unterminated block comment silences the rest of a text.** If a text ends in a line feed
inside a block comment, then in what follows without a terminator every character but a line feed is
skipped, and the comment goes on to the end. Rules other than those of a file's length and a line's
width, alone or together, find what they find without that rest. -/
theorem scanText_open_block {text : List Char} (hline : text.getLast? = some '\n')
    (hblock : (({} : State).run text).inBlock = true) {w : List Char}
    (hw : ¬ ['*', '/'] <:+: w) :
    (∀ p ∈ (({} : State).run text).trace w, p.2.step = if p.1 = '\n' then .lineEnd else .skip) ∧
      (({} : State).run (text ++ w)).inComment = true ∧
      (({} : State).run (text ++ w)).inBlock = true ∧
      ∀ rules : List Rule, (∀ r ∈ rules, r.kind ≠ .fileTooLong ∧ r.kind ≠ .lineTooWide) →
        scanText rules (text ++ w) = scanText rules text := by
  have hrepresents := State.represents_run text
  have hopen : (({} : State).run text).BlockLine := by
    refine ⟨hrepresents.block hblock, hblock, ?_⟩
    obtain ⟨as, rfl⟩ := List.getLast?_eq_some_iff.mp hline
    rw [State.run_concat, State.advance_newline]
  -- the character before `w` is the line feed, and no star
  have hw' : ¬ ['*', '/'] <:+: (({} : State).run text).previous :: w := by
    rw [hrepresents.previous, hline, List.infix_cons_iff]
    rintro (h | h)
    · exact absurd (List.cons_prefix_cons.mp h).1 (by decide)
    · exact hw h
  obtain ⟨htrace, hrun⟩ := State.block_run hopen.comment hblock hw'
  rw [State.run_append]
  refine ⟨htrace, hrun.1, hrun.2, ?_⟩
  intro rules hrules
  have hstart := atLineStart_feedText hrules hline
  have hend : ¬ ['*', '/'] <:+: (({} : State).run text).previous :: [] := fun h =>
    hw' (h.trans (List.infix_append [] [_] w))
  have hrest := foundFrom_block hstart hopen hw'
  have hnone := foundFrom_block hstart hopen hend
  have happend := scanText_append rules text
  rw [happend, hrest, ← hnone, ← happend, List.append_nil]

/-- A violation that is held back at the comment is reported, and the quotes, hash signs, braces and
semicolons in the comment are not looked at. -/
theorem scanText_open_block_held :
    let text := ['f', '(', ')', ' ', '/', '*', '\n']
    let w := ['\'', ';', ';', '#', '{', '\n', '"', '*', '\n', '/', 'a']
    let rules := [statementCount {}, statementSpan {}, methodLength {}, wordLength {}]
    text.getLast? = some '\n' ∧ (({} : State).run text).inBlock = true ∧ ¬ ['*', '/'] <:+: w ∧
      (∀ r ∈ rules, r.kind ≠ .fileTooLong ∧ r.kind ≠ .lineTooWide) ∧
      scanText rules (text ++ w) = scanText rules text ∧
      (scanText rules text).map Violation.kind = [.identifierTooShort, .oneLinePerStatement] := by
  intro text w rules
  have hline : text.getLast? = some '\n' := rfl
  have hblock : (({} : State).run text).inBlock = true := by decide
  have hw : ¬ ['*', '/'] <:+: w := by decide
  have hrules : ∀ r ∈ rules, r.kind ≠ .fileTooLong ∧ r.kind ≠ .lineTooWide := by decide
  exact ⟨hline, hblock, hw, hrules, (scanText_open_block hline hblock hw).2.2.2 rules hrules,
    by decide +kernel⟩

end Rule
end StyleScan
