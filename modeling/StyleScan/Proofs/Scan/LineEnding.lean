import Mathlib.Data.List.Infix
import StyleScan.Proofs.Lexical.Invariant
import StyleScan.Proofs.Scan.Independence
import StyleScan.Proofs.Scan.LineBoundary
import StyleScan.Proofs.Scan.LineText

/-!
# StyleScan.Proofs.Scan.LineEnding

What a scan finds does not depend on how lines are ended: whether a carriage return stands before
every line feed, or a line feed behind the last line.

* `lineView_strip`       — source lines are reported without line endings.
* `State.advance_return` — a carriage return before a line feed is forgotten with its line.
* `Rule.check_return`, `Rule.check_return_word` — it is nothing to a rule, or ends the last word of
  the line.
* `Rule.scanText_crlf`   — carriage returns before line feeds change no rule's findings.
* `Rule.close_newline`   — the end of a text judges the last line as a line feed does.
* `Rule.scanText_final_newline` — a line feed behind a text changes the findings of no rule but that
  of a file's length.
-/

namespace StyleScan

open Lexical (State Step lineStart lastLine)
open Violation (stripLineEnding isLineEnding)

/-- The text with a carriage return before every line feed. -/
def Text.crlf (text : List Char) : List Char :=
  text.flatMap fun c => if c = '\n' then ['\r', '\n'] else [c]

theorem Text.crlf_cons (c : Char) (text : List Char) :
    crlf (c :: text) = if c = '\n' then '\r' :: '\n' :: crlf text else c :: crlf text := by
  rw [crlf, List.flatMap_cons]
  split <;> rfl

/-! ## Source lines without line endings -/

theorem Violation.toList_stripLineEnding (line : String) :
    (stripLineEnding line).toList = line.toList.rdropWhile isLineEnding := by
  rw [stripLineEnding, String.toList_ofList]
  rfl

theorem Violation.stripLineEnding_push {c : Char} (hc : isLineEnding c = true) (line : String) :
    stripLineEnding (line.push c) = stripLineEnding line := by
  simp [stripLineEnding, hc]

theorem Violation.stripLineEnding_idem (line : String) :
    stripLineEnding (stripLineEnding line) = stripLineEnding line := by
  rw [← String.toList_inj, toList_stripLineEnding, toList_stripLineEnding,
    List.rdropWhile_idempotent]

/-- Spaces are no line endings, and neither are the dots that stand for them. -/
theorem Violation.stripLineEnding_dotted (line : String) :
    stripLineEnding (Rule.LineWidth.dotted line) =
      Rule.LineWidth.dotted (stripLineEnding line) := by
  have hdot : (isLineEnding ∘ fun c => if c = ' ' then '.' else c) = isLineEnding := by
    funext c
    by_cases hc : c = ' ' <;> simp [isLineEnding, hc]
  simp only [stripLineEnding, Rule.LineWidth.dotted, String.toList_ofList, ← List.map_reverse,
    List.dropWhile_map, hdot]

theorem lineView_strip : LineView stripLineEnding id where
  plain := Violation.stripLineEnding_idem
  dotted line := by
    rw [Violation.stripLineEnding_dotted, Violation.stripLineEnding_idem,
      Violation.stripLineEnding_dotted]
    rfl
  empty := rfl

theorem Text.contains_iff {part text : List Char} : contains part text = true ↔ part <:+: text := by
  induction text with
  | nil => simp [contains]
  | cons c cs ih => simp [contains, ih, List.infix_cons_iff]

/-- What is dropped behind a text is no piece of what is looked for in it. -/
theorem infix_rdropWhile_iff {α : Type} {p : α → Bool} {part : List α}
    (hpart : ∀ a ∈ part, p a = false) (text : List α) :
    part <:+: text.rdropWhile p ↔ part <:+: text := by
  induction text using List.reverseRecOn with
  | nil => rfl
  | append_singleton text c ih =>
    by_cases hc : p c = true
    · rw [List.rdropWhile_concat_pos _ _ _ hc, ih, List.infix_concat_iff, List.suffix_concat_iff]
      constructor
      · exact .inr
      · rintro ((rfl | ⟨rest, rfl, _⟩) | h)
        · exact List.nil_infix
        · rw [hpart c (by simp)] at hc
          cases hc
        · exact h
    · rw [List.rdropWhile_concat_neg _ _ _ hc]

/-- Whether a line calls a constructor does not depend on its line ending. -/
theorem Rule.overlooks_strip (r : Rule) : r.Overlooks stripLineEnding := by
  cases r with
  | statementSpan r =>
    intro s first
    have hcontains (part : List Char) (hpart : ∀ c ∈ part, isLineEnding c = false) :
        Text.contains part (stripLineEnding s.currentLine).toList =
          Text.contains part s.currentLine.toList := by
      rw [Bool.eq_iff_iff, Text.contains_iff, Text.contains_iff, Violation.toList_stripLineEnding,
        infix_rdropWhile_iff hpart]
    have hparen : (stripLineEnding s.currentLine).toList.contains '(' =
        s.currentLine.toList.contains '(' := by
      have hopen : ∀ c ∈ ['('], isLineEnding c = false := by simp [isLineEnding]
      have hinfix := infix_rdropWhile_iff hopen s.currentLine.toList
      rw [List.singleton_infix_iff, List.singleton_infix_iff] at hinfix
      rw [Bool.eq_iff_iff, List.contains_iff_mem, List.contains_iff_mem,
        Violation.toList_stripLineEnding, hinfix]
    have hline : (s.shown stripLineEnding).currentLine = stripLineEnding s.currentLine := rfl
    simp only [State.opensInitializer, hline, hparen, hcontains "base".toList (by simp [isLineEnding]),
      hcontains "this".toList (by simp [isLineEnding])]
  | _ => trivial

/-- Two rules that differ in line endings of the lines that they remember. -/
abbrev Rule.SameStripped : Rule → Rule → Prop := SameShown stripLineEnding id

theorem Rule.sameStripped_refl (r : Rule) : r.SameStripped r :=
  ⟨r.overlooks_strip, r.overlooks_strip, rfl⟩

theorem Violation.map_shown_id (vs : List Violation) : vs.map (Violation.shown id) = vs :=
  List.map_id vs

/-! ## The lexical state at a line ending -/

namespace Lexical
namespace State

theorem enter_newline (s : State) :
    s.enter '\n' = { s.push '\n' with claimed := false, step := .lineEnd } := by
  simp [enter, mark, settle, classify]

theorem enter_return (s : State) :
    s.enter '\r' =
      { s.push '\r' with
        claimed := false
        step := if s.inComment || s.inBlock then .skip else .code } := by
  simp [enter, mark, settle, classify, push]

/-- A carriage return before a line feed is forgotten with its line. -/
theorem advance_return (s : State) : (s.advance '\r').advance '\n' = s.advance '\n' := by
  rw [advance_newline, advance_newline, lineNumber_advance, inBlock_advance, enter_return]
  rfl

/-- The line as it stands, at its end. -/
def ended (s : State) : State := { s with step := .lineEnd }

theorem shown_enter_newline (s : State) :
    (s.enter '\n').shown stripLineEnding = s.ended.shown stripLineEnding := by
  simp [enter_newline, shown, push, ended, Violation.stripLineEnding_push (c := '\n') rfl]

theorem shown_ended_return (s : State) :
    (s.enter '\r').ended.shown stripLineEnding = s.ended.shown stripLineEnding := by
  simp [enter_return, shown, push, ended, Violation.stripLineEnding_push (c := '\r') rfl]

theorem shown_return_newline (s : State) :
    ((s.advance '\r').enter '\n').shown stripLineEnding = (s.enter '\n').shown stripLineEnding := by
  rw [shown_enter_newline, shown_enter_newline, ← shown_ended_return s]
  rfl

end State
end Lexical

namespace Rule

/-! ## Carriage returns before line feeds -/

/-- A carriage return is nothing to a rule, unless it ends a word. -/
theorem check_return {r : Rule} {s : State} (hs : s.step ≠ .lineEnd)
    (hr : ¬ (r.kind = .identifierTooShort ∧ s.step = .code ∧ s.inLiteral = false)) :
    r.check '\r' s = (r, []) := by
  cases r with
  | fileLength r =>
    simp only [check, FileLength.check]
    split
    · next hend => exact absurd hend hs
    · rfl
    · rfl
  | lineWidth r =>
    simp only [check, LineWidth.check, if_neg hs]
    rfl
  | statementCount r =>
    simp only [check, StatementCount.check]
    split
    · next hend => exact absurd hend hs
    · split <;> rfl
    · rfl
  | statementSpan r =>
    simp only [check, StatementSpan.check]
    split
    · next hend => exact absurd hend hs
    · rfl
    · rfl
  | methodLength r =>
    simp only [check, MethodLength.check]
    split
    · next hend => exact absurd hend hs
    · rfl
    · rfl
  | wordLength r =>
    simp only [check, WordLength.check]
    split
    · next hend => exact absurd hend hs
    · next hcode =>
      split
      · rfl
      · next hliteral => exact absurd ⟨rfl, hcode, Bool.not_eq_true _ ▸ hliteral⟩ hr
    · rfl
  | observer kind => rfl

theorem WordLength.flush_strip (r : WordLength) (s : State) :
    r.flush (s.shown stripLineEnding) = r.flush s := by
  rw [flush_shown lineView_strip]
  simp [Prod.map, Violation.map_shown_id]

theorem WordLength.flush_flush (r : WordLength) (s s' : State) :
    (r.flush s).1.flush s' = ((r.flush s).1, []) := by
  by_cases h : r.length = 0 <;> simp [flush, h]

/-- A carriage return of code ends the last word of its line, and leaves nothing of it to the line
feed. -/
theorem check_return_word {r : Rule} {s : State} (hr : r.kind = .identifierTooShort)
    (hs : (s.enter '\r').step = .code) (hl : (s.enter '\r').inLiteral = false) :
    r.check '\r' (s.enter '\r') = r.check '\n' (s.enter '\n') ∧
      ∀ s' : State, s'.step = .lineEnd →
        (r.check '\n' (s.enter '\n')).1.check '\n' s' = ((r.check '\n' (s.enter '\n')).1, []) := by
  cases r with
  | wordLength r =>
    have hreturn : r.check '\r' (s.enter '\r') = r.flush (s.enter '\r') := by
      simp [WordLength.check, hs, hl]
    have hend {s' : State} (hs' : s'.step = .lineEnd) (r : WordLength) :
        r.check '\n' s' = r.flush s' := by
      simp [WordLength.check, hs']
    have hflush : r.flush (s.enter '\r') = r.flush (s.enter '\n') :=
      calc r.flush (s.enter '\r')
        _ = r.flush ((s.enter '\r').ended.shown stripLineEnding) := (r.flush_strip _).symm
        _ = r.flush ((s.enter '\n').shown stripLineEnding) := by
          rw [State.shown_ended_return, State.shown_enter_newline]
        _ = r.flush (s.enter '\n') := r.flush_strip _
    have hnewline := hend (State.step_enter_newline s) r
    constructor
    · simp only [check, hreturn, hnewline, hflush]
    · intro s' hs'
      simp only [check, hnewline, Prod.map, hend hs', WordLength.flush_flush, id]
  | observer kind => exact ⟨rfl, fun _ _ => rfl⟩
  | _ => cases hr

/-! ## Rules that run together -/

theorem checkAll_idle {c : Char} {s : State} {rules : List Rule}
    (h : ∀ r ∈ rules, r.check c s = (r, [])) : checkAll c s rules = (rules, []) := by
  induction rules with
  | nil => rfl
  | cons r rules ih =>
    rw [List.forall_mem_cons] at h
    simp only [checkAll, h.1, ih h.2, List.append_nil]

theorem kind_checkAll {k : Kind} {rules : List Rule} (h : ∀ r ∈ rules, r.kind = k) (c : Char)
    (s : State) : ∀ r ∈ (checkAll c s rules).1, r.kind = k := by
  simpa [checkAll_eq] using h

theorem sameStripped_checkAll {rules rules' : List Rule}
    (hrules : List.Forall₂ SameStripped rules rules') {s s' : State}
    (hs : s'.shown stripLineEnding = s.shown stripLineEnding) (c : Char) :
    List.Forall₂ SameStripped (checkAll c s rules).1 (checkAll c s' rules').1 ∧
      (checkAll c s' rules').2 = (checkAll c s rules).2 := by
  have hsame := sameShown_checkAll lineView_strip hs hrules c
  rwa [Violation.map_shown_id, Violation.map_shown_id] at hsame

/-- A carriage return and a line feed are to rules of one kind what the line feed is alone. -/
theorem checkAll_crlf {k : Kind} {rules rules' : List Rule} (hkind : ∀ r ∈ rules', r.kind = k)
    (hrules : List.Forall₂ SameStripped rules rules') (s : State) :
    let returned := checkAll '\r' (s.enter '\r') rules'
    let both := checkAll '\n' ((s.advance '\r').enter '\n') returned.1
    let alone := checkAll '\n' (s.enter '\n') rules
    List.Forall₂ SameStripped alone.1 both.1 ∧ returned.2 ++ both.2 = alone.2 := by
  intro returned both alone
  by_cases hword : k = .identifierTooShort ∧ (s.enter '\r').step = .code ∧
      (s.enter '\r').inLiteral = false
  · -- everything is reported at the carriage return
    obtain ⟨rfl, hs, hl⟩ := hword
    have hword (r : Rule) (hr : r ∈ rules') := check_return_word (hkind r hr) hs hl
    have hreturned : returned = checkAll '\n' (s.enter '\n') rules' :=
      checkAll_congr fun r hr => (hword r hr).1
    have hboth : both = (returned.1, []) := by
      refine checkAll_idle ?_
      rw [hreturned, checkAll_eq, List.forall_mem_map]
      exact fun r hr => (hword r hr).2 _ (State.step_enter_newline _)
    rw [hboth, hreturned, List.append_nil]
    exact sameStripped_checkAll hrules rfl '\n'
  · -- everything is reported at the line feed
    have hreturned : returned = (rules', []) := by
      refine checkAll_idle fun r hr => check_return ?_ (by rwa [hkind r hr])
      rw [State.enter_return]
      simp only
      split <;> decide
    simp only [both, hreturned, List.nil_append]
    exact sameStripped_checkAll hrules (State.shown_return_newline s) '\n'

theorem foundFrom_crlf {k : Kind} {rules rules' : List Rule} (hkind : ∀ r ∈ rules', r.kind = k)
    (hrules : List.Forall₂ SameStripped rules rules') (s : State) (text : List Char) :
    foundFrom rules' s (Text.crlf text) = foundFrom rules s text := by
  induction text generalizing rules rules' s with
  | nil =>
    have hclose := sameShown_closeAll lineView_strip (s := s) rfl hrules
    rwa [Violation.map_shown_id, Violation.map_shown_id] at hclose
  | cons c text ih =>
    rw [Text.crlf_cons]
    split
    · -- behind the line feed the states are equal; the rules may still remember a carriage return
      next hc =>
      subst hc
      obtain ⟨hnext, hreports⟩ := checkAll_crlf hkind hrules s
      have hkind' := kind_checkAll (kind_checkAll hkind '\r' (s.enter '\r')) '\n'
        ((s.advance '\r').enter '\n')
      simp only [foundFrom, State.advance_return]
      rw [← List.append_assoc, hreports, ih hkind' hnext]
    · obtain ⟨hnext, hreports⟩ := sameStripped_checkAll hrules (s := s.enter c) rfl c
      simp only [foundFrom]
      rw [hreports, ih (kind_checkAll hkind c (s.enter c)) hnext]

/-- Rules of one kind find the same in a text and in the text with carriage returns. -/
theorem scanText_crlf_of_kind {k : Kind} {rules : List Rule} (hkind : ∀ r ∈ rules, r.kind = k)
    (text : List Char) : scanText rules (Text.crlf text) = scanText rules text := by
  rw [scanText_eq_foundFrom, scanText_eq_foundFrom]
  refine foundFrom_crlf (k := k) ?_ (List.forall₂_same.mpr fun r _ => sameStripped_refl r) {} text
  simpa using hkind

/-- **Carriage returns before line feeds are not seen.** Alone, every rule finds the same in a text
and in the text with a carriage return before every line feed; together, rules find the same of each
kind. Violations of different kinds may change places, since a carriage return ends a word before
the line is ended. -/
theorem scanText_crlf :
    (∀ (r : Rule) (text : List Char), scanText [r] (Text.crlf text) = scanText [r] text) ∧
    (∀ (rules : List Rule) (k : Kind) (text : List Char),
      (scanText rules (Text.crlf text)).filter (fun v => v.kind = k) =
        (scanText rules text).filter (fun v => v.kind = k)) ∧
    ∃ (rules : List Rule) (text : List Char),
      scanText rules (Text.crlf text) ≠ scanText rules text := by
  refine ⟨?_, ?_, ?_⟩
  · intro r text
    exact scanText_crlf_of_kind (k := r.kind) (by simp) text
  · intro rules k text
    rw [filter_kind_scanText, filter_kind_scanText]
    exact scanText_crlf_of_kind (k := k) (by simp) text
  · exact ⟨[lineWidth { maxWidth := 0 }, wordLength {}], ['a', '\n'], by decide +kernel⟩

/-! ## A line feed behind the last line -/

theorem StatementCount.close_new (s : State) : (({} : StatementCount).close s).2 = [] := by
  simp [close, endLine, separators]

/-- An empty line has no statement of its own, and calls no constructor. -/
theorem StatementSpan.close_newline (pending : Option Violation) (s : State) :
    (({ pending } : StatementSpan).close (s.advance '\n')).2 = pending.toList := by
  rw [State.advance_newline]
  simp [close, endLine, isClosed, closers, release, State.opensInitializer]

/-- The end of a text judges the last line as a line feed does, and nothing is left to judge behind
the line feed. -/
theorem close_newline {r : Rule} (hr : r.kind ≠ .fileTooLong) (s : State) :
    (r.check '\n' s.ended).2 ++ ((r.check '\n' s.ended).1.close (s.advance '\n')).2 =
      (r.close s).2 := by
  cases r with
  | fileLength r => exact absurd rfl hr
  | lineWidth r => exact List.append_nil (r.endLine s).2
  | statementCount r =>
    show (r.endLine s).2 ++ (({} : StatementCount).close _).2 = (r.endLine s).2
    rw [StatementCount.close_new, List.append_nil]
  | statementSpan r =>
    show (r.endLine s).2 ++ ((r.check '\n' s.ended).1.close _).2 =
      (r.endLine s).2 ++ (r.endLine s).1.pending.toList
    rw [StatementSpan.check_lineEnd (s := s.ended) rfl, StatementSpan.close_newline]
    rfl
  | methodLength r => rfl
  | wordLength r =>
    show (r.flush s.ended).2 ++ ((r.flush s.ended).1.flush _).2 = (r.flush s.ended).2
    rw [WordLength.flush_flush, List.append_nil]
  | observer kind => rfl

theorem scanText_newline {r : Rule} (hr : r.kind ≠ .fileTooLong) (text : List Char) :
    scanText [r] (text ++ ['\n']) = scanText [r] text := by
  rw [scanText_alone, scanText_alone, reportsAlong_append, observe_append, State.run_concat,
    List.append_assoc]
  have hkind : (r.fresh.observe {} text).kind ≠ .fileTooLong := by
    rwa [kind_observe, kind_fresh]
  generalize r.fresh.observe {} text = seen at hkind ⊢
  generalize ({} : State).run text = s
  -- the line feed is on its own line, and no rule sees it there
  obtain ⟨hnext, hreports⟩ :=
    (sameStripped_refl seen).check lineView_strip (State.shown_enter_newline s) '\n'
  have hclose := hnext.close lineView_strip (s := s.advance '\n') rfl
  rw [Violation.map_shown_id, Violation.map_shown_id] at hreports hclose
  rw [← close_newline hkind s, ← hreports, ← hclose, reportsAlong, reportsAlong, List.append_nil]
  rfl

/-- The rule of a file's length holds of the last line whether there is code in it. -/
theorem observe_hasCode (r : FileLength) (text : List Char) :
    ∃ seen : FileLength, (fileLength r).fresh.observe {} text = fileLength seen ∧
      seen.hasCode =
        (State.lastLineTrace text).any fun p => p.2.step == .code && !Text.isBlank p.1 := by
  induction text using List.reverseRecOn with
  | nil => exact ⟨r.fresh, rfl, rfl⟩
  | append_singleton text c ih =>
    obtain ⟨seen, hseen, hcode⟩ := ih
    refine ⟨(seen.check c ((({} : State).run text).enter c)).1, ?_, ?_⟩
    · rw [observe_append, hseen]
      rfl
    · have hend := State.step_enter_eq_lineEnd_iff (({} : State).run text) c
      rw [State.lastLineTrace_concat, FileLength.check]
      by_cases hc : c = '\n'
      · simp [hc]
      · cases hstep : ((({} : State).run text).enter c).step with
        | lineEnd => exact absurd (hend.mp hstep) hc
        | code => cases hblank : Text.isBlank c <;> simp [hc, hcode, hstep, hblank]
        | skip => simp [hc, hcode, hstep]

theorem lineCount_newline (r : FileLength) (s : State) :
    ((fileLength r).observe s ['\n']).lineCount =
      r.count + if s.blankLine || r.hasCode then 1 else 0 := by
  have hblank : (s.enter '\n').blankLine = s.blankLine := by simp
  simp only [observe, check, FileLength.check, State.step_enter_newline, hblank, Prod.map,
    lineCount]
  split <;> rfl

/-- **A line feed behind the last line is not seen**, except by the rule of a file's length. That
rule counts the last line once it is ended, if the line is blank from end to end or holds code. -/
theorem scanText_final_newline (text : List Char) :
    (∀ r : Rule, r.kind ≠ .fileTooLong →
      scanText [r] (text ++ ['\n']) = scanText [r] text) ∧
    (∀ r : FileLength,
      ((fileLength r).fresh.observe {} (text ++ ['\n'])).lineCount =
        ((fileLength r).fresh.observe {} text).lineCount +
          if (lastLine text).all Text.isBlank ||
            (State.lastLineTrace text).any (fun p => p.2.step == .code && !Text.isBlank p.1)
          then 1 else 0) := by
  refine ⟨fun r hr => scanText_newline hr text, ?_⟩
  intro r
  obtain ⟨seen, hseen, hcode⟩ := observe_hasCode r text
  rw [observe_append, hseen, lineCount_newline, hcode, (State.represents_run text).blankLine]
  rfl

/-- A violation that is held back for one line is reported at the end of the text or behind the line
feed, and a last line of code counts once it is ended. -/
theorem scanText_final_newline_held :
    let text := ['f', '(', ')']
    (statementSpan {}).kind ≠ .fileTooLong ∧
      scanText [statementSpan {}] (text ++ ['\n']) = scanText [statementSpan {}] text ∧
      (scanText [statementSpan {}] text).map Violation.line = [some 1] ∧
      ((fileLength {}).fresh.observe {} (text ++ ['\n'])).lineCount = 1 := by
  intro text
  have hkind : (statementSpan {}).kind ≠ .fileTooLong := by decide
  obtain ⟨hfound, hcount⟩ := scanText_final_newline text
  exact ⟨hkind, hfound _ hkind, by decide +kernel, (hcount {}).trans (by decide)⟩

end Rule
end StyleScan
