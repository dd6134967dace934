import StyleScan.Proofs.Lexical.Hidden
import StyleScan.Proofs.Scan.LineText

/-!
# StyleScan.Proofs.Scan.Hidden

What stands in literals, directives and comments makes no difference to what is found, as long as it
is no blank and no mark. Only the rule of statements that span lines looks there, when it looks for
the call of a constructor.

* `Rule.check_plain`    — a hidden character is like any other to a rule.
* `Rule.foundFrom_masked` — two texts that differ where they are hidden lead to the same findings.
* `Rule.scan_masked`    — the same for whole texts, with what the rules observe.
-/

namespace StyleScan

open Lexical (State Step lineStart isPlain)

/-- A line of which nothing is shown. -/
abbrev hiddenLine : String → String := fun _ => ""

theorem lineView_hidden : LineView hiddenLine hiddenLine where
  plain _ := by simp [Violation.stripLineEnding]
  dotted _ := by simp [Violation.stripLineEnding, Rule.LineWidth.dotted]
  empty := rfl

theorem Lexical.State.shown_of_veiled {s s' : State} (h : s'.veiled = s.veiled) :
    s'.shown hiddenLine = s.shown hiddenLine := by
  have hshown (s : State) : s.shown hiddenLine = s.veiled.shown hiddenLine := rfl
  rw [hshown, h, ← hshown]

namespace Rule

theorem overlooks_of_kind {r : Rule} (hr : r.kind ≠ .oneLinePerStatement) (f : String → String) :
    r.Overlooks f := by
  cases r with
  | statementSpan r => exact absurd rfl hr
  | _ => trivial

/-! ## A hidden character -/

section Plain

variable {s : State} {c c' : Char} (hc : isPlain c = true) (hc' : isPlain c' = true)
include hc hc'

theorem LineWidth.check_plain (hs : s.hides = true) (r : LineWidth) :
    r.check c' s = r.check c s := by
  have hne {d e : Char} (hd : isPlain d = true) (he : isPlain e = false) : d ≠ e :=
    State.ne_of_isPlain hd he
  have hcounted {d : Char} (hd : isPlain d = true) : ¬ (Text.isBlank d = true ∨ d = '\x00') := by
    simp [State.isBlank_of_isPlain hd, hne hd (e := '\x00') (by decide)]
  have hwiden {d : Char} (hd : isPlain d = true) (r : LineWidth) :
      r.widen d = { r with width := r.width + 1 } := by
    have hnone : ¬ (d = '\r' ∨ d = '\x00') := by
      simp [hne hd (e := '\r') (by decide), hne hd (e := '\x00') (by decide)]
    rw [widen, columns, if_neg hnone, if_neg (hne hd (by decide))]
  have hindent (d : Char) (r : LineWidth) : r.indent d s = r := if_pos hs
  rw [check, check, if_neg (hcounted hc'), if_neg (hcounted hc), hindent, hindent, hwiden hc',
    hwiden hc]

/-- Where a plain character is hidden, any other one may stand in its place. -/
theorem check_plain (hs : s.hides = true) (hcode : s.step = .code → s.inLiteral = true) (r : Rule) :
    r.check c' s = r.check c s := by
  have hblank := State.isBlank_of_isPlain hc
  have hblank' := State.isBlank_of_isPlain hc'
  cases r with
  | fileLength r => simp only [check, FileLength.check, hblank, hblank']
  | lineWidth r => simp only [check, LineWidth.check_plain hc hc' hs]
  | statementCount r =>
    simp only [check, StatementCount.check]
    split
    · rfl
    · next hstep => rw [if_pos (hcode hstep), if_pos (hcode hstep)]
    · rfl
  | statementSpan r =>
    simp only [check, StatementSpan.check]
    split
    · rfl
    · next hstep => simp only [hcode hstep, Bool.or_true, if_true]
    · rfl
  | methodLength r =>
    simp only [check, MethodLength.check, hblank, hblank']
    split
    · rfl
    · next hstep => simp only [hcode hstep, if_true]
    · rfl
  | wordLength r =>
    simp only [check, WordLength.check]
    split
    · rfl
    · next hstep => rw [if_pos (hcode hstep), if_pos (hcode hstep)]
    · rfl
  | observer kind => rfl

end Plain

/-! ## Whole texts -/

theorem foundFrom_masked {rules rules' : List Rule}
    (hrules : List.Forall₂ (SameShown hiddenLine hiddenLine) rules rules') {s s' : State}
    (h : s.Alike s') {text text' : List Char} (hmask : s.Masks text text') :
    (foundFrom rules' s' text').map (Violation.shown hiddenLine) =
      (foundFrom rules s text).map (Violation.shown hiddenLine) := by
  induction text generalizing rules rules' s s' text' with
  | nil =>
    rw [hmask.eq_nil]
    exact sameShown_closeAll lineView_hidden (State.shown_of_veiled h.veiled) hrules
  | cons c cs ih =>
    obtain ⟨c', cs', rfl, hc, hrest⟩ := hmask.exists_cons
    obtain ⟨henter, hnext⟩ := h.step hc
    -- the second character in the state of the first, then in its own
    have hcheck : checkAll c' (s.enter c) rules = checkAll c (s.enter c) rules := by
      by_cases hsame : c' = c
      · rw [hsame]
      · obtain ⟨hs, hc, hc'⟩ := hc hsame
        exact checkAll_congr fun r _ => check_plain hc hc' hs (State.inLiteral_of_hides hc hs) r
    obtain ⟨hrules', hreports⟩ :=
      sameShown_checkAll lineView_hidden (State.shown_of_veiled henter) hrules c'
    rw [hcheck] at hrules' hreports
    simp only [foundFrom, List.map_append, hreports, ih hrules' hnext hrest]

/-- **What is hidden is not judged.** Of two texts that differ only inside literals, directives and
comments, in characters that are no blanks and no marks, every character is observed in the same
state, but for the text of its line and the character before. Every list of rules without that of
statements that span lines finds the same in both, but for the source lines. -/
theorem scan_masked {text text' : List Char} (hmask : ({} : State).Masks text text') :
    (({} : State).trace text').map (fun p => p.2.veiled) =
        (({} : State).trace text).map (fun p => p.2.veiled) ∧
      ∀ rules : List Rule, (∀ r ∈ rules, r.kind ≠ .oneLinePerStatement) →
        (scanText rules text').map (Violation.shown hiddenLine) =
          (scanText rules text).map (Violation.shown hiddenLine) := by
  refine ⟨(State.alike_refl {}).trace hmask, ?_⟩
  intro rules hkind
  rw [scanText_eq_foundFrom, scanText_eq_foundFrom]
  refine foundFrom_masked (List.forall₂_same.mpr ?_) (State.alike_refl {}) hmask
  simp only [List.forall_mem_map]
  intro r hr
  have hlooks := overlooks_of_kind (r := r.fresh) (by rw [kind_fresh]; exact hkind r hr) hiddenLine
  exact ⟨hlooks, hlooks, rfl⟩

/-- Separators and braces in a string are like letters, and two statements are found in both. -/
theorem scan_masked_separators :
    let text := ['a', ';', '"', '{', ';', '"', ';']
    let text' := ['a', ';', '"', 'x', '}', '"', ';']
    let rules := [statementCount {}, methodLength {}]
    ({} : State).Masks text text' ∧ (∀ r ∈ rules, r.kind ≠ .oneLinePerStatement) ∧
      (scanText rules text').map (Violation.shown hiddenLine) =
        (scanText rules text).map (Violation.shown hiddenLine) ∧
      (scanText rules text).map Violation.kind = [.oneStatementPerLine] := by
  intro text text' rules
  have hmask : ({} : State).Masks text text' := ⟨rfl, by decide⟩
  have hkind : ∀ r ∈ rules, r.kind ≠ .oneLinePerStatement := by decide
  exact ⟨hmask, hkind, (scan_masked hmask).2 rules hkind, by decide +kernel⟩

end Rule
end StyleScan
