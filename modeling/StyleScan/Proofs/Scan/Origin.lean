import StyleScan.Proofs.Scan.Observe

/-!
# StyleScan.Proofs.Scan.Origin

Where the violations of a scan come from. A rule writes a violation about the state that it
observes, or about the method that it has followed; one rule holds what it has written back for a
line.

* `Rule.heldBack`       — what a rule has written and not reported yet.
* `Rule.Writes`         — what a rule can write in a state.
* `Rule.mem_check`, `Rule.mem_close` — what is reported was held back, or is written there.
* `Rule.mem_scanText`   — what rules find together one of them finds alone.
* `Rule.forall_scanText` — what holds of the reports of a rule, from a property that it keeps.
* `Rule.severity_of_mem_scanText` — a scan reports errors.
-/

namespace StyleScan

open Lexical (State Step)

namespace Rule

/-- What a rule has written about the line before and not reported yet. -/
def heldBack : Rule → List Violation
  | statementSpan r => r.pending.toList
  | _ => []

/-- What a rule can write in a state. -/
def Writes (s : State) (v : Violation) : Rule → Prop
  | fileLength r => v = r.violation
  | lineWidth r => v = r.violation s
  | statementCount _ => v = StatementCount.violation s
  | statementSpan _ => v = StatementSpan.violation s
  | methodLength r => r.inMethod = true ∧ v = r.violation
  | wordLength r => v = r.violation s
  | observer _ => False

/-! ## One place -/

theorem eq_of_mem_ite {p : Prop} [Decidable p] {v w : Violation}
    (hv : v ∈ if p then [w] else []) : v = w := by
  split at hv
  · exact List.mem_singleton.mp hv
  · cases hv

theorem FileLength.check_reports_nothing (r : FileLength) (c : Char) (s : State) :
    (r.check c s).2 = [] := by
  simp only [check]
  split
  · rfl
  · split <;> rfl
  · rfl

theorem LineWidth.mem_check {r : LineWidth} {c : Char} {s : State} {v : Violation}
    (hv : v ∈ (r.check c s).2) : s.step = .lineEnd ∧ v = r.violation s := by
  simp only [check] at hv
  split at hv
  · next hs => exact ⟨hs, eq_of_mem_ite hv⟩
  · split at hv <;> cases hv

theorem StatementCount.mem_check {r : StatementCount} {c : Char} {s : State} {v : Violation}
    (hv : v ∈ (r.check c s).2) : s.step = .lineEnd ∧ v = violation s := by
  simp only [check] at hv
  split at hv
  · next hs => exact ⟨hs, eq_of_mem_ite hv⟩
  · split at hv <;> cases hv
  · cases hv

theorem StatementSpan.mem_endLine {r : StatementSpan} {s : State} {v : Violation}
    (hv : v ∈ (r.endLine s).2) : v ∈ r.pending.toList ∨ v = violation s := by
  have hrelease : v ∈ r.release s → v ∈ r.pending.toList := by
    intro hv
    simp only [release] at hv
    split at hv
    · cases hv
    · exact hv
  simp only [endLine] at hv
  split at hv
  · exact .inl (hrelease hv)
  · split at hv
    · exact .inl (hrelease hv)
    · rcases List.mem_append.mp hv with hv | hv
      · exact .inl (hrelease hv)
      · exact .inr (List.mem_singleton.mp hv)

theorem StatementSpan.mem_pending_endLine {r : StatementSpan} {s : State} {v : Violation}
    (hv : v ∈ (r.endLine s).1.pending.toList) : v = violation s := by
  simp only [endLine] at hv
  split at hv
  · cases hv
  · split at hv
    · exact List.mem_singleton.mp hv
    · cases hv

theorem StatementSpan.mem_check {r : StatementSpan} {c : Char} {s : State} {v : Violation}
    (hv : v ∈ (r.check c s).2 ∨ v ∈ (r.check c s).1.pending.toList) :
    v ∈ r.pending.toList ∨ s.step = .lineEnd ∧ v = violation s := by
  simp only [check] at hv
  split at hv
  · next hs =>
    rcases hv with hv | hv
    · exact (mem_endLine hv).imp_right fun h => ⟨hs, h⟩
    · exact .inr ⟨hs, mem_pending_endLine hv⟩
  · split at hv
    · exact .inl (hv.resolve_left List.not_mem_nil)
    · exact .inl (hv.resolve_left List.not_mem_nil)
  · exact .inl (hv.resolve_left List.not_mem_nil)

theorem MethodLength.mem_closeBrace {r : MethodLength} {v : Violation}
    (hv : v ∈ r.closeBrace.2) : r.inMethod = true ∧ v = r.violation := by
  simp only [closeBrace] at hv
  split at hv
  · next hends => exact ⟨hends.1, eq_of_mem_ite hv⟩
  · cases hv

theorem MethodLength.mem_count {r : MethodLength} {c : Char} {v : Violation}
    (hv : v ∈ (r.count c).2) : r.inMethod = true ∧ v = r.violation := by
  simp only [count] at hv
  split at hv
  · cases hv
  · split at hv
    · cases hv
    · split at hv
      · cases hv
      · split at hv
        · exact mem_closeBrace hv
        · cases hv

theorem MethodLength.mem_check {r : MethodLength} {c : Char} {s : State} {v : Violation}
    (hv : v ∈ (r.check c s).2) : r.inMethod = true ∧ v = r.violation := by
  simp only [check] at hv
  split at hv
  · cases hv
  · split at hv
    · cases hv
    · split at hv
      · cases hv
      · exact mem_count (r := { r with hasCode := true }) hv
  · cases hv

theorem WordLength.mem_flush {r : WordLength} {s : State} {v : Violation}
    (hv : v ∈ (r.flush s).2) : v = r.violation s := by
  simp only [flush] at hv
  split at hv
  · cases hv
  · exact eq_of_mem_ite hv

theorem WordLength.mem_check {r : WordLength} {c : Char} {s : State} {v : Violation}
    (hv : v ∈ (r.check c s).2) : v = r.violation s := by
  simp only [check] at hv
  split at hv
  · exact mem_flush hv
  · split at hv
    · cases hv
    · split at hv
      · exact mem_flush hv
      · split at hv <;> cases hv
  · cases hv

/-- What a rule reports or holds back behind a character it has held back before it, or writes in
the state of the character. Only methods and words are judged before the end of the line. -/
theorem mem_check {r : Rule} {c : Char} {s : State} {v : Violation}
    (hv : v ∈ (r.check c s).2 ∨ v ∈ (r.check c s).1.heldBack) :
    v ∈ r.heldBack ∨
      r.Writes s v ∧
        (s.step = .lineEnd ∨ r.kind = .methodTooLong ∨ r.kind = .identifierTooShort) := by
  cases r with
  | statementSpan r => exact (StatementSpan.mem_check hv).imp_right fun h => ⟨h.2, .inl h.1⟩
  | fileLength r =>
    have hv := hv.resolve_right List.not_mem_nil
    rw [show ((fileLength r).check c s).2 = [] from r.check_reports_nothing c s] at hv
    cases hv
  | lineWidth r =>
    obtain ⟨hs, hv⟩ := LineWidth.mem_check (hv.resolve_right List.not_mem_nil)
    exact .inr ⟨hv, .inl hs⟩
  | statementCount r =>
    obtain ⟨hs, hv⟩ := StatementCount.mem_check (hv.resolve_right List.not_mem_nil)
    exact .inr ⟨hv, .inl hs⟩
  | methodLength r =>
    exact .inr ⟨MethodLength.mem_check (hv.resolve_right List.not_mem_nil), .inr (.inl rfl)⟩
  | wordLength r =>
    exact .inr ⟨WordLength.mem_check (hv.resolve_right List.not_mem_nil), .inr (.inr rfl)⟩
  | observer kind => exact (hv.elim List.not_mem_nil List.not_mem_nil).elim

/-- What a rule reports at the end of a text it has held back, or writes there. -/
theorem mem_close {r : Rule} {s : State} {v : Violation} (hv : v ∈ (r.close s).2) :
    v ∈ r.heldBack ∨ r.Writes s v := by
  cases r with
  | fileLength r => exact .inr (eq_of_mem_ite hv)
  | lineWidth r => exact .inr (eq_of_mem_ite hv)
  | statementCount r => exact .inr (eq_of_mem_ite hv)
  | statementSpan r =>
    rcases List.mem_append.mp hv with hv | hv
    · exact StatementSpan.mem_endLine hv
    · exact .inr (StatementSpan.mem_pending_endLine hv)
  | methodLength r => cases hv
  | wordLength r => exact .inr (WordLength.mem_flush hv)
  | observer kind => cases hv

/-! ## Along a text -/

/-- What is found is reported by one of the rules at some place. -/
theorem mem_scanText_iff_reportsAt {rules : List Rule} {text : List Char} {v : Violation} :
    v ∈ scanText rules text ↔ ∃ i ≤ text.length, ∃ r ∈ rules, v ∈ r.reportsAt text i := by
  rw [scanText_eq, List.mem_flatMap]
  constructor
  · rintro ⟨i, hi, hv⟩
    have hi : i ≤ text.length := by simpa [Nat.lt_succ_iff] using hi
    rw [foundAt_eq rules text hi] at hv
    exact ⟨i, hi, List.mem_flatMap.mp hv⟩
  · rintro ⟨i, hi, hv⟩
    refine ⟨i, by simpa [Nat.lt_succ_iff] using hi, ?_⟩
    rw [foundAt_eq rules text hi]
    exact List.mem_flatMap.mpr hv

/-- What rules find together one of them finds alone. -/
theorem mem_scanText {rules : List Rule} {text : List Char} {v : Violation}
    (hv : v ∈ scanText rules text) : ∃ r ∈ rules, v ∈ scanText [r] text := by
  obtain ⟨i, hi, r, hr, hv⟩ := mem_scanText_iff_reportsAt.mp hv
  exact ⟨r, hr, mem_scanText_iff_reportsAt.mpr ⟨i, hi, r, List.mem_singleton_self r, hv⟩⟩

/-- What a rule keeps along a text, and what holds of its reports while it keeps it. -/
theorem forall_scanText {text : List Char} {I : Rule → Prop} {P : Violation → Prop}
    (hcheck : ∀ (before : List Char) (c : Char) (after : List Char), text = before ++ c :: after →
      ∀ r : Rule, I r →
        I (r.check c ((({} : State).run before).enter c)).1 ∧
          ∀ v ∈ (r.check c ((({} : State).run before).enter c)).2, P v)
    (hclose : ∀ r : Rule, I r → ∀ v ∈ (r.close (({} : State).run text)).2, P v)
    {r : Rule} (hstart : I r.fresh) : ∀ v ∈ scanText [r] text, P v := by
  have halong (after : List Char) : ∀ (before : List Char) (r : Rule), text = before ++ after →
      I r →
        I (r.observe (({} : State).run before) after) ∧
          ∀ v ∈ r.reportsAlong (({} : State).run before) after, P v := by
    induction after with
    | nil =>
      intro before r _ hr
      exact ⟨hr, by simp [reportsAlong]⟩
    | cons c after ih =>
      intro before r htext hr
      obtain ⟨hnext, hreports⟩ := hcheck before c after htext r hr
      have hrest := ih (before ++ [c]) _ (by simp [htext]) hnext
      rw [State.run_append] at hrest
      refine ⟨hrest.1, ?_⟩
      intro v hv
      rcases List.mem_append.mp hv with hv | hv
      · exact hreports v hv
      · exact hrest.2 v hv
  obtain ⟨hend, hreports⟩ := halong text [] r.fresh rfl hstart
  intro v hv
  rw [scanText_alone] at hv
  rcases List.mem_append.mp hv with hv | hv
  · exact hreports v hv
  · exact hclose _ hend v hv

/-! ## Severities -/

theorem Writes.severity {r : Rule} {s : State} {v : Violation} (h : r.Writes s v) :
    v.severity = .error := by
  cases r with
  | observer kind => exact h.elim
  | methodLength r => rw [h.2]; rfl
  | _ => rw [show v = _ from h]; rfl

/-- Every violation of a scan is an error. -/
theorem severity_of_mem_scanText {rules : List Rule} {text : List Char} {v : Violation}
    (hv : v ∈ scanText rules text) : v.severity = .error := by
  obtain ⟨r, _, hv⟩ := mem_scanText hv
  refine forall_scanText (I := fun r => ∀ v ∈ r.heldBack, v.severity = .error)
    (P := fun v => v.severity = .error) ?_ ?_ ?_ v hv
  · intro before c after _ r hr
    refine ⟨?_, ?_⟩ <;> intro v hv
    · exact (mem_check (.inr hv)).elim (hr v) fun h => h.1.severity
    · exact (mem_check (.inl hv)).elim (hr v) fun h => h.1.severity
  · intro r hr v hv
    exact (mem_close hv).elim (hr v) Writes.severity
  · cases r <;> exact fun v hv => (List.not_mem_nil hv).elim

end Rule
end StyleScan
