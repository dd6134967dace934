import Mathlib.Data.List.Nodup
import StyleScan.Proofs.Scan.Origin

/-!
# StyleScan.Proofs.Scan.Independence

Rules that run together do not see each other: what each finds is what it finds alone.

* `Rule.Owned`             — what a rule holds back is of its own kind.
* `Rule.kind_of_mem_reportsAt` — a rule reports its own kind only.
* `Rule.filter_kind_scanText`  — the violations of one kind are those of the rules of that kind.
* `Rule.scanText_independent`  — a scan, taken apart by kind, is the scans of its rules, and its
  order is that of the places and then of the rules.
-/

namespace StyleScan

open Lexical (State)

namespace Rule

/-- The violations that a rule holds back for later are of its own kind. -/
def Owned : Rule → Prop
  | statementSpan r => ∀ v ∈ r.pending, v.kind = .oneLinePerStatement
  | _ => True

theorem owned_fresh (r : Rule) : r.fresh.Owned := by
  cases r with
  | statementSpan r =>
    intro v hv
    cases hv
  | _ => trivial

/-! ## What a rule reports at one place -/

theorem Writes.kind {r : Rule} {s : State} {v : Violation} (h : r.Writes s v) :
    v.kind = r.kind := by
  cases r with
  | observer kind => exact h.elim
  | methodLength r => rw [h.2]; rfl
  | _ => rw [show v = _ from h]; rfl

theorem owned_iff {r : Rule} : r.Owned ↔ ∀ v ∈ r.heldBack, v.kind = r.kind := by
  cases r with
  | statementSpan r => simp [Owned, heldBack, Rule.kind]
  | _ => simp [Owned, heldBack]

theorem kind_of_mem_check {r : Rule} (h : r.Owned) {c : Char} {s : State} {v : Violation}
    (hv : v ∈ (r.check c s).2 ∨ v ∈ (r.check c s).1.heldBack) : v.kind = r.kind :=
  (mem_check hv).elim (owned_iff.mp h v) fun hwrites => hwrites.1.kind

theorem kind_of_mem_close {r : Rule} (h : r.Owned) {s : State} {v : Violation}
    (hv : v ∈ (r.close s).2) : v.kind = r.kind :=
  (mem_close hv).elim (owned_iff.mp h v) Writes.kind

/-! ## Along a text -/

theorem owned_check {r : Rule} (h : r.Owned) (c : Char) (s : State) : (r.check c s).1.Owned := by
  rw [owned_iff, kind_check]
  exact fun v hv => kind_of_mem_check h (.inr hv)

theorem owned_observe {r : Rule} (h : r.Owned) (s : State) (cs : List Char) :
    (r.observe s cs).Owned := by
  induction cs generalizing r s with
  | nil => exact h
  | cons c cs ih => exact ih (owned_check h c (s.enter c)) (s.advance c)

theorem kind_of_mem_reportsAt {r : Rule} {text : List Char} {i : Nat} {v : Violation}
    (hv : v ∈ r.reportsAt text i) : v.kind = r.kind := by
  have howned := owned_observe (owned_fresh r) {} (text.take i)
  have hkind : (r.fresh.observe {} (text.take i)).kind = r.kind := by
    rw [kind_observe, kind_fresh]
  rw [← hkind]
  simp only [reportsAt] at hv
  split at hv
  · exact kind_of_mem_check howned (.inl hv)
  · exact kind_of_mem_close howned hv

theorem kind_of_mem_scanText {r : Rule} {text : List Char} {v : Violation}
    (hv : v ∈ scanText [r] text) : v.kind = r.kind := by
  obtain ⟨i, _, q, hq, hv⟩ := mem_scanText_iff_reportsAt.mp hv
  rw [← List.mem_singleton.mp hq]
  exact kind_of_mem_reportsAt hv

/-! ## Taking a scan apart -/

/-- Of rules of different kinds, each is found again by its kind. -/
theorem filter_kind_flatMap {rules : List Rule} (hkinds : (rules.map kind).Nodup) {r : Rule}
    (hr : r ∈ rules) {f : Rule → List Violation} (hf : ∀ r, ∀ v ∈ f r, v.kind = r.kind) :
    (rules.flatMap f).filter (fun v => v.kind = r.kind) = f r := by
  have hself (r : Rule) : (f r).filter (fun v => v.kind = r.kind) = f r := by
    rw [List.filter_eq_self]
    intro v hv
    simpa using hf r v hv
  have hother {a b : Rule} (hab : a.kind ≠ b.kind) :
      (f a).filter (fun v => v.kind = b.kind) = [] := by
    rw [List.filter_eq_nil_iff]
    intro v hv
    simpa [hf a v hv] using hab
  induction rules with
  | nil => cases hr
  | cons a rs ih =>
    rw [List.map_cons, List.nodup_cons] at hkinds
    rw [List.flatMap_cons, List.filter_append]
    rcases List.mem_cons.mp hr with rfl | hr
    · have hrest : (rs.flatMap f).filter (fun v => v.kind = r.kind) = [] := by
        rw [List.filter_flatMap, List.flatMap_eq_nil_iff]
        intro b hb
        refine hother fun hkind => hkinds.1 ?_
        rw [← hkind]
        exact List.mem_map_of_mem hb
      rw [hself, hrest, List.append_nil]
    · have hne : a.kind ≠ r.kind := by
        intro hkind
        rw [hkind] at hkinds
        exact hkinds.1 (List.mem_map_of_mem hr)
      rw [hother hne, ih hkinds.2 hr, List.nil_append]

/-- The violations of one kind are what the rules of that kind find without the others. -/
theorem filter_kind_scanText (rules : List Rule) (k : Kind) (text : List Char) :
    (scanText rules text).filter (fun v => v.kind = k) =
      scanText (rules.filter fun r => r.kind = k) text := by
  rw [scanText_eq, scanText_eq, List.filter_flatMap]
  refine List.flatMap_congr fun i hi => ?_
  have hi : i ≤ text.length := by
    simpa [Nat.lt_succ_iff] using hi
  rw [foundAt_eq _ _ hi, foundAt_eq _ _ hi]
  induction rules with
  | nil => rfl
  | cons r rules ih =>
    rw [List.flatMap_cons, List.filter_append, ih]
    by_cases hr : r.kind = k
    · have hown : (r.reportsAt text i).filter (fun v => v.kind = k) = r.reportsAt text i := by
        rw [List.filter_eq_self]
        intro v hv
        simpa [kind_of_mem_reportsAt hv] using hr
      rw [hown, List.filter_cons_of_pos (by simpa using hr), List.flatMap_cons]
    · have hother : (r.reportsAt text i).filter (fun v => v.kind = k) = [] := by
        rw [List.filter_eq_nil_iff]
        intro v hv
        simpa [kind_of_mem_reportsAt hv] using hr
      rw [hother, List.filter_cons_of_neg (by simpa using hr), List.nil_append]

/-- **Rules are independent of each other.** In a scan under rules of different names, the
violations of a rule's kind are those of a scan under that rule alone; there are no others; and they
are found place by place, at each place in the order of the rules. -/
theorem scanText_independent (rules : List Rule) (hnames : (rules.map name).Nodup)
    (text : List Char) :
    (∀ r ∈ rules,
      (scanText rules text).filter (fun v => v.kind = r.kind) = scanText [r] text) ∧
    (∀ v ∈ scanText rules text, ∃ r ∈ rules, v.kind = r.kind) ∧
    scanText rules text = (List.range (text.length + 1)).flatMap (foundAt rules text) ∧
    ∀ i ≤ text.length, foundAt rules text i = rules.flatMap fun r => foundAt [r] text i := by
  have halone (r : Rule) {i : Nat} (hi : i ≤ text.length) :
      foundAt [r] text i = r.reportsAt text i := by
    rw [foundAt_eq [r] text hi, List.flatMap_singleton]
  have htogether {i : Nat} (hi : i ≤ text.length) :
      foundAt rules text i = rules.flatMap fun r => foundAt [r] text i := by
    rw [foundAt_eq rules text hi]
    simp only [halone _ hi]
  have hkinds : (rules.map kind).Nodup := by
    refine List.Nodup.of_map Kind.ruleName ?_
    rw [List.map_map]
    exact hnames
  refine ⟨?_, ?_, scanText_eq rules text, fun i hi => htogether hi⟩
  · intro r hr
    rw [scanText_eq rules text, scanText_eq [r] text, List.filter_flatMap]
    refine List.flatMap_congr fun i hi => ?_
    have hi : i ≤ text.length := by
      simpa [Nat.lt_succ_iff] using hi
    rw [htogether hi]
    refine filter_kind_flatMap hkinds hr fun r v hv => ?_
    rw [halone r hi] at hv
    exact kind_of_mem_reportsAt hv
  · intro v hv
    rw [scanText_eq rules text] at hv
    obtain ⟨i, hi, hv⟩ := List.mem_flatMap.mp hv
    have hi : i ≤ text.length := by
      simpa [Nat.lt_succ_iff] using hi
    rw [foundAt_eq rules text hi] at hv
    obtain ⟨r, hr, hv⟩ := List.mem_flatMap.mp hv
    exact ⟨r, hr, kind_of_mem_reportsAt hv⟩

/-- Two rules that both report at the end of a line, one of them also before it. -/
theorem scanText_independent_two :
    let word := wordLength {}
    let width := lineWidth { maxWidth := 3 }
    let text := ['a', 'b', ' ', 'c', 'd', '\n']
    ([word, width].map name).Nodup ∧
      (scanText [word, width] text).filter (fun v => v.kind = .identifierTooShort) =
        scanText [word] text ∧
      (scanText [word, width] text).filter (fun v => v.kind = .lineTooWide) =
        scanText [width] text ∧
      (scanText [word, width] text).map Violation.kind =
        [.identifierTooShort, .identifierTooShort, .lineTooWide] := by
  intro word width text
  have hnames : ([word, width].map name).Nodup := by decide
  have h := (scanText_independent [word, width] hnames text).1
  exact ⟨hnames, h word (by simp), h width (by simp), by decide +kernel⟩

end Rule
end StyleScan
