import Mathlib.Data.List.Nodup
import StyleScan.Proofs.Rule.StatementCount

/-!
# StyleScan.Proofs.Rule.Separator

Which separating commas the rule of one statement on a line misses. One comma may end a line, and it
is taken off the count of those that separate; but a comma at the end of a line need not have been
counted itself.

* `Line.significant_eq`          — the significant characters are the code without its blanks.
* `StatementCount.Separates`     — a comma outside brackets and before the first colon, with code
  behind it.
* `StatementCount.EndsUncounted` — the line ends in a comma inside brackets or behind a colon.
* `Separates.two_le_countBy`     — a comma that counts and ends the line is another one.
* `Separates.crowded_iff`        — when the line holds too many commas or semicolons for the rule.
* `Rule.scanText_separator`      — a line with a separating comma is reported, unless the comma
  that ends it makes up for the only one that counts.
-/

namespace StyleScan

theorem Line.significant_eq (l : Line) :
    l.significant = l.code.filter fun c => !Text.isBlank c := by
  rw [code, List.filter_map, List.filter_filter, significant, Lexical.State.significant]
  congr 1
  refine List.filter_congr ?_
  intro p _
  simp only [Lexical.State.isSignificant, Function.comp_apply]
  cases Text.isBlank p.1 <;> cases p.2.inLiteral <;> simp

theorem Line.eq_of_number_eq {text : List Char} {l l' : Line} (hl : l ∈ all text)
    (hl' : l' ∈ all text) (h : l.number = l'.number) : l = l' := by
  have hnodup : ((all text).map number).Nodup := by
    refine List.pairwise_map.mpr ((pairwise_allFrom ⟨[]⟩ text).imp ?_)
    intro l l' hlt
    exact Nat.ne_of_lt hlt
  exact List.inj_on_of_nodup_map hnodup hl hl' h

namespace Rule
namespace StatementCount

/-- A comma outside brackets and before the first colon stands on the line, and is not its last
significant character. -/
def Separates (l : Line) : Prop :=
  ∃ before after, l.code = before ++ ',' :: after ∧ bracketDepth before < 1 ∧ ':' ∉ before ∧
    ∃ c ∈ after, Text.isBlank c = false

/-- The last significant character of the line is a comma inside brackets or behind a colon. -/
def EndsUncounted (l : Line) : Prop :=
  ∃ before after, l.code = before ++ ',' :: after ∧ (1 ≤ bracketDepth before ∨ ':' ∈ before) ∧
    ∀ c ∈ after, Text.isBlank c = true

/-! ## Counting commas -/

theorem countBy_le_append (counts : List Char → Char → Bool) (as bs : List Char) :
    countBy counts as ≤ countBy counts (as ++ bs) := by
  induction bs using List.reverseRecOn with
  | nil => rw [List.append_nil]
  | append_singleton bs b ih =>
    rw [← List.append_assoc, countBy_concat]
    omega

theorem countBy_lt_append {counts : List Char → Char → Bool} {as : List Char} {c : Char}
    (h : counts as c = true) (bs : List Char) :
    countBy counts as < countBy counts (as ++ c :: bs) := by
  have hle := countBy_le_append counts (as ++ [c]) bs
  rw [countBy_concat, if_pos h, List.append_assoc, List.singleton_append] at hle
  omega

theorem isSeparator_comma (before : List Char) :
    isSeparator before ',' = true ↔ bracketDepth before < 1 ∧ ':' ∉ before := by
  simp [isSeparator]

theorem not_isSeparator_comma (before : List Char) :
    isSeparator before ',' = false ↔ 1 ≤ bracketDepth before ∨ ':' ∈ before := by
  rw [← Bool.not_eq_true, isSeparator_comma]
  grind

theorem getLast?_significant (l : Line) :
    l.significant.getLast? = some ',' ↔
      ∃ before after, l.code = before ++ ',' :: after ∧ ∀ c ∈ after, Text.isBlank c = true := by
  rw [l.significant_eq, List.getLast?_eq_some_iff]
  constructor
  · rintro ⟨cs, hcs⟩
    obtain ⟨as, bs, hcode, -, hbs⟩ := List.filter_eq_append_iff.mp hcs
    obtain ⟨before, after, rfl, -, -, hafter⟩ := List.filter_eq_cons_iff.mp hbs
    refine ⟨as ++ before, after, by simp [hcode], ?_⟩
    simpa using hafter
  · rintro ⟨before, after, hcode, hafter⟩
    refine ⟨before.filter fun c => !Text.isBlank c, ?_⟩
    have hblank : after.filter (fun c => !Text.isBlank c) = [] := by
      simpa using hafter
    rw [hcode, List.filter_append, List.filter_cons, hblank]
    rfl

/-! ## Lines with a separating comma -/

section Line

variable {l : Line}

theorem Separates.one_le_countBy (h : Separates l) : 1 ≤ countBy isSeparator l.code := by
  obtain ⟨before, after, hcode, hdepth, hcolon, -⟩ := h
  have hlt := countBy_lt_append ((isSeparator_comma before).mpr ⟨hdepth, hcolon⟩) after
  rw [hcode]
  omega

/-- If the comma that ends the line counts, it is another one than the one that separates. -/
theorem Separates.two_le_countBy (h : Separates l) {before after : List Char}
    (hcode : l.code = before ++ ',' :: after) (hcounts : isSeparator before ',' = true)
    (hblank : ∀ c ∈ after, Text.isBlank c = true) : 2 ≤ countBy isSeparator l.code := by
  obtain ⟨inner, behind, hinner, hdepth, hcolon, c, hc, hvisible⟩ := h
  have hnot : c ∉ after := by
    intro hmem
    rw [hblank c hmem] at hvisible
    cases hvisible
  -- the separating comma stands before the last one, since code follows it and not the last one
  have hbefore : ∃ between, before = inner ++ ',' :: between := by
    rw [hinner] at hcode
    rcases List.append_eq_append_iff.mp hcode with ⟨between, rfl, hrest⟩ | ⟨between, rfl, hrest⟩
    · cases between with
      | nil =>
        cases hrest
        exact absurd hc hnot
      | cons d between =>
        rw [List.cons_append, List.cons.injEq] at hrest
        exact ⟨between, by rw [← hrest.1]⟩
    · cases between with
      | nil =>
        cases hrest
        exact absurd hc hnot
      | cons d between =>
        rw [List.cons_append, List.cons.injEq] at hrest
        exact absurd (by simp [hrest.2, hc]) hnot
  obtain ⟨between, rfl⟩ := hbefore
  have hfirst := countBy_lt_append ((isSeparator_comma inner).mpr ⟨hdepth, hcolon⟩) between
  have hlast := countBy_lt_append hcounts after
  rw [hcode]
  omega

/-- A line with a separating comma is not crowded exactly if a comma that does not count ends it,
and makes up for the only one that does. -/
theorem Separates.crowded_iff (h : Separates l) :
    crowded l = true ↔
      ¬ (EndsUncounted l ∧ countBy isSeparator l.code = 1 ∧ countBy isTerminator l.code ≤ 1) := by
  have hone := h.one_le_countBy
  simp only [crowded, Bool.or_eq_true, decide_eq_true_eq]
  by_cases hlast : l.significant.getLast? = some ','
  · obtain ⟨before, after, hcode, hblank⟩ := (getLast?_significant l).mp hlast
    rw [if_pos hlast]
    cases hcounts : isSeparator before ',' with
    | true =>
      have htwo := h.two_le_countBy hcode hcounts hblank
      omega
    | false =>
      have hends : EndsUncounted l :=
        ⟨before, after, hcode, (not_isSeparator_comma before).mp hcounts, hblank⟩
      simp only [hends, true_and]
      omega
  · have hends : ¬ EndsUncounted l := by
      rintro ⟨before, after, hcode, -, hblank⟩
      exact hlast ((getLast?_significant l).mpr ⟨before, after, hcode, hblank⟩)
    rw [if_neg hlast]
    simp only [hends, false_and, not_false_iff, iff_true]
    omega

end Line

theorem mem_scanText (r : StatementCount) {text : List Char} {v : Violation} :
    v ∈ scanText [statementCount r] text ↔
      ∃ l ∈ Line.all text, crowded l = true ∧ v = lineViolation l := by
  simp only [scanText_eq, List.mem_map, List.mem_filter, and_assoc, eq_comm (a := v)]

end StatementCount

open StatementCount (Separates EndsUncounted countBy isSeparator isTerminator)

/-- **A separating comma is reported unless the comma that ends its line makes up for it.** A line
with a comma outside brackets and before the first colon, which is not its last significant
character, is reported with one exception: it ends in a comma inside brackets or behind a colon, no
other comma counts, and there are no two semicolons. -/
theorem scanText_separator (r : StatementCount) {text : List Char} {l : Line}
    (hl : l ∈ Line.all text) (hcomma : Separates l) :
    (∃ v ∈ scanText [statementCount r] text, v.line = some l.number) ↔
      ¬ (EndsUncounted l ∧ countBy isSeparator l.code = 1 ∧ countBy isTerminator l.code ≤ 1) := by
  rw [← hcomma.crowded_iff]
  constructor
  · rintro ⟨v, hv, hline⟩
    obtain ⟨l', hl', hcrowded, rfl⟩ := (StatementCount.mem_scanText r).mp hv
    have hnumber : l'.number = l.number := Option.some.inj hline
    rwa [← Line.eq_of_number_eq hl' hl hnumber]
  · intro hcrowded
    exact ⟨_, (StatementCount.mem_scanText r).mpr ⟨l, hl, hcrowded, rfl⟩, rfl⟩

/-- The comma that ends the line counts too, so that the one before it is reported. -/
theorem scanText_separator_counted :
    let text := "x;\nf(a, b), c,\n".toList
    let l : Line := ⟨"x;\nf(a, b), c,".toList⟩
    l ∈ Line.all text ∧ Separates l ∧
      ∃ v ∈ scanText [statementCount {}] text, v.line = some l.number := by
  intro text l
  have hl : l ∈ Line.all text := by decide +kernel
  have hcomma : Separates l :=
    ⟨"f(a, b)".toList, " c,".toList, by decide +kernel, by decide, by decide, 'c', by decide,
      by decide⟩
  refine ⟨hl, hcomma, (scanText_separator {} hl hcomma).mpr ?_⟩
  rintro ⟨-, hone, -⟩
  revert hone
  decide +kernel

/-- A comma inside parentheses ends the line, and the one before them goes unreported. -/
theorem separator_missed :
    ¬ ∀ (r : StatementCount) (text : List Char) (l : Line), l ∈ Line.all text → Separates l →
      ∃ v ∈ scanText [statementCount r] text, v.line = some l.number := by
  intro h
  have hcomma : Separates ⟨"a, f(b,".toList⟩ :=
    ⟨['a'], " f(b,".toList, by decide +kernel, by decide, by decide, 'f', by decide, by decide⟩
  obtain ⟨v, hv, -⟩ := h {} "a, f(b,".toList ⟨"a, f(b,".toList⟩ (by decide +kernel) hcomma
  have hnone : scanText [statementCount {}] "a, f(b,".toList = [] := by decide +kernel
  rw [hnone] at hv
  cases hv

end Rule
end StyleScan
