import StyleScan.Rule.Selection

/-!
# StyleScan.Proofs.Rule.Selection

Which names choose a rule. A name draws no warning if it is that of a rule, or a code of any kind of
violation in letters of any case; every such name chooses a rule, but for the code of the one kind
that no rule reports.

* `Kind.eq_of_sameLetters`   — no two codes are the same up to case.
* `Rule.mem_map_kind_iff`    — the rules report every kind but that of a missing file.
* `Rule.mem_selected_iff`    — which rules a list of names chooses.
* `Rule.selected_ne_nil_iff` — when a name chooses a rule.
* `Rule.isKnownName_iff`     — when a name draws no warning.
* `Rule.selected_known`      — how the two differ.
-/

namespace StyleScan

open Text (sameLetters)

namespace Text

theorem sameLetters_iff {a b : String} :
    sameLetters a b = true ↔ a.toList.map Char.toLower = b.toList.map Char.toLower :=
  beq_iff_eq

theorem sameLetters_of_common {a b name : String} (ha : sameLetters name a = true)
    (hb : sameLetters name b = true) : sameLetters a b = true := by
  rw [sameLetters_iff] at ha hb ⊢
  rw [← ha, hb]

theorem sameLetters_comm (a b : String) : sameLetters a b = sameLetters b a := by
  rw [Bool.eq_iff_iff, sameLetters_iff, sameLetters_iff, eq_comm]

end Text

namespace Kind

theorem eq_of_sameLetters {a b : Kind} (h : sameLetters a.code b.code = true) : a = b := by
  cases a <;> cases b <;> revert h <;> decide

theorem sameLetters_ruleName (a b : Kind) : sameLetters a.ruleName b.code = false := by
  cases a <;> cases b <;> decide

end Kind

namespace Rule

theorem mem_map_kind_iff {k : Kind} : k ∈ defaults.map kind ↔ k ≠ .fileNotFound := by
  cases k <;> decide

theorem map_kind_withOptions (s : Settings) : (withOptions s).map kind = defaults.map kind := rfl

theorem map_name_withOptions (s : Settings) : (withOptions s).map name = names := rfl

theorem nodup_names : names.Nodup := by decide

/-! ## Names and rules -/

theorem answersTo_iff {r : Rule} {name : String} :
    r.answersTo name = true ↔ name = r.name ∨ sameLetters name r.code = true := by
  rw [answersTo, Bool.or_eq_true, beq_iff_eq]

theorem selected_eq (s : Settings) (chosen : List String) :
    selected s (some chosen) =
      (withOptions s).filter fun r => chosen.any r.answersTo && s.isEnabled r.name := by
  rw [selected, configured, List.filter_filter]

theorem mem_selected_iff {s : Settings} {chosen : List String} {r : Rule} :
    r ∈ selected s (some chosen) ↔
      r ∈ withOptions s ∧ s.isEnabled r.name = true ∧
        ∃ name ∈ chosen, name = r.name ∨ sameLetters name r.code = true := by
  simp only [selected_eq, List.mem_filter, Bool.and_eq_true, List.any_eq_true, answersTo_iff,
    and_comm]

/-- A name chooses a rule if it is the name or the code of a kind that some rule reports. -/
theorem selected_ne_nil_iff {s : Settings} (hall : ∀ name ∈ names, s.isEnabled name = true)
    (name : String) :
    selected s (some [name]) ≠ [] ↔
      ∃ k : Kind, k ≠ .fileNotFound ∧ (name = k.ruleName ∨ sameLetters name k.code = true) := by
  constructor
  · intro hne
    obtain ⟨r, hr⟩ := List.exists_mem_of_ne_nil _ hne
    obtain ⟨hmem, -, chosen, hchosen, hname⟩ := mem_selected_iff.mp hr
    obtain rfl := List.mem_singleton.mp hchosen
    have hk : r.kind ∈ defaults.map kind := by
      rw [← map_kind_withOptions s]
      exact List.mem_map_of_mem hmem
    exact ⟨r.kind, mem_map_kind_iff.mp hk, hname⟩
  · rintro ⟨k, hk, hname⟩
    rw [← mem_map_kind_iff, ← map_kind_withOptions s] at hk
    obtain ⟨r, hmem, rfl⟩ := List.mem_map.mp hk
    have hnames : r.name ∈ names := by
      rw [← map_name_withOptions s]
      exact List.mem_map_of_mem hmem
    exact List.ne_nil_of_mem
      (mem_selected_iff.mpr ⟨hmem, hall _ hnames, name, List.mem_singleton_self name, hname⟩)

theorem isKnownName_iff {name : String} :
    isKnownName name = true ↔
      (∃ k : Kind, k ≠ .fileNotFound ∧ name = k.ruleName) ∨
        ∃ k : Kind, sameLetters name k.code = true := by
  have hnames : name ∈ names ↔ ∃ k : Kind, k ≠ .fileNotFound ∧ name = k.ruleName := by
    have hmap : names = (defaults.map kind).map Kind.ruleName := rfl
    simp only [hmap, List.mem_map (f := Kind.ruleName), mem_map_kind_iff, eq_comm]
  rw [isKnownName, Bool.or_eq_true, List.contains_iff_mem, hnames, List.any_eq_true]
  simp only [Kind.mem_all, true_and, Text.sameLetters_comm name]

/-- **A name that draws no warning chooses a rule, but for one code.** When no rule is switched off,
a name chooses a rule exactly if it draws no warning and is not the code of a missing file, which no
rule reports. Under any settings a list of names chooses the enabled rules that have one of them as
name, or as code in letters of any case, each once and in the order in which they run. -/
theorem selected_known (s : Settings) :
    ((∀ name ∈ names, s.isEnabled name = true) → ∀ name,
      (selected s (some [name]) ≠ [] ↔
        isKnownName name = true ∧ sameLetters name Kind.fileNotFound.code = false)) ∧
    (∀ chosen,
      (selected s (some chosen)).Sublist (withOptions s) ∧
      ((selected s (some chosen)).map name).Nodup ∧
      ∀ r, r ∈ selected s (some chosen) ↔
        r ∈ withOptions s ∧ s.isEnabled r.name = true ∧
          ∃ name ∈ chosen, name = r.name ∨ sameLetters name r.code = true) ∧
    (withOptions s).map name = names := by
  refine ⟨?_, ?_, map_name_withOptions s⟩
  · intro hall name
    rw [selected_ne_nil_iff hall, isKnownName_iff]
    constructor
    · rintro ⟨k, hk, rfl | hcode⟩
      · exact ⟨.inl ⟨k, hk, rfl⟩, k.sameLetters_ruleName .fileNotFound⟩
      · -- a name that is both codes up to case would make the kinds equal
        refine ⟨.inr ⟨k, hcode⟩, Bool.eq_false_iff.mpr ?_⟩
        intro hmissing
        exact hk (Kind.eq_of_sameLetters (Text.sameLetters_of_common hcode hmissing))
    · rintro ⟨⟨k, hk, hname⟩ | ⟨k, hcode⟩, hother⟩
      · exact ⟨k, hk, .inl hname⟩
      · refine ⟨k, ?_, .inr hcode⟩
        rintro rfl
        rw [hcode] at hother
        cases hother
  · intro chosen
    have hsub : (selected s (some chosen)).Sublist (withOptions s) := by
      rw [selected_eq]
      exact List.filter_sublist
    exact ⟨hsub, nodup_names.sublist (hsub.map name), fun _ => mem_selected_iff⟩

/-- A section that belongs to no rule may be switched off. -/
theorem selected_known_anyCase :
    let s : Settings :=
      { rules := [("line-too-wide", { severity := some .info }),
          ("no-goto", { enabled := some false })] }
    (∀ name ∈ names, s.isEnabled name = true) ∧ selected s (some ["mF002"]) ≠ [] ∧
      selected s (some ["Line-Too-Wide"]) = [] := by
  intro s
  have hall : ∀ name ∈ names, s.isEnabled name = true := by decide
  have hiff := (selected_known s).1 hall
  refine ⟨hall, (hiff "mF002").mpr ⟨by decide, by decide⟩, ?_⟩
  refine Classical.byContradiction ?_
  intro hne
  exact absurd ((hiff "Line-Too-Wide").mp hne).1 (by decide)

/-- The code of a missing file draws no warning and chooses nothing. -/
theorem known_code_selects_nothing :
    ¬ ∀ s : Settings, (∀ name ∈ names, s.isEnabled name = true) →
      ∀ name, isKnownName name = true ↔ selected s (some [name]) ≠ [] := by
  intro h
  have hne := (h {} (by decide) "MF000").mp (by decide)
  exact hne rfl

end Rule
end StyleScan
