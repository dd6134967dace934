import StyleScan.Settings

/-!
# StyleScan.Proofs.Settings.Defaults

What the analyzer's settings are where a document says nothing. Every setting has its default, with
or without a section of the analyzer, but for the patterns of files to leave out: a section that
does not give them leaves nothing out.

* `AnalyzerSettings.Key`  — the settings, each with its name in a document, its place in a list, its
  type, its value and how that is read.
* `Key.given?`            — what a document gives for a setting.
* `Key.unstated`          — the value of a setting that the section leaves open.
* `AnalyzerSettings.ofValues?_eq_some_iff` — the settings of a list of values, one by one.
* `AnalyzerSettings.setting?_of_ofValue?` — every setting of a section, by what is given for it.
* `Settings.omitted_settings` — a setting that is not given has its default, with the one exception.
-/

namespace StyleScan

open Toml (Value Table)

namespace AnalyzerSettings

/-- A setting of the analyzer. -/
inductive Key where
  | root
  | exclude
  | extensions
  | respectGitignore
  | parallelism
  | fallbackEncoding
deriving DecidableEq, Repr

namespace Key

/-- The settings in the order in which a list of settings gives them. -/
def all : List Key := [root, exclude, extensions, respectGitignore, parallelism, fallbackEncoding]

/-- The name of a setting in a document. -/
def name : Key → String
  | root => "root"
  | exclude => "exclude"
  | extensions => "extensions"
  | respectGitignore => "respect_gitignore"
  | parallelism => "parallelism"
  | fallbackEncoding => "fallback_encoding"

/-- The place of a setting in a list of settings. -/
def place (k : Key) : Nat := all.idxOf k

/-- The type of a setting. -/
def Content : Key → Type
  | root | fallbackEncoding => String
  | exclude | extensions => List String
  | respectGitignore => Bool
  | parallelism => Option Nat

/-- The value of a setting. -/
def get : (k : Key) → AnalyzerSettings → k.Content
  | root => AnalyzerSettings.root
  | exclude => AnalyzerSettings.exclude
  | extensions => AnalyzerSettings.extensions
  | respectGitignore => AnalyzerSettings.respectGitignore
  | parallelism => AnalyzerSettings.parallelism
  | fallbackEncoding => AnalyzerSettings.fallbackEncoding

/-- Reads a value as that of a setting. -/
def read : (k : Key) → Value → Option k.Content
  | root | fallbackEncoding => Value.text?
  | exclude | extensions => Value.texts?
  | respectGitignore => Value.bool?
  | parallelism => fun v => v.count?.map some

/-- The value of a setting that the analyzer's section leaves open. -/
def unstated (k : Key) : k.Content := k.get { exclude := [] }

/-- What the analyzer's section of a document gives for a setting: a table gives it by name, a list
by place, and no other value gives any. -/
def given? (k : Key) (t : Table) : Option Value :=
  match t.get? "analyzer" with
  | some (.table fields) => Table.get? k.name fields
  | some (.array items) => items[k.place]?
  | _ => none

end Key

theorem Key.unstated_eq_get {k : Key} (h : k ≠ .exclude) : k.unstated = k.get {} := by
  cases k with
  | exclude => exact absurd rfl h
  | _ => rfl

theorem ofValues?_eq_some_iff {values : Key → Option Value} {a : AnalyzerSettings} :
    ofValues? (Key.all.map values) = some a ↔
      ∀ k : Key, setting? k.read k.unstated (values k) = some (k.get a) := by
  simp only [Key.all, List.map_cons, List.map_nil, ofValues?, Option.bind_eq_bind,
    Option.bind_eq_some_iff, Option.pure_def, Option.some.injEq]
  constructor
  · rintro ⟨root, hroot, exclude, hexclude, extensions, hextensions, gitignore, hgitignore,
      parallelism, hparallelism, encoding, hencoding, rfl⟩ k
    cases k with
    | root => exact hroot
    | exclude => exact hexclude
    | extensions => exact hextensions
    | respectGitignore => exact hgitignore
    | parallelism => exact hparallelism
    | fallbackEncoding => exact hencoding
  · intro h
    exact ⟨a.root, h .root, a.exclude, h .exclude, a.extensions, h .extensions,
      a.respectGitignore, h .respectGitignore, a.parallelism, h .parallelism,
      a.fallbackEncoding, h .fallbackEncoding, rfl⟩

/-- A section is read setting by setting, by what it gives for each. -/
theorem setting?_of_ofValue? {t : Table} {v : Value} {a : AnalyzerSettings}
    (hv : t.get? "analyzer" = some v) (h : ofValue? v = some a) (k : Key) :
    setting? k.read k.unstated (k.given? t) = some (k.get a) := by
  rw [Key.given?, hv]
  cases v with
  | table fields =>
    have hfields : ofValues? (Key.all.map fun k => Table.get? k.name fields) = some a := h
    exact ofValues?_eq_some_iff.mp hfields k
  | array items =>
    have hplaces : List.range keys.length = Key.all.map Key.place := by decide
    rw [ofValue?, hplaces, List.map_map] at h
    exact ofValues?_eq_some_iff.mp h k
  | dateTime d =>
    -- the one field of a date has the name of no setting
    have hfields : ofValues? (Key.all.map fun _ => none) = some a := h
    exact ofValues?_eq_some_iff.mp hfields k
  | _ => cases h

end AnalyzerSettings

open AnalyzerSettings (Key setting?)

namespace Settings

theorem analyzer_of_ofTable? {t : Table} {s : Settings} (h : ofTable? t = some s) :
    setting? AnalyzerSettings.ofValue? {} (t.get? "analyzer") = some s.analyzer := by
  obtain ⟨analyzer, hanalyzer, h⟩ := Option.bind_eq_some_iff.mp h
  have hs : ∃ rules, ({ analyzer, rules } : Settings) = s := by
    split at h
    · obtain ⟨rules, -, h⟩ := Option.bind_eq_some_iff.mp h
      exact ⟨rules, Option.some.inj h⟩
    · obtain ⟨rules, -, h⟩ := Option.bind_eq_some_iff.mp h
      exact ⟨rules, Option.some.inj h⟩
  obtain ⟨rules, rfl⟩ := hs
  exact hanalyzer

/-- A setting that is not given has the value that the section leaves open, or its default if there
is no section. -/
theorem get_of_omitted {t : Table} {s : Settings} (h : ofTable? t = some s) {k : Key}
    (hk : k.given? t = none) :
    k.get s.analyzer = if (t.get? "analyzer").isSome then k.unstated else k.get {} := by
  have hanalyzer := analyzer_of_ofTable? h
  cases hsection : t.get? "analyzer" with
  | none =>
    rw [hsection] at hanalyzer
    rw [← Option.some.inj hanalyzer]
    rfl
  | some v =>
    rw [hsection] at hanalyzer
    have hvalue := AnalyzerSettings.setting?_of_ofValue? hsection hanalyzer k
    rw [hk] at hvalue
    exact (Option.some.inj hvalue).symm

/-- **A setting that a document does not give has its default,** whatever else the document gives,
with one exception: where there is a section of the analyzer, and it does not say what to leave out,
nothing is left out. -/
theorem omitted_settings {text : String} {t : Table} {s : Settings}
    (ht : Toml.parse? text = some t) (hs : parse? text = some s) {k : Key}
    (hk : k.given? t = none) :
    (k ≠ .exclude → k.get s.analyzer = k.get ({} : Settings).analyzer) ∧
      (k = .exclude → s.analyzer.exclude =
        if (t.get? "analyzer").isSome then [] else ({} : Settings).analyzer.exclude) := by
  obtain ⟨t', ht', htable⟩ := Option.bind_eq_some_iff.mp hs
  obtain rfl : t' = t := Option.some.inj (ht'.symm.trans ht)
  have hget := get_of_omitted htable hk
  constructor
  · intro hne
    rw [hget, Key.unstated_eq_get hne]
    split <;> rfl
  · rintro rfl
    exact hget

/-- A document with two settings and the section of a rule: two settings that it does not give. -/
theorem omitted_settings_sparse :
    let text :=
      "[analyzer]\nroot = \"src\"\nparallelism = 2\n[rules.line-too-wide]\nmax_width = 9\n"
    ∃ t s, Toml.parse? text = some t ∧ parse? text = some s ∧
      Key.extensions.given? t = none ∧ s.analyzer.extensions = ["cs"] ∧
      Key.exclude.given? t = none ∧ s.analyzer.exclude = [] := by
  intro text
  have hs : (parse? text).isSome = true := by decide +kernel
  have ht : (Toml.parse? text).any (fun t => (Key.extensions.given? t).isNone &&
      (Key.exclude.given? t).isNone && (t.get? "analyzer").isSome) = true := by decide +kernel
  obtain ⟨s, hs⟩ := Option.isSome_iff_exists.mp hs
  obtain ⟨t, ht, hgiven⟩ := (Option.any_eq_true _ _).mp ht
  simp only [Bool.and_eq_true, Option.isNone_iff_eq_none] at hgiven
  obtain ⟨⟨hextensions, hexclude⟩, hsection⟩ := hgiven
  refine ⟨t, s, ht, hs, hextensions, ?_, hexclude, ?_⟩
  · exact (omitted_settings ht hs hextensions).1 (by decide)
  · rw [(omitted_settings ht hs hexclude).2 rfl, if_pos hsection]

/-- An empty section takes the default patterns away. -/
theorem omitted_exclude_differs :
    ¬ ∀ (text : String) (t : Table) (s : Settings), Toml.parse? text = some t →
      parse? text = some s → ∀ k : Key, k.given? t = none →
        k.get s.analyzer = k.get ({} : Settings).analyzer := by
  intro h
  have hs : (parse? "[analyzer]").any (fun s => s.analyzer.exclude.isEmpty) = true := by
    decide +kernel
  have ht : (Toml.parse? "[analyzer]").any (fun t => (Key.exclude.given? t).isNone) = true := by
    decide +kernel
  obtain ⟨s, hs, hempty⟩ := (Option.any_eq_true _ _).mp hs
  obtain ⟨t, ht, hnone⟩ := (Option.any_eq_true _ _).mp ht
  have hdefault : s.analyzer.exclude = ({} : Settings).analyzer.exclude :=
    h _ t s ht hs .exclude (Option.isNone_iff_eq_none.mp hnone)
  rw [hdefault] at hempty
  exact absurd hempty (by decide)

end Settings
end StyleScan
