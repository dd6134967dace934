import StyleScan.Proofs.Check.Verdict

/-!
# StyleScan.Proofs.Analyzer.PlainSettings

Settings that change nothing. An analyzer takes its rules, their limits, its encoding and its
severities from the settings; a scan of files has all of these built in. Under settings that leave
every default in force both report the same.

* `Settings.LeavesDefaults`   — nothing in the settings bears on the scan of a file.
* `Settings.LeavesDefaults.configured_eq` — the rules of such settings are the default ones.
* `Rule.reports_ok_iff`       — files are scanned exactly if each can be read or does not exist.
* `Analyzer.analyze_eq`       — an analyzer with such settings scans as if there were none.
* `Analyzer.analyze_plain`    — the analyzer and the scan of files agree.
-/

namespace StyleScan

/-! ## The settings -/

namespace Settings

/-- The options that are counts, each behind the name of its rule. -/
def countOptions : List (String × String) :=
  [("file-too-long", "max_lines"), ("line-too-wide", "max_width"), ("line-too-wide", "tab_width"),
    ("line-too-wide", "indent_width"), ("method-too-long", "max_lines"),
    ("identifier-too-short", "min_length")]

/-- Nothing in the settings bears on the scan of a file: every rule is on, no severity is given, a
count is absent or no count, the list of allowed words is absent or no list, and the label of the
encoding is unknown or names the standard one. -/
structure LeavesDefaults (s : Settings) : Prop where
  enabled : ∀ r ∈ Rule.defaults, s.isEnabled r.name = true
  severity : ∀ entry ∈ s.rules, entry.2.severity = none
  counts : ∀ entry ∈ countOptions, ∀ n : Int,
    (s.rule entry.1).options.get? entry.2 = some (.int n) → n < 0
  allowed : ∀ items, (s.rule "identifier-too-short").options.get? "allowed" ≠ some (.array items)
  fallback : ∀ charset, Charset.ofLabel? s.analyzer.fallbackEncoding = some charset →
    charset = .standard

variable {s : Settings} (h : s.LeavesDefaults)
include h

theorem LeavesDefaults.count_eq {rule key : String} (hmem : (rule, key) ∈ countOptions)
    (default : Nat) : (s.rule rule).count key default = default := by
  have hcount : (s.rule rule).option? Toml.Value.count? key = none := by
    rw [RuleSettings.option?]
    cases hget : (s.rule rule).options.get? key with
    | none => rfl
    | some value =>
      cases value with
      | int n =>
        have hn : n < 0 := h.counts _ hmem n hget
        simp only [Option.bind_some, Toml.Value.count?]
        rw [if_neg (by omega)]
      | _ => rfl
  rw [RuleSettings.count, hcount, Option.getD_none]

theorem LeavesDefaults.texts?_eq : (s.rule "identifier-too-short").texts? "allowed" = none := by
  rw [RuleSettings.texts?]
  split
  · next items hget => exact absurd hget (h.allowed items)
  · rfl

theorem LeavesDefaults.severity?_eq (rule : String) : s.severity? rule = none := by
  rw [severity?, Settings.rule, section?]
  cases hfind : s.rules.find? fun entry => entry.1 == rule with
  | none => rfl
  | some entry => exact h.severity entry (List.mem_of_find?_eq_some hfind)

theorem LeavesDefaults.charset_eq :
    (Charset.ofLabel? s.analyzer.fallbackEncoding).getD .standard = .standard := by
  cases hlabel : Charset.ofLabel? s.analyzer.fallbackEncoding with
  | none => rfl
  | some charset => exact h.fallback charset hlabel

/-- The rules of settings that leave every default in force are the default ones. -/
theorem LeavesDefaults.configured_eq : Rule.configured s = Rule.defaults := by
  have hall : Rule.withOptions s = Rule.defaults := by
    simp only [Rule.withOptions, h.texts?_eq]
    rw [h.count_eq (by decide), h.count_eq (by decide), h.count_eq (by decide),
      h.count_eq (by decide), h.count_eq (by decide), h.count_eq (by decide)]
    rfl
  rw [Rule.configured, hall, List.filter_eq_self]
  exact h.enabled

end Settings

/-! ## Files that can be scanned -/

/-- The file can be read, or does not exist. -/
def FileTree.Scannable (t : FileTree) (path : String) : Prop :=
  (∃ bytes, t.read path = .ok bytes) ∨ t.read path = .error .notFound

namespace Rule

variable (rules : List Rule) (standard : Charset) (t : FileTree)

theorem scanFile_ok_iff (path : String) :
    (∃ scan, scanFile rules standard t path = .ok scan) ↔ t.Scannable path := by
  rw [scanFile, FileTree.Scannable]
  cases hread : t.read path with
  | error fault => cases fault <;> simp
  | ok bytes =>
    obtain ⟨text, hscan⟩ := scanSource_bytes rules standard bytes
    simp [hscan]

theorem reports_ok_iff (paths : List String) :
    (∃ scans, reports rules standard t paths = .ok scans) ↔ ∀ path ∈ paths, t.Scannable path := by
  induction paths with
  | nil => simp [reports]
  | cons path paths ih =>
    rw [List.forall_mem_cons, ← scanFile_ok_iff rules standard, ← ih, reports]
    cases scanFile rules standard t path with
    | error failure => simp
    | ok scan => cases reports rules standard t paths <;> simp

end Rule

/-! ## The analyzer -/

namespace Analyzer

theorem exists_build? {o : AnalyzerOptions} (directory : String)
    (h : ∀ pattern ∈ o.excludes ++ o.settings.analyzer.exclude, (Glob.parse? pattern).isSome) :
    ∃ a, build? directory o = some a := by
  have hpatterns :
      ∃ gs, (o.excludes ++ o.settings.analyzer.exclude).mapM Glob.parse? = some gs := by
    generalize o.excludes ++ o.settings.analyzer.exclude = patterns at h
    induction patterns with
    | nil => exact ⟨[], rfl⟩
    | cons pattern patterns ih =>
      rw [List.forall_mem_cons, Option.isSome_iff_exists] at h
      obtain ⟨⟨g, hg⟩, hrest⟩ := h
      obtain ⟨gs, hgs⟩ := ih hrest
      exact ⟨g :: gs, by simp [List.mapM_cons, hg, hgs]⟩
  obtain ⟨gs, hgs⟩ := hpatterns
  exact ⟨_, by simp only [build?, hgs]; rfl⟩

theorem judge_eq_self {a : Analyzer} (h : ∀ rule, a.settings.severity? rule = none)
    (r : FileReport) : a.judge r = r := by
  rw [judge, FileReport.override]
  simp [h]

/-- An analyzer whose settings leave every default in force scans the files that it is given as if
there were no settings. -/
theorem analyze_eq {directory : String} {o : AnalyzerOptions} {a : Analyzer}
    (ha : build? directory o = some a) (h : o.settings.LeavesDefaults)
    (hrules : o.rules = Rule.configured o.settings) (hfiles : o.files ≠ []) (t : FileTree) :
    a.analyze t = (Rule.scanFiles t o.files).mapError .unreadable := by
  obtain ⟨hf, hsettings, hstandard, hr⟩ := build?_ok ha
  have hdefaults : a.rules = Rule.defaults := by
    rw [hr, hrules, h.configured_eq, List.filter_eq_self]
    exact h.enabled
  have htargets : a.targets? t = some o.files := by
    rw [targets?, hf, if_neg (by simpa using hfiles)]
  have hjudge (scans : List FileReport) : scans.map a.judge = scans := by
    have hnone : ∀ rule, a.settings.severity? rule = none := hsettings ▸ h.severity?_eq
    rw [funext (judge_eq_self hnone), List.map_id']
  rw [analyze, htargets, Rule.scanFiles, hdefaults, hstandard, h.charset_eq]
  dsimp only
  cases Rule.reports Rule.defaults .standard t o.files with
  | error failure => rfl
  | ok scans =>
    simp only [hjudge]
    rfl

/-- **An analyzer without a say agrees with the scan of files.** Take settings that leave every
default in force, whatever else they say, the rules that they configure, well-formed patterns and
some files. The analyzer can be built. If every file can be read or does not exist, it reports what
the scan of the files under the default rules reports; if some file exists and cannot be read, both
fail. -/
theorem analyze_plain {o : AnalyzerOptions} (directory : String)
    (h : o.settings.LeavesDefaults) (hrules : o.rules = Rule.configured o.settings)
    (hpatterns : ∀ pattern ∈ o.excludes ++ o.settings.analyzer.exclude,
      (Glob.parse? pattern).isSome)
    (hfiles : o.files ≠ []) :
    ∃ a, build? directory o = some a ∧ ∀ t : FileTree,
      ((∀ path ∈ o.files, t.Scannable path) →
        ∃ report, a.analyze t = .ok report ∧ Rule.scanFiles t o.files = .ok report) ∧
      ((∃ path ∈ o.files, ¬ t.Scannable path) →
        (∃ fault, a.analyze t = .error fault) ∧
          ∃ failure, Rule.scanFiles t o.files = .error failure) := by
  obtain ⟨a, ha⟩ := exists_build? directory hpatterns
  refine ⟨a, ha, ?_⟩
  intro t
  have hok := Rule.reports_ok_iff Rule.defaults .standard t o.files
  rw [analyze_eq ha h hrules hfiles, Rule.scanFiles]
  constructor
  · intro hscannable
    obtain ⟨scans, hscans⟩ := hok.mpr hscannable
    rw [hscans]
    exact ⟨.ofReports scans, rfl, rfl⟩
  · rintro ⟨path, hmem, hpath⟩
    cases hreports : Rule.reports Rule.defaults .standard t o.files with
    | ok scans => exact absurd (hok.mp ⟨scans, hreports⟩ path hmem) hpath
    | error failure => exact ⟨⟨_, rfl⟩, _, rfl⟩

/-- Settings that say much and change nothing: counts below zero or of another type, words that are
no list, another name of the standard encoding, and a section of no rule. -/
def idleSettings : Settings where
  analyzer := { exclude := ["*.g.cs"], fallbackEncoding := " Latin1 " }
  rules := [
    ("file-too-long", { enabled := some true, options := [("max_lines", .int (-1))] }),
    ("identifier-too-short", { options := [("allowed", .str "x"), ("min_length", .bool true)] }),
    ("no-such-rule", { enabled := some false, options := [("max_lines", .int 1)] })]

theorem leavesDefaults_idleSettings : idleSettings.LeavesDefaults where
  enabled := by decide
  severity := by simp [idleSettings]
  counts := by
    simp [Settings.countOptions, idleSettings, Settings.rule, Settings.section?, Toml.Table.get?]
  allowed := by simp [idleSettings, Settings.rule, Settings.section?, Toml.Table.get?]
  fallback := by
    have hlabel : Charset.ofLabel? idleSettings.analyzer.fallbackEncoding = some .standard := by
      decide +kernel
    rw [hlabel]
    rintro charset ⟨⟩
    rfl

theorem analyze_plain_idle :
    let o : AnalyzerOptions :=
      { files := ["/gone.cs", "/d/b.cs"]
        rules := Rule.configured idleSettings
        settings := idleSettings }
    let t : FileTree := { nodes := [(["d"], .directory), (["d", "b.cs"], .file (Utf8.bytes "x;"))] }
    ∃ a report, build? "/" o = some a ∧ a.analyze t = .ok report ∧
      Rule.scanFiles t o.files = .ok report := by
  intro o t
  obtain ⟨a, ha, hagree⟩ := analyze_plain (o := o) "/" leavesDefaults_idleSettings rfl
    (by decide +kernel) (by decide)
  have hscannable : ∀ path ∈ o.files, t.Scannable path := by
    simp only [o, List.forall_mem_cons, List.not_mem_nil, false_implies, implies_true, and_true]
    exact ⟨.inr (by decide +kernel), .inl ⟨Utf8.bytes "x;", by decide +kernel⟩⟩
  obtain ⟨report, hanalyze, hscan⟩ := (hagree t).1 hscannable
  exact ⟨a, report, ha, hanalyze, hscan⟩

end Analyzer
end StyleScan
