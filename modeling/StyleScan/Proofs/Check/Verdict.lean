import Mathlib.Data.List.Forall2
import StyleScan.Program
import StyleScan.Proofs.Scan.Origin
import StyleScan.Proofs.Stream.Schedule

/-!
# StyleScan.Proofs.Check.Verdict

What a check that is completed says of its files. Between the scans of single files and the exit
code lie one analyzer per directory and one for all named files, the severities of the settings and
the joining of the partial reports; nothing is lost, doubled or graded otherwise on the way.

* `Settings.grade`      — the severity that a violation has in a run.
* `BatchReport.severities` — what the questions about a report depend on.
* `Check.filesBelow`    — the files that a search below a directory finds.
* `Rule.severity_of_scanFile` — a scan of a file reports errors, before the settings have their say.
* `Check.scanTargets_ok` — targets that are scanned one after the other are as one list of files.
* `Check.run_verdict`   — the report of a check, and the exit code, from the scans of its files.
-/

namespace StyleScan

/-! ## Grades -/

/-- The severity that a violation has in a run: the one that the settings give to its rule, and
`error` if they give none. -/
def Settings.grade (settings : Settings) (v : Violation) : Severity :=
  (settings.severity? v.rule).getD .error

/-- The report of a file with the severities that its violations have in a run. -/
def FileReport.graded (settings : Settings) (r : FileReport) : FileReport :=
  { r with violations := r.violations.map fun v => { v with severity := settings.grade v } }

/-- Overriding keeps what the settings say nothing about, and a scan reports errors only. -/
theorem Analyzer.judge_eq_graded (a : Analyzer) {r : FileReport}
    (h : ∀ v ∈ r.violations, v.severity = .error) : a.judge r = r.graded a.settings := by
  have hviolations :
      (r.violations.map fun v =>
        { v with severity := (a.settings.severity? v.kind.ruleName).getD v.severity }) =
      r.violations.map fun v => { v with severity := a.settings.grade v } := by
    refine List.map_congr_left fun v hv => ?_
    rw [h v hv]
    rfl
  rw [judge, FileReport.override, hviolations, FileReport.graded]

/-! ## Reports of many files -/

namespace BatchReport

/-- The severities of all violations, in the order in which they are listed. -/
def severities (b : BatchReport) : List Severity := b.violations.map fun entry => entry.2.severity

theorem foldl_add (entries : List (String × Violation)) (t : Tally) :
    entries.foldl (fun t entry => t.add entry.2.severity) t =
      { errors := t.errors + (entries.map fun entry => entry.2.severity).count .error
        warnings := t.warnings + (entries.map fun entry => entry.2.severity).count .warning
        infos := t.infos + (entries.map fun entry => entry.2.severity).count .info } := by
  induction entries generalizing t with
  | nil => rfl
  | cons entry entries ih =>
    rw [List.foldl_cons, ih, List.map_cons]
    cases entry.2.severity <;> simp [Tally.add, Nat.add_assoc, Nat.add_comm 1]

theorem tally_eq (b : BatchReport) :
    b.tally =
      { errors := b.severities.count .error
        warnings := b.severities.count .warning
        infos := b.severities.count .info } := by
  simp [tally, foldl_add, severities]

/-- Every violation is counted once. -/
theorem sum_tally (b : BatchReport) :
    b.tally.errors + b.tally.warnings + b.tally.infos = b.count := by
  have hlength : b.count = b.severities.length := by simp [count, severities]
  rw [tally_eq, hlength]
  induction b.severities with
  | nil => rfl
  | cons severity rest ih =>
    cases severity <;> simp at ih ⊢ <;> omega

theorem reaches_iff (b : BatchReport) (severity : Severity) :
    b.reaches severity = true ↔ ∃ grade ∈ b.severities, severity ≤ grade := by
  simp [reaches, severities]

theorem isClean_iff (b : BatchReport) : b.isClean = true ↔ b.count = 0 := by
  rw [count, List.length_eq_zero_iff, violations, List.flatMap_eq_nil_iff]
  simp [isClean, FileReport.isClean]

theorem hasErrors_iff (b : BatchReport) : b.hasErrors = true ↔ .error ∈ b.severities := by
  rw [hasErrors, reaches_iff]
  constructor
  · rintro ⟨grade, hgrade, hle⟩
    -- nothing is graver than an error
    have : grade = .error := by
      cases grade with
      | error => rfl
      | warning => exact absurd hle (by decide)
      | info => exact absurd hle (by decide)
    exact this ▸ hgrade
  · intro h
    exact ⟨.error, h, by decide⟩

theorem append_ofReports (as bs : List FileReport) :
    (ofReports as).append (ofReports bs) = ofReports (as ++ bs) := by
  simp [append, ofReports]

theorem severities_graded (settings : Settings) (scans : List FileReport) :
    (ofReports (scans.map (FileReport.graded settings))).severities =
      (scans.flatMap FileReport.violations).map settings.grade := by
  simp [severities, violations, ofReports, FileReport.graded, List.map_flatMap, List.flatMap_map,
    Function.comp_def]

end BatchReport

/-! ## The scan of a file -/

namespace Rule

theorem scanSource_bytes (rules : List Rule) (standard : Charset) (bytes : List UInt8) :
    ∃ text, scanSource rules standard [.bytes bytes] = .ok (scanText rules text) := by
  have hdelivers : Source.Delivers [.bytes bytes] bytes := by
    by_cases hempty : bytes = []
    · rw [hempty]
      exact .ended fun r hr => .inr (List.mem_singleton.mp hr)
    · have hend : Source.Delivers [] [] := .ended fun r hr => (List.not_mem_nil hr).elim
      simpa using Source.Delivers.bytes hempty hend
  exact ⟨_, scanSource_of_delivers Codecs.builtIn_piecewise rules standard hdelivers⟩

/-- A file that is scanned does not exist, or has the violations of a text. -/
theorem scanFile_ok {rules : List Rule} {standard : Charset} {t : FileTree} {path : String}
    {r : FileReport} (h : scanFile rules standard t path = .ok r) :
    r.file = path ∧
      (r.violations = [Violation.missingFile path Fault.notFound.message] ∨
        ∃ text, r.violations = scanText rules text) := by
  rw [scanFile] at h
  split at h
  · cases h
    exact ⟨rfl, .inl rfl⟩
  · cases h
  · next bytes _ =>
    obtain ⟨text, hscan⟩ := scanSource_bytes rules standard bytes
    rw [hscan] at h
    cases h
    exact ⟨rfl, .inr ⟨text, rfl⟩⟩

theorem severity_of_scanFile {rules : List Rule} {standard : Charset} {t : FileTree}
    {path : String} {r : FileReport} (h : scanFile rules standard t path = .ok r) :
    ∀ v ∈ r.violations, v.severity = .error := by
  intro v hv
  rcases (scanFile_ok h).2 with hmissing | ⟨text, hscan⟩
  · rw [hmissing, List.mem_singleton] at hv
    rw [hv]
    rfl
  · rw [hscan] at hv
    exact severity_of_mem_scanText hv

/-- The scans of files, one for each. -/
def Scanned (rules : List Rule) (standard : Charset) (t : FileTree) :
    List String → List FileReport → Prop :=
  List.Forall₂ fun path scan => scanFile rules standard t path = .ok scan

section

variable {rules : List Rule} {standard : Charset} {t : FileTree} {paths : List String}
  {scans : List FileReport}

theorem scanned_reports (h : reports rules standard t paths = .ok scans) :
    Scanned rules standard t paths scans := by
  induction paths generalizing scans with
  | nil =>
    cases h
    exact .nil
  | cons path rest ih =>
    rw [reports] at h
    split at h
    · cases h
    · next hscan =>
      split at h
      · cases h
      · next hrest =>
        cases h
        exact .cons hscan (ih hrest)

theorem Scanned.files (h : Scanned rules standard t paths scans) :
    scans.map FileReport.file = paths := by
  induction h with
  | nil => rfl
  | cons hscan _ ih => rw [List.map_cons, ih, (scanFile_ok hscan).1]

theorem Scanned.judge (h : Scanned rules standard t paths scans) (a : Analyzer) :
    scans.map a.judge = scans.map (FileReport.graded a.settings) := by
  induction h with
  | nil => rfl
  | cons hscan _ ih =>
    rw [List.map_cons, List.map_cons, ih, a.judge_eq_graded (severity_of_scanFile hscan)]

end

/-- An analyzer leaves out rules that are left out already. -/
theorem filter_selected (settings : Settings) (chosen : Option (List String)) :
    ((selected settings chosen).filter fun r => settings.isEnabled r.name) =
      selected settings chosen := by
  refine List.filter_eq_self.mpr fun r hr => ?_
  have hr : r ∈ configured settings := by
    cases chosen with
    | none => exact hr
    | some names => exact (List.mem_filter.mp hr).1
  exact (List.mem_filter.mp hr).2

end Rule

/-! ## Targets -/

theorem Logged.andThen_ok {α β : Type} {a : Logged α} {next : α → Logged β} {y : β}
    (h : (a.andThen next).outcome = .ok y) :
    ∃ x, a.outcome = .ok x ∧ (next x).outcome = .ok y := by
  rw [andThen] at h
  split at h
  · cases h
  · next x hx => exact ⟨x, hx, h⟩

namespace Analyzer

theorem build?_ok {directory : String} {o : AnalyzerOptions} {a : Analyzer}
    (h : build? directory o = some a) :
    a.files = o.files ∧ a.settings = o.settings ∧
      a.standard = (Charset.ofLabel? o.settings.analyzer.fallbackEncoding).getD .standard ∧
      a.rules = o.rules.filter fun r => o.settings.isEnabled r.name := by
  rw [build?] at h
  split at h
  · cases h
  · rw [← Option.some.inj h]
    simp only [and_self]

/-- Which files an analyzer scans does not depend on its rules. -/
theorem bind_targets?_rules (directory : String) (o : AnalyzerOptions) (rules : List Rule)
    (t : FileTree) :
    ((build? directory { o with rules }).bind fun a => a.targets? t) =
      (build? directory o).bind fun a => a.targets? t := by
  simp only [build?]
  split <;> rfl

theorem analyze_ok {a : Analyzer} {t : FileTree} {report : BatchReport}
    (h : a.analyze t = .ok report) :
    ∃ files scans, a.targets? t = some files ∧ Rule.Scanned a.rules a.standard t files scans ∧
      report = .ofReports (scans.map (FileReport.graded a.settings)) := by
  rw [analyze] at h
  split at h
  · cases h
  · next files hfiles =>
    split at h
    · cases h
    · next scans hscans =>
      cases h
      have hscanned := Rule.scanned_reports hscans
      exact ⟨files, scans, hfiles, hscanned, by rw [hscanned.judge]⟩

end Analyzer

namespace Check

/-- The encoding of files without a byte-order mark. -/
def charset (settings : Settings) : Charset :=
  (Charset.ofLabel? settings.analyzer.fallbackEncoding).getD .standard

/-- The files that a search below a directory finds, unless it fails. -/
def filesBelow (t : FileTree) (settings : Settings) (excludes : List String) (path : String) :
    Option (List String) :=
  (Analyzer.build? t.current.path { root := some path, excludes, settings }).bind fun a =>
    a.discover? t

/-- The files that a target stands for, unless they cannot be found. -/
def Target.files? (t : FileTree) (settings : Settings) (excludes : List String) (target : Target) :
    Option (List String) :=
  (Analyzer.build? t.current.path (target.options settings [] excludes)).bind fun a => a.targets? t

section

variable {t : FileTree} {settings : Settings} {chosen : Option (List String)}
  {excludes : List String}

theorem Target.files?_directory (path : String) :
    (Target.directory path).files? t settings excludes = filesBelow t settings excludes path := by
  refine Option.bind_congr fun a ha => ?_
  rw [Analyzer.targets?, (Analyzer.build?_ok ha).1]
  rfl

theorem Target.eq_of_files? {paths found : List String} (hpaths : paths ≠ [])
    (h : (Target.files paths).files? t settings excludes = some found) : found = paths := by
  obtain ⟨a, ha, hfound⟩ := Option.bind_eq_some_iff.mp h
  rw [Analyzer.targets?, (Analyzer.build?_ok ha).1] at hfound
  rw [if_neg (by simpa [options] using hpaths)] at hfound
  exact (Option.some.inj hfound).symm

theorem Target.targets?_of_build {target : Target} {rules : List Rule} {a : Analyzer}
    (h : Analyzer.build? t.current.path (target.options settings rules excludes) = some a) :
    a.targets? t = target.files? t settings excludes := by
  have hrules : target.options settings rules excludes =
      { target.options settings [] excludes with rules } := by
    cases target <;> rfl
  rw [hrules] at h
  rw [files?, ← Analyzer.bind_targets?_rules _ _ rules, h]
  rfl

theorem Target.settings_options (target : Target) (rules : List Rule) :
    (target.options settings rules excludes).settings = settings := by
  cases target <;> rfl

theorem Target.rules_options (target : Target) (rules : List Rule) :
    (target.options settings rules excludes).rules = rules := by
  cases target <;> rfl

theorem scanTarget_ok {target : Target} {report : BatchReport}
    (h : (scanTarget t settings chosen excludes target).outcome = .ok report) :
    ∃ files scans, target.files? t settings excludes = some files ∧
      Rule.Scanned (Rule.selected settings chosen) (charset settings) t files scans ∧
      report = .ofReports (scans.map (FileReport.graded settings)) := by
  rw [scanTarget] at h
  split at h
  · cases h
  · next a ha =>
    obtain ⟨_, hsettings, hstandard, hrules⟩ := Analyzer.build?_ok ha
    rw [Target.settings_options] at hsettings hstandard hrules
    rw [Target.rules_options, Rule.filter_selected] at hrules
    dsimp only at h
    split at h
    · next hreport =>
      cases h
      obtain ⟨files, scans, hfiles, hscans, rfl⟩ := Analyzer.analyze_ok hreport
      rw [Target.targets?_of_build ha] at hfiles
      rw [hrules, hstandard] at hscans
      exact ⟨files, scans, hfiles, hscans, by rw [hsettings]⟩
    · cases h

/-- Targets that are scanned one after the other are as one list of files. -/
theorem scanTargets_ok {targets : List Target} {report : BatchReport}
    (h : (scanTargets t settings chosen excludes targets).outcome = .ok report) :
    ∃ found scans,
      List.Forall₂ (fun target files => target.files? t settings excludes = some files)
        targets found ∧
      Rule.Scanned (Rule.selected settings chosen) (charset settings) t found.flatten scans ∧
      report = .ofReports (scans.map (FileReport.graded settings)) := by
  induction targets generalizing report with
  | nil =>
    cases h
    exact ⟨[], [], .nil, .nil, rfl⟩
  | cons target rest ih =>
    obtain ⟨first, hfirst, h⟩ := Logged.andThen_ok h
    obtain ⟨others, hothers, h⟩ := Logged.andThen_ok h
    cases h
    obtain ⟨files, scans, hfiles, hscans, rfl⟩ := scanTarget_ok hfirst
    obtain ⟨found, scans', hfound, hscans', rfl⟩ := ih hothers
    have hall := List.rel_append hscans hscans'
    refine ⟨files :: found, scans ++ scans', .cons hfiles hfound, hall, ?_⟩
    rw [BatchReport.append_ofReports, List.map_append]

/-- The directories come first, then the files that are named and listed. -/
theorem flatten_of_targets {paths listed : List String} {found : List (List String)}
    (h : List.Forall₂ (fun target files => Target.files? t settings excludes target = some files)
      (targets t paths listed) found) :
    ∃ below,
      List.Forall₂ (fun path files => filesBelow t settings excludes path = some files)
        (paths.filter t.isDirectory) below ∧
      found.flatten =
        below.flatten ++ (paths.filter fun path => !t.isDirectory path) ++ listed := by
  let directories := (paths.filter t.isDirectory).map Target.directory
  have hbelow := List.forall₂_take directories.length h
  have hnamed := List.forall₂_drop directories.length h
  rw [targets, List.take_left, List.forall₂_map_left_iff] at hbelow
  rw [targets, List.drop_left] at hnamed
  refine ⟨found.take directories.length, ?_, ?_⟩
  · simpa only [Target.files?_directory] using hbelow
  · rw [← List.take_append_drop directories.length found, List.flatten_append,
      List.take_append_drop, List.append_assoc]
    congr 1
    split at hnamed
    · next hempty =>
      rw [List.forall₂_nil_left_iff.mp hnamed, List.isEmpty_iff.mp hempty]
      rfl
    · next hempty =>
      obtain ⟨files, rest, hfiles, hrest, hcons⟩ := List.forall₂_cons_left_iff.mp hnamed
      rw [hcons, List.forall₂_nil_left_iff.mp hrest,
        Target.eq_of_files? (fun h => hempty (List.isEmpty_iff.mpr h)) hfiles]
      exact List.append_nil _

theorem filesOfProjects_ok {projects listed : List String}
    (h : (filesOfProjects t projects).outcome = .ok listed) :
    ∃ lists, listed = lists.flatten ∧
      List.Forall₂ (fun path files => ∃ p, Project.load t path = .ok p ∧ p.files t = .ok files)
        projects lists := by
  induction projects generalizing listed with
  | nil =>
    cases h
    exact ⟨[], rfl, .nil⟩
  | cons path rest ih =>
    obtain ⟨files, hfiles, h⟩ := Logged.andThen_ok h
    obtain ⟨others, hothers, h⟩ := Logged.andThen_ok h
    cases h
    obtain ⟨lists, rfl, hlists⟩ := ih hothers
    refine ⟨files :: lists, rfl, .cons ?_ hlists⟩
    rw [filesOfProject] at hfiles
    split at hfiles
    · cases hfiles
    · next p hload =>
      refine ⟨p, hload, ?_⟩
      dsimp only at hfiles
      split at hfiles
      · next hok =>
        cases hfiles
        exact hok
      · cases hfiles

end

/-- **The verdict of a check.** Give every violation that the scans of the files find the severity
of its rule in the settings, and `error` if they name none. A check that is completed lists the
files of the directories, the files that are named and those of the projects, each with what its
scan found and these severities; all else that the report and the exit code say is said of these
severities. -/
theorem run_verdict {t : FileTree} {e : Environment} {settingsFile : Option String}
    {o : CheckOptions} {report : BatchReport}
    (h : (run t e settingsFile o).outcome = .ok report) :
    ∃ (settings : Settings) (below lists : List (List String)) (scans : List FileReport),
      (Check.settings t
        (Settings.locate? t e settingsFile (o.paths ++ o.projects))).outcome = .ok settings ∧
      List.Forall₂ (fun path files => filesBelow t settings o.excludes path = some files)
        (o.paths.filter t.isDirectory) below ∧
      List.Forall₂ (fun path files => ∃ p, Project.load t path = .ok p ∧ p.files t = .ok files)
        o.projects lists ∧
      let files :=
        below.flatten ++ (o.paths.filter fun path => !t.isDirectory path) ++ lists.flatten
      let grades := (scans.flatMap FileReport.violations).map settings.grade
      Rule.Scanned (Rule.selected settings (o.rules.map Rule.chosenNames)) (charset settings) t
        files scans ∧
      report.results = scans.map (FileReport.graded settings) ∧
      report.results.map FileReport.file = files ∧
      report.filesChecked = files.length ∧
      report.tally =
        { errors := grades.count .error
          warnings := grades.count .warning
          infos := grades.count .info } ∧
      report.tally.errors + report.tally.warnings + report.tally.infos = report.count ∧
      (∀ severity, report.reaches severity = true ↔ ∃ grade ∈ grades, severity ≤ grade) ∧
      (report.isClean = true ↔ report.count = 0) ∧
      (Program.check t e settingsFile o).exitCode = if .error ∈ grades then 1 else 0 := by
  have hexit : (Program.check t e settingsFile o).exitCode = Program.verdict report := by
    simp only [Program.check, h]
  obtain ⟨settings, hsettings, h⟩ := Logged.andThen_ok h
  obtain ⟨_, _, h⟩ := Logged.andThen_ok h
  obtain ⟨listed, hlisted, h⟩ := Logged.andThen_ok h
  obtain ⟨lists, rfl, hlists⟩ := filesOfProjects_ok hlisted
  obtain ⟨found, scans, hfound, hscans, rfl⟩ := scanTargets_ok h
  obtain ⟨below, hbelow, hflat⟩ := flatten_of_targets hfound
  rw [hflat] at hscans
  refine ⟨settings, below, lists, scans, hsettings, hbelow, hlists, ?_⟩
  intro files grades
  have hgrades := BatchReport.severities_graded settings scans
  have hfiles : scans.map FileReport.file = files := Rule.Scanned.files hscans
  refine ⟨hscans, rfl, ?_, ?_, ?_, BatchReport.sum_tally _, ?_, BatchReport.isClean_iff _, ?_⟩
  · rw [← hfiles]
    exact List.map_map
  · rw [← hfiles]
    simp [BatchReport.ofReports]
  · rw [BatchReport.tally_eq, hgrades]
  · intro severity
    rw [BatchReport.reaches_iff, hgrades]
  · rw [hexit, Program.verdict]
    simp only [BatchReport.hasErrors_iff, hgrades]
    rfl

/-- A directory with a file, beside settings that grade two kinds of violations down. -/
def downgradedTree : FileTree where
  nodes := [
    (["s"], .file (Utf8.bytes
      "[rules]\nfile-not-found.severity='info'\nidentifier-too-short.severity='warning'")),
    (["d"], .directory),
    (["d", "b.cs"], .file (Utf8.bytes "x;"))]

theorem run_verdict_downgraded :
    let o : CheckOptions := { paths := ["/gone.cs", "/d"] }
    let report : BatchReport := .ofReports
      [ { file := "/d/b.cs"
          violations := [{
            kind := .identifierTooShort
            severity := .warning
            line := some 1
            message := "Identifier 'x' is 1 characters long (min: 3)"
            sourceLine := "x;"
            suggestion := some "Use a descriptive name" }] },
        { file := "/gone.cs"
          violations := [{
            kind := .fileNotFound
            severity := .info
            line := none
            message := "No such file or directory (os error 2)"
            sourceLine := "/gone.cs" }] } ]
    (run downgradedTree {} (some "/s") o).outcome = .ok report ∧
      (Program.check downgradedTree {} (some "/s") o).exitCode = 0 ∧
      ∃ (settings : Settings) (scans : List FileReport),
        report.results = scans.map (FileReport.graded settings) ∧
        ∀ severity, report.reaches severity = true ↔
          ∃ grade ∈ (scans.flatMap FileReport.violations).map settings.grade, severity ≤ grade := by
  intro o report
  have hrun : (run downgradedTree {} (some "/s") o).outcome = .ok report := by decide +kernel
  obtain ⟨settings, _, _, scans, _, _, _, _, hresults, _, _, _, _, hreaches, _, hexit⟩ :=
    run_verdict hrun
  refine ⟨hrun, ?_, settings, scans, hresults, hreaches⟩
  rw [hexit, if_neg]
  intro herror
  have hreached : report.reaches .error = true := (hreaches .error).mpr ⟨.error, herror, by decide⟩
  exact absurd hreached (by decide)

end Check
end StyleScan
