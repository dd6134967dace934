import StyleScan.Analyzer
import StyleScan.Proofs.Project.Spelling

/-!
# StyleScan.Proofs.Analyzer.Relocation

What the place of a tree has to do with the files that are left out of it. A pattern is tried on the
path below the root and on the whole path, so a pattern that begins with a wildcard can match the
names of the root.

* `Path.IsName`, `Path.descend_eq` — the path of an entry is the text of the root and that of the
  names below it.
* `Glob.EntersRoot`      — the first token of a pattern ends inside the root.
* `Glob.matchesAll_root` — a pattern that matches behind a root matches the rest alone, or enters
  the root.
* `Analyzer.excludes_iff` — which files are left out, by patterns on the path below the root and by
  patterns that enter the root.
* `Analyzer.excludes_relocated` — when two roots leave out the same files.
-/

namespace StyleScan

/-! ## Paths below a root -/

namespace Path

/-- The name of an entry of a directory. -/
structure IsName (name : String) : Prop where
  isStep : isStep name = true
  notParent : name ≠ ".."
  noSlash : '/' ∉ name.toList

instance (name : String) : Decidable (IsName name) :=
  decidable_of_iff (isStep name = true ∧ name ≠ ".." ∧ '/' ∉ name.toList)
    ⟨fun h => ⟨h.1, h.2.1, h.2.2⟩, fun h => ⟨h.isStep, h.notParent, h.noSlash⟩⟩

/-- A path below a root, by its names. -/
def IsRelative (names : List String) : Prop := names ≠ [] ∧ ∀ name ∈ names, IsName name

instance (names : List String) : Decidable (IsRelative names) :=
  inferInstanceAs (Decidable (names ≠ [] ∧ ∀ name ∈ names, IsName name))

/-- A root with the slash behind it. -/
theorem join_empty (dir : String) :
    join dir "" =
      if dir.isEmpty || dir.toList.getLast? == some '/' then dir else dir ++ "/" := by
  rw [join, if_neg (by decide)]
  split <;> simp

section Name

variable {name : String} (h : IsName name)
include h

theorem IsName.toList_ne_nil : name.toList ≠ [] := by
  intro hnil
  have hempty : name = "" := String.toList_eq_nil_iff.mp hnil
  have hstep := h.isStep
  rw [hempty] at hstep
  revert hstep
  decide

theorem IsName.isAbsolute_eq : isAbsolute name = false := by
  obtain ⟨c, cs, hname⟩ := List.exists_cons_of_ne_nil h.toList_ne_nil
  have hslash := h.noSlash
  rw [hname, List.mem_cons, not_or] at hslash
  simp [isAbsolute, hname, Ne.symm hslash.1]

theorem join_name (dir : String) : join dir name = join dir "" ++ name := by
  rw [join_empty, join, h.isAbsolute_eq]
  split
  · contradiction
  · split <;> rfl

/-- Behind a name stands no slash yet. -/
theorem join_behind_name (before : String) : join (before ++ name) "" = before ++ name ++ "/" := by
  have hne := h.toList_ne_nil
  have hempty : (before ++ name).isEmpty = false := by
    rw [Bool.eq_false_iff, Ne, String.isEmpty_iff, ← String.toList_eq_nil_iff]
    simp [hne]
  have hlast : (before ++ name).toList.getLast? ≠ some '/' := by
    rw [String.toList_append, List.getLast?_append, List.getLast?_eq_some_getLast hne]
    intro hlast
    exact h.noSlash (Option.some.inj hlast ▸ List.getLast_mem hne)
  rw [join_empty, hempty, Bool.false_or, if_neg]
  rwa [beq_iff_eq]

end Name

theorem foldl_join {name : String} (h : IsName name) {names : List String}
    (hnames : ∀ name ∈ names, IsName name) (before : String) :
    names.foldl join (before ++ name) = before ++ "/".intercalate (name :: names) := by
  induction names generalizing before name with
  | nil => simp
  | cons next names ih =>
    rw [List.forall_mem_cons] at hnames
    rw [List.foldl_cons, join_name hnames.1, join_behind_name h, ih hnames.1 hnames.2,
      String.intercalate_cons_cons]
    simp [String.append_assoc]

theorem descend_eq {names : List String} (h : IsRelative names) (root : String) :
    descend root names = join root "" ++ "/".intercalate names := by
  obtain ⟨hne, hnames⟩ := h
  cases names with
  | nil => exact absurd rfl hne
  | cons name names =>
    rw [List.forall_mem_cons] at hnames
    rw [descend, List.foldl_cons, join_name hnames.1, foldl_join hnames.1 hnames.2]

theorem exists_join_empty {dir : String} (h : dir ≠ "") :
    ∃ before, join dir "" = before ++ "/" := by
  have hempty : dir.isEmpty = false := by
    rwa [Bool.eq_false_iff, Ne, String.isEmpty_iff]
  rw [join_empty, hempty, Bool.false_or]
  split
  · next hlast =>
    obtain ⟨before, hbefore⟩ := List.getLast?_eq_some_iff.mp (beq_iff_eq.mp hlast)
    refine ⟨String.ofList before, ?_⟩
    rw [← String.toList_inj]
    simp [hbefore]
  · exact ⟨dir, rfl⟩

end Path

theorem Text.fields_concat {α : Type} [DecidableEq α] {sep : α} {piece : List α} (h : sep ∉ piece)
    (cs : List α) : fields sep (cs ++ sep :: piece) = fields sep cs ++ [piece] := by
  induction cs with
  | nil => simp [fields, fields_of_not_mem h]
  | cons c cs ih =>
    rw [List.cons_append, fields, fields, ih]
    by_cases hc : c = sep
    · rw [if_pos hc, if_pos hc, List.cons_append]
    · obtain ⟨pieces, last, hcs, _⟩ := fields_append (show sep ∉ [] from List.not_mem_nil) cs
      rw [if_neg hc, if_neg hc, hcs]
      cases pieces <;> rfl

namespace Path

theorem fileName?_behind_slash {name : String} (h : IsName name) (before : String) :
    fileName? (before ++ "/" ++ name) = some name := by
  have hsplit : Text.split '/' (before ++ "/" ++ name) = Text.split '/' before ++ [name] := by
    rw [Text.split, String.toList_append, String.toList_append, List.append_assoc]
    rw [show "/".toList = ['/'] from rfl, List.singleton_append, Text.fields_concat h.noSlash]
    simp [Text.split]
  have hstart : ∃ pieces, (start (before ++ "/" ++ name)).2 = pieces ++ [name] := by
    obtain ⟨init, last, hbefore, -⟩ :=
      Text.split_append (show '/' ∉ "".toList from List.not_mem_nil) before
    rw [start, hsplit]
    cases hpieces : Text.split '/' before with
    | nil => simp [hpieces] at hbefore
    | cons first pieces =>
      rw [List.cons_append]
      split
      · next heq =>
        obtain ⟨-, rfl⟩ := List.cons.inj heq
        exact ⟨pieces, by split <;> rfl⟩
      · next heq =>
        obtain ⟨-, rfl⟩ := List.cons.inj heq
        exact ⟨pieces, rfl⟩
      · exact ⟨first :: pieces, rfl⟩
  obtain ⟨pieces, hpieces⟩ := hstart
  have hstep : step name = .name name := by
    rw [step, if_neg]
    simpa using h.notParent
  simp [fileName?, components, hpieces, h.isStep, hstep]

theorem descend_ne_empty {names : List String} (h : ∀ name ∈ names, IsName name) {root : String}
    (hroot : root ≠ "") : descend root names ≠ "" := by
  induction names generalizing root with
  | nil => exact hroot
  | cons name names ih =>
    rw [List.forall_mem_cons] at h
    refine ih h.2 ?_
    rw [join_name h.1, Ne, ← String.toList_eq_nil_iff]
    simp [h.1.toList_ne_nil]

theorem ne_empty_of_isAbsolute {root : String} (h : isAbsolute root = true) : root ≠ "" := by
  rintro rfl
  revert h
  decide

/-- The extension of a file does not depend on the root. -/
theorem extension?_descend {names : List String} (h : IsRelative names) {root : String}
    (hroot : isAbsolute root = true) :
    extension? (descend root names) = names.getLast?.bind nameExtension? := by
  obtain ⟨names, name, rfl⟩ := List.eq_nil_or_concat names |>.resolve_left h.1
  rw [List.concat_eq_append] at h ⊢
  have hname := h.2 name (by simp)
  have hdir := descend_ne_empty (fun name hmem => h.2 name (List.mem_append_left _ hmem))
    (ne_empty_of_isAbsolute hroot)
  obtain ⟨before, hbefore⟩ := exists_join_empty hdir
  have hpath : descend root (names ++ [name]) = before ++ "/" ++ name := by
    rw [descend, List.foldl_append, List.foldl_cons, List.foldl_nil, join_name hname]
    exact congrArg (· ++ name) hbefore
  rw [extension?, hpath, fileName?_behind_slash hname]
  simp

end Path

/-! ## Patterns behind a root -/

namespace Glob

/-- The first token of a pattern takes its share inside the root, and the rest of the pattern
matches what is left of the root and all that stands behind it. -/
def EntersRoot (g : Glob) (root rel : List Char) : Prop :=
  ∃ token tokens taken left, g = token :: tokens ∧ root = taken ++ left ∧
    left ++ rel ∈ token.rests (root ++ rel) ∧ matchesAll tokens (left ++ rel) = true

theorem mem_tails_append {as bs v : List Char} (h : v ∈ Text.tails (as ++ bs)) :
    (∃ taken left, as = taken ++ left ∧ v = left ++ bs) ∨ v ∈ Text.tails bs := by
  induction as with
  | nil => exact .inr h
  | cons a as ih =>
    rcases List.mem_cons.mp h with rfl | h
    · exact .inl ⟨[], a :: as, rfl, rfl⟩
    · refine (ih h).imp_left ?_
      rintro ⟨taken, left, rfl, rfl⟩
      exact ⟨a :: taken, left, rfl, rfl⟩

theorem mem_afterSlashes_append {as bs v : List Char} (h : v ∈ afterSlashes (as ++ bs)) :
    (∃ taken left, as = taken ++ left ∧ v = left ++ bs) ∨ v ∈ afterSlashes bs := by
  induction as with
  | nil => exact .inr h
  | cons a as ih =>
    have hcases : v = as ++ bs ∨ v ∈ afterSlashes (as ++ bs) := by
      rw [List.cons_append, afterSlashes] at h
      split at h
      · exact List.mem_cons.mp h
      · exact .inr h
    rcases hcases with rfl | h
    · exact .inl ⟨[a], as, rfl, rfl⟩
    · refine (ih h).imp_left ?_
      rintro ⟨taken, left, rfl, rfl⟩
      exact ⟨a :: taken, left, rfl, rfl⟩

/-- A token that takes its share from the front of a root and more ends inside the root, or takes
what it takes behind the root from there alone. -/
theorem Token.mem_rests_append {token : Token} {root rel v : List Char} (hroot : root ≠ [])
    (h : v ∈ token.rests (root ++ rel)) :
    (∃ taken left, root = taken ++ left ∧ v = left ++ rel) ∨ v ∈ token.rests rel := by
  obtain ⟨c, cs, rfl⟩ := List.exists_cons_of_ne_nil hroot
  have hone (hv : v = cs ++ rel) : ∃ taken left, c :: cs = taken ++ left ∧ v = left ++ rel :=
    ⟨[c], cs, rfl, hv⟩
  cases token with
  | anySequence => exact mem_tails_append h
  | anyDirectories =>
    simp only [rests, List.mem_append, List.mem_cons, List.not_mem_nil, or_false] at h ⊢
    rcases h with (rfl | h) | rfl
    · exact .inl ⟨[], c :: cs, rfl, rfl⟩
    · exact (mem_afterSlashes_append h).imp_right fun h => .inl (.inr h)
    · exact .inr (.inr rfl)
  | anyChar => exact .inl (hone (List.mem_singleton.mp h))
  | char d =>
    simp only [List.cons_append, rests] at h
    split at h
    · exact .inl (hone (List.mem_singleton.mp h))
    · cases h
  | oneOf negated ranges =>
    simp only [List.cons_append, rests] at h
    split at h
    · exact .inl (hone (List.mem_singleton.mp h))
    · cases h

theorem matchesAll_of_entersRoot {g : Glob} {root rel : List Char} (h : g.EntersRoot root rel) :
    matchesAll g (root ++ rel) = true := by
  obtain ⟨token, tokens, taken, left, rfl, _, hrests, htokens⟩ := h
  rw [matchesAll, List.any_eq_true]
  exact ⟨_, hrests, htokens⟩

/-- A pattern that matches behind a root matches the rest alone, or enters the root. -/
theorem matchesAll_root {g : Glob} {root rel : List Char} (hroot : root ≠ [])
    (h : matchesAll g (root ++ rel) = true) : g.EntersRoot root rel ∨ matchesAll g rel = true := by
  cases g with
  | nil => simp [matchesAll, hroot] at h
  | cons token tokens =>
    rw [matchesAll, List.any_eq_true] at h
    obtain ⟨v, hv, htokens⟩ := h
    rcases Token.mem_rests_append hroot hv with ⟨taken, left, hsplit, rfl⟩ | hrel
    · exact .inl ⟨token, tokens, taken, left, rfl, hsplit, hv, htokens⟩
    · right
      rw [matchesAll, List.any_eq_true]
      exact ⟨v, hrel, htokens⟩

/-! ## Wildcards -/

/-- The characters that begin a wildcard. -/
def wildcards : List Char := ['*', '?', '[']

/-- A pattern begins with a wildcard, or with a character that stands for itself. -/
theorem head_of_parse? {pattern : String} {token : Token} {tokens : List Token}
    (h : parse? pattern = some (token :: tokens)) :
    ∃ c, pattern.toList.head? = some c ∧ (c ∈ wildcards ∨ token = .char c) := by
  rw [parse?] at h
  generalize pattern.toList = cs at h ⊢
  rw [tokens?.eq_def] at h
  split at h
  · cases h
  · cases h
  · exact ⟨'*', rfl, .inl (by decide)⟩
  · exact ⟨'*', rfl, .inl (by decide)⟩
  · exact ⟨'*', rfl, .inl (by decide)⟩
  · exact ⟨'?', rfl, .inl (by decide)⟩
  · exact ⟨'[', rfl, .inl (by decide)⟩
  · next c rest _ _ _ _ _ _ =>
    obtain ⟨_, -, heq⟩ := Option.map_eq_some_iff.mp h
    exact ⟨c, rfl, .inr (List.cons.inj heq).1.symm⟩

/-- Only a pattern that begins with a wildcard or with a slash enters a root. -/
theorem wildcard_of_entersRoot {pattern : String} {g : Glob} (hparse : parse? pattern = some g)
    {root rel : List Char} (hroot : root.head? = some '/') (h : g.EntersRoot root rel) :
    ∃ c, pattern.toList.head? = some c ∧ (c ∈ wildcards ∨ c = '/') := by
  obtain ⟨token, tokens, taken, left, rfl, _, hrests, _⟩ := h
  obtain ⟨c, hc, hwild | rfl⟩ := head_of_parse? hparse
  · exact ⟨c, hc, .inl hwild⟩
  · refine ⟨c, hc, .inr ?_⟩
    obtain ⟨cs, rfl⟩ := List.head?_eq_some_iff.mp hroot
    simp only [List.cons_append, Token.rests] at hrests
    split at hrests
    · assumption
    · cases hrests

end Glob

/-! ## Files that are left out -/

/-- All patterns of the files to leave out. -/
def AnalyzerOptions.patterns (o : AnalyzerOptions) : List String :=
  o.excludes ++ o.settings.analyzer.exclude

namespace Analyzer

/-- A pattern matches the path of a file below the root. -/
def MatchesBelow (o : AnalyzerOptions) (names : List String) : Prop :=
  ∃ pattern ∈ o.patterns, ∃ g, Glob.parse? pattern = some g ∧
    g.accepts ("/".intercalate names) = true

/-- A pattern that begins with a wildcard enters the root on its way to a file. -/
def EntersRoot (o : AnalyzerOptions) (root : String) (names : List String) : Prop :=
  ∃ pattern ∈ o.patterns, (∃ c ∈ Glob.wildcards, pattern.toList.head? = some c) ∧
    ∃ g, Glob.parse? pattern = some g ∧
      g.EntersRoot (Path.join root "").toList ("/".intercalate names).toList

theorem mem_of_mapM_parse? {patterns : List String} {gs : List Glob}
    (h : patterns.mapM Glob.parse? = some gs) (g : Glob) :
    g ∈ gs ↔ ∃ pattern ∈ patterns, Glob.parse? pattern = some g := by
  induction patterns generalizing gs with
  | nil =>
    cases h
    simp
  | cons pattern patterns ih =>
    rw [List.mapM_cons] at h
    obtain ⟨first, hfirst, h⟩ := Option.bind_eq_some_iff.mp h
    obtain ⟨others, hothers, h⟩ := Option.bind_eq_some_iff.mp h
    cases h
    simp [ih hothers, hfirst, eq_comm]

theorem build?_rooted {directory root : String} {o : AnalyzerOptions} {a : Analyzer}
    (hroot : Path.isAbsolute root = true)
    (h : build? directory { o with root := some root } = some a) :
    a.root = root ∧ o.patterns.mapM Glob.parse? = some a.patterns ∧
      a.extensions = o.extensions.getD o.settings.analyzer.extensions ∧
      a.settings = o.settings := by
  rw [build?] at h
  split at h
  · cases h
  · next gs hgs =>
    rw [← Option.some.inj h]
    exact ⟨by simp [absolute, hroot], hgs, rfl, rfl⟩

/-- A file is left out by a pattern on its path below the root, or by one that enters the root. -/
theorem excludes_iff {directory root : String} {o : AnalyzerOptions} {a : Analyzer}
    (hroot : Path.isAbsolute root = true)
    (ha : build? directory { o with root := some root } = some a)
    (ho : ∀ pattern ∈ o.patterns, pattern.toList.head? ≠ some '/')
    {names : List String} (hnames : Path.IsRelative names) :
    a.excludes names = true ↔ MatchesBelow o names ∨ EntersRoot o root names := by
  obtain ⟨rfl, hpatterns, -, -⟩ := build?_rooted hroot ha
  obtain ⟨cs, hcs⟩ : ∃ cs, (Path.join a.root "").toList = '/' :: cs := by
    obtain ⟨cs, hcs⟩ := List.head?_eq_some_iff.mp (beq_iff_eq.mp hroot)
    rw [Path.join_empty]
    split
    · exact ⟨cs, hcs⟩
    · exact ⟨cs ++ ['/'], by simp [hcs]⟩
  have hpath (g : Glob) : g.accepts (Path.descend a.root names) =
      g.matchesAll ((Path.join a.root "").toList ++ ("/".intercalate names).toList) := by
    rw [Path.descend_eq hnames, Glob.accepts, String.toList_append]
  rw [excludes, List.any_eq_true]
  constructor
  · rintro ⟨g, hg, haccepts⟩
    obtain ⟨pattern, hpattern, hparse⟩ := (mem_of_mapM_parse? hpatterns g).mp hg
    rw [Bool.or_eq_true, hpath] at haccepts
    have hcases : g.EntersRoot (Path.join a.root "").toList ("/".intercalate names).toList ∨
        g.accepts ("/".intercalate names) = true :=
      haccepts.elim (Glob.matchesAll_root (by simp [hcs])) .inr
    rcases hcases with henters | hbelow
    · right
      obtain ⟨c, hc, hwild | rfl⟩ := Glob.wildcard_of_entersRoot hparse (by simp [hcs]) henters
      · exact ⟨pattern, hpattern, ⟨c, hwild, hc⟩, g, hparse, henters⟩
      · exact absurd hc (ho pattern hpattern)
    · exact .inl ⟨pattern, hpattern, g, hparse, hbelow⟩
  · rintro (⟨pattern, hpattern, g, hparse, hbelow⟩ | ⟨pattern, hpattern, -, g, hparse, henters⟩)
    · refine ⟨g, (mem_of_mapM_parse? hpatterns g).mpr ⟨pattern, hpattern, hparse⟩, ?_⟩
      rw [hbelow, Bool.or_true]
    · refine ⟨g, (mem_of_mapM_parse? hpatterns g).mpr ⟨pattern, hpattern, hparse⟩, ?_⟩
      rw [hpath, Glob.matchesAll_of_entersRoot henters, Bool.true_or]

/-- The place of a root makes no difference to a file: a pattern matches its path below the root, or
patterns enter both roots or neither. -/
def Indifferent (o : AnalyzerOptions) (root root' : String) (names : List String) : Prop :=
  MatchesBelow o names ∨ (EntersRoot o root names ↔ EntersRoot o root' names)

/-- **A tree that is moved keeps the files that are scanned, unless patterns enter its root.** Take
patterns that do not start with a slash, and two roots. A file is left out if a pattern matches its
path below the root, or if a pattern that begins with a wildcard ends that wildcard inside the root
and matches all that follows. So both roots leave out the same files, exactly if for each file a
pattern matches its path below the root, or patterns enter both roots or neither; and if this holds
of all files that are found, the same files are scanned. -/
theorem excludes_relocated {o : AnalyzerOptions}
    (ho : ∀ pattern ∈ o.patterns, pattern.toList.head? ≠ some '/')
    {directory directory' root root' : String} {a a' : Analyzer}
    (hroot : Path.isAbsolute root = true) (hroot' : Path.isAbsolute root' = true)
    (ha : build? directory { o with root := some root } = some a)
    (ha' : build? directory' { o with root := some root' } = some a') :
    (∀ names, Path.IsRelative names →
      (a.excludes names = true ↔ MatchesBelow o names ∨ EntersRoot o root names) ∧
      (a.excludes names = a'.excludes names ↔ Indifferent o root root' names)) ∧
    ∀ (t t' : FileTree) (found : List (List String)),
      t.walk? o.settings.analyzer.respectGitignore root = some found →
      t'.walk? o.settings.analyzer.respectGitignore root' = some found →
      (∀ names ∈ found, Path.IsRelative names ∧ Indifferent o root root' names) →
      ∃ chosen : List (List String), chosen.Sublist found ∧
        a.discover? t = some ((chosen.map (Path.descend root)).mergeSort Path.le) ∧
        a'.discover? t' = some ((chosen.map (Path.descend root')).mergeSort Path.le) := by
  have hexcludes : ∀ names, Path.IsRelative names →
      (a.excludes names = a'.excludes names ↔ Indifferent o root root' names) := by
    intro names hnames
    rw [Bool.eq_iff_iff, excludes_iff hroot ha ho hnames, excludes_iff hroot' ha' ho hnames]
    rw [Indifferent]
    by_cases hbelow : MatchesBelow o names <;> simp [hbelow]
  refine ⟨fun names hnames => ⟨excludes_iff hroot ha ho hnames, hexcludes names hnames⟩, ?_⟩
  intro t t' found hwalk hwalk' hfound
  obtain ⟨rfl, -, hextensions, hsettings⟩ := build?_rooted hroot ha
  obtain ⟨rfl, -, hextensions', hsettings'⟩ := build?_rooted hroot' ha'
  have hchosen : (found.filter fun names =>
        a.scansExtension (Path.descend a.root names) && !a.excludes names) =
      found.filter fun names =>
        a'.scansExtension (Path.descend a'.root names) && !a'.excludes names := by
    refine List.filter_congr fun names hmem => ?_
    obtain ⟨hnames, hsame⟩ := hfound names hmem
    have hextension : a.scansExtension (Path.descend a.root names) =
        a'.scansExtension (Path.descend a'.root names) := by
      rw [scansExtension, scansExtension, Path.extension?_descend hnames hroot,
        Path.extension?_descend hnames hroot', hextensions, hextensions']
    rw [hextension, (hexcludes names hnames).mpr hsame]
  refine ⟨found.filter fun names =>
    a.scansExtension (Path.descend a.root names) && !a.excludes names, List.filter_sublist, ?_, ?_⟩
  · rw [discover?, hsettings, hwalk]
    rfl
  · rw [hchosen, discover?, hsettings', hwalk']
    rfl

/-- A root with a file, and with a file below `bin`. -/
def movedTree (root : Location) : FileTree where
  nodes := [
    (root, .directory),
    (root ++ ["A.cs"], .file []),
    (root ++ ["bin"], .directory),
    (root ++ ["bin", "B.cs"], .file [])]

theorem excludes_relocated_moved :
    ∃ a a' : Analyzer,
      build? "/" { root := some "/src" } = some a ∧ build? "/" { root := some "/lib/" } = some a' ∧
      a.excludes ["bin", "B.cs"] = a'.excludes ["bin", "B.cs"] ∧
      ∃ chosen : List (List String),
        a.discover? (movedTree ["src"]) =
          some ((chosen.map (Path.descend "/src")).mergeSort Path.le) ∧
        a'.discover? (movedTree ["lib"]) =
          some ((chosen.map (Path.descend "/lib/")).mergeSort Path.le) := by
  have hbuilt : ((build? "/" { root := some "/src" }).map fun a =>
      (a.excludes ["A.cs"], a.excludes ["bin", "B.cs"])) = some (false, true) := by decide +kernel
  have hbuilt' : ((build? "/" { root := some "/lib/" }).map fun a =>
      (a.excludes ["A.cs"], a.excludes ["bin", "B.cs"])) = some (false, true) := by decide +kernel
  obtain ⟨a, ha, hexcludes⟩ := Option.map_eq_some_iff.mp hbuilt
  obtain ⟨a', ha', hexcludes'⟩ := Option.map_eq_some_iff.mp hbuilt'
  rw [Prod.mk.injEq] at hexcludes hexcludes'
  obtain ⟨hbelow, hscanned⟩ :=
    excludes_relocated (o := {}) (by decide) (by decide) (by decide) ha ha'
  have hsame : ∀ names ∈ [["A.cs"], ["bin", "B.cs"]],
      Path.IsRelative names ∧ Indifferent {} "/src" "/lib/" names := by
    simp only [List.forall_mem_cons, List.not_mem_nil, false_implies, implies_true, and_true]
    refine ⟨⟨by decide, (hbelow _ (by decide)).2.mp ?_⟩, by decide, (hbelow _ (by decide)).2.mp ?_⟩
    · rw [hexcludes.1, hexcludes'.1]
    · rw [hexcludes.2, hexcludes'.2]
  obtain ⟨chosen, -, hchosen⟩ := hscanned (movedTree ["src"]) (movedTree ["lib"])
    [["A.cs"], ["bin", "B.cs"]] (by decide +kernel) (by decide +kernel) hsame
  exact ⟨a, a', ha, ha', hexcludes.2.trans hexcludes'.2.symm, chosen, hchosen⟩

/-- The path of the root is matched like any other: below a root of that name, a pattern that leaves
out the files of `bin` leaves out everything. -/
theorem excludes_depends_on_root :
    (∀ pattern ∈ ({} : AnalyzerOptions).patterns, pattern.toList.head? ≠ some '/') ∧
      ((build? "/" { root := some "/bin" }).map fun a => a.excludes ["A.cs"]) = some true ∧
      ((build? "/" { root := some "/lib" }).map fun a => a.excludes ["A.cs"]) = some false := by
  decide +kernel

end Analyzer
end StyleScan
