import StyleScan.Proofs.Project.Spelling
import StyleScan.Proofs.Project.Walk

/-!
# StyleScan.Proofs.Project.Preorder

The files of a project are those of everything it imports, depth first.

* `Project.Reaches`   — the paths that imports lead to, through projects that can be opened.
* `Project.next?`     — where a depth-first search goes from the paths it has visited.
* `Project.Preorder`  — the paths in the order in which a depth-first search visits them.
* `Project.survey`    — the same as a computation, past everything that cannot be opened.
* `Project.ImportsByPlace` — what an import leads to depends on the place of the project only.
* `Project.files_ok_iff` — the files of a project are those of what is visited, if all of it opens.
* `Project.files_error_iff` — a fault is the first that is met.
* `Project.files_preorder` — the files of a project, or the first fault, in that order.
-/

namespace StyleScan

/-! ## Results in order -/

section Results

variable {α β ε : Type} {f : α → Except ε β} {a : α} {b : β} {e : ε} {as : List α}

theorem mapM_cons_ok (h : f a = .ok b) : (a :: as).mapM f = (as.mapM f).map (b :: ·) := by
  rw [List.mapM_cons, h]
  cases as.mapM f <;> rfl

theorem mapM_cons_error (h : f a = .error e) : (a :: as).mapM f = .error e := by
  rw [List.mapM_cons, h]
  rfl

/-- All results are there exactly if each is. -/
theorem mapM_eq_ok_iff {bs : List β} : as.mapM f = .ok bs ↔ as.map f = bs.map .ok := by
  induction as generalizing bs with
  | nil => cases bs <;> simp [pure, Except.pure]
  | cons a as ih =>
    cases ha : f a with
    | error e =>
      rw [mapM_cons_error ha]
      cases bs <;> simp [ha]
    | ok b =>
      rw [mapM_cons_ok ha]
      cases bs with
      | nil => cases as.mapM f <;> simp [Except.map]
      | cons b' bs =>
        rw [List.map_cons, List.map_cons, ha, List.cons.injEq, Except.ok.injEq, ← ih]
        cases as.mapM f <;> simp [Except.map]

theorem mapM_of_error {before after : List α} (hbefore : ∀ x ∈ before, (f x).isOk)
    (h : f a = .error e) : (before ++ a :: after).mapM f = .error e := by
  induction before with
  | nil => exact mapM_cons_error h
  | cons x before ih =>
    rw [List.forall_mem_cons] at hbefore
    cases hx : f x with
    | error e => rw [hx] at hbefore; cases hbefore.1
    | ok b =>
      rw [List.cons_append, mapM_cons_ok hx, ih hbefore.2]
      rfl

/-- All results are there, or the first that is missing tells why. -/
theorem mapM_cases (f : α → Except ε β) (as : List α) :
    (∃ bs : List β, as.map f = bs.map .ok) ∨
      ∃ before a after e, as = before ++ a :: after ∧ (∀ x ∈ before, (f x).isOk) ∧
        f a = .error e ∧ as.mapM f = .error e := by
  induction as with
  | nil => exact .inl ⟨[], rfl⟩
  | cons a as ih =>
    cases ha : f a with
    | error e => exact .inr ⟨[], a, as, e, rfl, by simp, ha, mapM_cons_error ha⟩
    | ok b =>
      rcases ih with ⟨bs, hbs⟩ | ⟨before, x, after, e, rfl, hbefore, hx, hmapM⟩
      · exact .inl ⟨b :: bs, by simp [ha, hbs]⟩
      · refine .inr ⟨a :: before, x, after, e, rfl, ?_, hx, ?_⟩
        · exact List.forall_mem_cons.mpr ⟨by rw [ha]; rfl, hbefore⟩
        · rw [mapM_cons_ok ha, hmapM]
          rfl

end Results

namespace Project

/-! ## Depth-first search -/

/-- The paths that the project at a path imports. What cannot be opened imports nothing. -/
def importsAt (t : FileTree) (path : String) : List String :=
  match load t path with
  | .ok p => p.importPaths
  | .error _ => []

/-- The paths that imports lead to from a path, through projects that can be opened. -/
inductive Reaches (t : FileTree) (origin : String) : String → Prop where
  | origin : Reaches t origin origin
  | imported {path child : String} :
      Reaches t origin path → child ∈ importsAt t path → Reaches t origin child

/-- Whether a path leads to none of the given places. -/
def isNew (t : FileTree) (met : List Identity) (path : String) : Bool :=
  !met.contains (t.identity path)

/-- Where a depth-first search goes next: of the last visited path that imports something new, to
the first new import. -/
def next? (t : FileTree) (paths : List String) : Option String :=
  (paths.reverse.flatMap (importsAt t)).find? (isNew t (paths.map t.identity))

/-- The paths that a depth-first search has visited so far, in order. -/
inductive Preorder (t : FileTree) (origin : String) : List String → Prop where
  | origin : Preorder t origin [origin]
  | next {paths : List String} {path : String} :
      Preorder t origin paths → next? t paths = some path → Preorder t origin (paths ++ [path])

variable {t : FileTree} {origin path child : String} {paths : List String} {p p' : Project}

theorem importsAt_ok (h : load t path = .ok p) : importsAt t path = p.importPaths := by
  rw [importsAt, h]

theorem importsAt_error {fault : ProjectFault} (h : load t path = .error fault) :
    importsAt t path = [] := by
  rw [importsAt, h]

theorem mem_importsAt :
    child ∈ importsAt t path ↔
      ∃ p, load t path = .ok p ∧ ∃ item ∈ p.imports, child = Path.join p.directory item := by
  cases h : load t path with
  | ok p => simp [importsAt_ok h, importPaths, eq_comm]
  | error fault => simp [importsAt_error h]

theorem isNew_iff {met : List Identity} : isNew t met path = true ↔ t.identity path ∉ met := by
  simp [isNew]

theorem next?_some (h : next? t paths = some path) :
    t.identity path ∉ paths.map t.identity ∧ ∃ above ∈ paths, path ∈ importsAt t above := by
  refine ⟨isNew_iff.mp (List.find?_some h), ?_⟩
  obtain ⟨above, habove, hpath⟩ := List.mem_flatMap.mp (List.mem_of_find?_eq_some h)
  exact ⟨above, List.mem_reverse.mp habove, hpath⟩

theorem next?_none (h : next? t paths = none) (hpath : path ∈ paths)
    (hchild : child ∈ importsAt t path) :
    t.identity child ∈ paths.map t.identity := by
  by_contra hnew
  refine absurd (isNew_iff.mpr hnew) (List.find?_eq_none.mp h child ?_)
  exact List.mem_flatMap.mpr ⟨path, List.mem_reverse.mpr hpath, hchild⟩

namespace Preorder

theorem origin_mem (h : Preorder t origin paths) : origin ∈ paths := by
  induction h with
  | origin => exact List.mem_cons_self
  | next _ _ ih => exact List.mem_append_left _ ih

theorem nodup (h : Preorder t origin paths) : (paths.map t.identity).Nodup := by
  induction h with
  | origin => exact List.nodup_singleton _
  | next _ hnext ih =>
    rw [List.map_append, List.map_singleton, ← List.concat_eq_append]
    exact ih.concat (next?_some hnext).1

theorem reaches (h : Preorder t origin paths) (hpath : path ∈ paths) : Reaches t origin path := by
  induction h generalizing path with
  | origin => exact List.mem_singleton.mp hpath ▸ .origin
  | next _ hnext ih =>
    rcases List.mem_append.mp hpath with hpath | hpath
    · exact ih hpath
    · obtain ⟨_, above, habove, himport⟩ := next?_some hnext
      rw [List.mem_singleton.mp hpath]
      exact .imported (ih habove) himport

end Preorder

/-! ## The search as a computation -/

/-- The pending paths that lead to new places and what these import, in the order in which a
depth-first search comes to them, whether they can be opened or not. -/
def survey (t : FileTree) (met : List Identity) (pending : List String) : List String :=
  match pending with
  | [] => []
  | path :: rest =>
    if t.identity path ∈ met then survey t met rest
    else path :: survey t (t.identity path :: met) (importsAt t path ++ rest)
termination_by (unmet t met, pending.length)
decreasing_by
  · exact Prod.Lex.right _ (Nat.lt_succ_self _)
  · next hmet =>
    cases hload : load t path with
    | ok p => exact Prod.Lex.left _ _ (unmet_lt_of_load hmet hload)
    | error fault =>
      rw [importsAt_error hload]
      exact lex_unmet t met _ (Nat.lt_succ_self _)

/-- The pending paths lead to the new places that a search from `paths` has ahead of it, also when
further places are no longer new. -/
def Ahead (t : FileTree) (paths pending : List String) : Prop :=
  ∀ met, paths.map t.identity ⊆ met →
    (paths.reverse.flatMap (importsAt t)).find? (isNew t met) = pending.find? (isNew t met)

variable {pending rest : List String} {met : List Identity}

theorem ahead_origin (t : FileTree) (origin : String) : Ahead t [origin] (importsAt t origin) := by
  intro met _
  rw [List.reverse_singleton, List.flatMap_singleton]

theorem isNew_of_mem (h : t.identity path ∈ met) : isNew t met path = false := by
  simpa [isNew] using h

theorem Ahead.skip (h : Ahead t paths (path :: rest))
    (hmet : t.identity path ∈ paths.map t.identity) : Ahead t paths rest := by
  intro met hsub
  rw [h met hsub, List.find?_cons_of_neg]
  rw [isNew_of_mem (hsub hmet)]
  exact Bool.false_ne_true

/-- A search visits what a path imports before what is pending behind the path. -/
theorem Ahead.visit (h : Ahead t paths (path :: rest)) :
    Ahead t (paths ++ [path]) (importsAt t path ++ rest) := by
  intro met hsub
  rw [List.map_append, List.append_subset] at hsub
  have hpath : isNew t met path = false := isNew_of_mem (hsub.2 List.mem_cons_self)
  rw [List.reverse_append, List.reverse_singleton, List.singleton_append, List.flatMap_cons,
    List.find?_append, List.find?_append, h met hsub.1, List.find?_cons_of_neg (by simp [hpath])]

theorem next?_of_ahead (h : Ahead t paths pending) :
    next? t paths = pending.find? (isNew t (paths.map t.identity)) :=
  h _ (List.Subset.refl _)

theorem Preorder.survey (hpaths : Preorder t origin paths) (hahead : Ahead t paths pending)
    (hmet : ∀ k, k ∈ met ↔ k ∈ paths.map t.identity) :
    Preorder t origin (paths ++ Project.survey t met pending) ∧
      next? t (paths ++ Project.survey t met pending) = none := by
  fun_induction Project.survey t met pending generalizing paths with
  | case1 met =>
    rw [List.append_nil]
    exact ⟨hpaths, next?_of_ahead hahead⟩
  | case2 met path rest hold ih => exact ih hpaths (hahead.skip ((hmet _).mp hold)) hmet
  | case3 met path rest hnew ih =>
    have hnext : next? t paths = some path := by
      rw [next?_of_ahead hahead, List.find?_cons_of_pos]
      exact isNew_iff.mpr fun h => hnew ((hmet _).mpr h)
    rw [List.append_cons]
    refine ih (hpaths.next hnext) hahead.visit fun k => ?_
    simp [hmet, or_comm]

/-- Following imports opens what a search comes to, up to the first fault. -/
theorem mapM_survey (t : FileTree) (met : List Identity) (pending : List String) :
    (survey t met pending).mapM (load t) =
      match (follow t met pending).fault with
      | some fault => .error fault
      | none => .ok (follow t met pending).projects := by
  fun_induction follow t met pending with
  | case1 met => rw [survey]; rfl
  | case2 met path rest hmet others ih =>
    rw [survey, if_pos (by simpa using hmet), ih]
  | case3 met path rest hnew fault hload =>
    rw [survey, if_neg (by simpa using hnew), mapM_cons_error hload]
  | case4 met path rest hnew p hload _ others ih =>
    rw [survey, if_neg (by simpa using hnew), mapM_cons_ok hload, importsAt_ok hload, ih]
    cases others.fault with
    | none => rfl
    | some fault => rfl

/-! ## Everything reachable is visited -/

/-- What a reachable project's import of something existing leads to depends on the place of the
project and the text of the import only. -/
def ImportsByPlace (t : FileTree) (origin : String) : Prop :=
  ∀ {path path' : String} {p p' : Project}, Reaches t origin path → Reaches t origin path' →
    load t path = .ok p → load t path' = .ok p' → t.identity path = t.identity path' →
    ∀ item ∈ p.imports, t.contains (Path.join p.directory item) →
      t.identity (Path.join p'.directory item) = t.identity (Path.join p.directory item)

/-- Of two reachable paths to one place, both can be opened or neither. -/
def OpensByPlace (t : FileTree) (origin : String) : Prop :=
  ∀ {path path' : String}, Reaches t origin path → Reaches t origin path' →
    t.identity path = t.identity path' → (load t path).isOk → (load t path').isOk

theorem exists_of_isOk (h : (load t path).isOk) : ∃ p, load t path = .ok p := by
  cases hload : load t path with
  | ok p => exact ⟨p, rfl⟩
  | error fault => rw [hload] at h; cases h

theorem contains_of_isOk (h : (load t path).isOk) : t.contains path := by
  obtain ⟨entry, _, hresolve⟩ := exists_entry_of_load h
  rw [FileTree.contains, hresolve]
  rfl

/-- A search that is at its end, and has opened all that it visited, has been at every reachable
place. -/
theorem Preorder.covers (ht : t.Grounded) (hplace : ImportsByPlace t origin)
    (hopens : OpensByPlace t origin) (h : Preorder t origin paths) (hend : next? t paths = none)
    (hall : ∀ path ∈ paths, (load t path).isOk) (hpath : Reaches t origin path) :
    t.identity path ∈ paths.map t.identity := by
  induction hpath with
  | origin => exact List.mem_map_of_mem h.origin_mem
  | @imported path child hreach hchild ih =>
    obtain ⟨p, hp, item, hitem, rfl⟩ := mem_importsAt.mp hchild
    -- the search has been at the importing project, maybe by another path
    obtain ⟨path', hpath', hid⟩ := List.mem_map.mp ih
    obtain ⟨p', hp'⟩ := exists_of_isOk (hall path' hpath')
    have hitem' : item ∈ p'.imports := by rw [load_spelling ht hp hp' hid.symm]; exact hitem
    have hchild' : Path.join p'.directory item ∈ importsAt t path' :=
      mem_importsAt.mpr ⟨p', hp', item, hitem', rfl⟩
    have hmem := next?_none hend hpath' hchild'
    obtain ⟨seen, hseen, hseenid⟩ := List.mem_map.mp hmem
    have hopen : (load t (Path.join p'.directory item)).isOk :=
      hopens (h.reaches hseen) (.imported (h.reaches hpath') hchild') hseenid (hall seen hseen)
    rw [hplace (h.reaches hpath') hreach hp' hp hid item hitem' (contains_of_isOk hopen)]
    exact hmem

/-! ## The files -/

theorem ownFiles_eq :
    ownFiles = fun p =>
      ((p.items ++ p.added).filter (· ∉ p.removed)).map (Path.join p.directory) := by
  funext p
  simp [ownFiles]

/-- The files of a project are had from what a search visits, as far as it can be opened. -/
theorem exists_preorder {root : Project} (hroot : load t root.path = .ok root) :
    ∃ paths, Preorder t root.path paths ∧ next? t paths = none ∧
      root.files t = (paths.mapM (load t)).map (List.flatMap ownFiles) := by
  have hahead : Ahead t [root.path] root.importPaths :=
    importsAt_ok hroot ▸ ahead_origin t root.path
  have hmet (k : Identity) : k ∈ [t.identity root.path] ↔ k ∈ [root.path].map t.identity := Iff.rfl
  obtain ⟨hpaths, hend⟩ := Preorder.origin.survey hahead hmet
  refine ⟨_, hpaths, hend, ?_⟩
  rw [List.singleton_append, mapM_cons_ok hroot, mapM_survey, files, closure]
  dsimp only
  cases (follow t [t.identity root.path] root.importPaths).fault with
  | some fault => rfl
  | none => rfl

section Files

variable {root : Project}
  (hfiles : root.files t = (paths.mapM (load t)).map (List.flatMap ownFiles))
include hfiles

theorem files_ok_iff (files : List String) :
    root.files t = .ok files ↔
      ∃ ps : List Project, paths.map (load t) = ps.map .ok ∧ files = ps.flatMap ownFiles := by
  simp only [← mapM_eq_ok_iff]
  rw [hfiles]
  cases paths.mapM (load t) with
  | error fault => simp [Except.map]
  | ok ps => simp [Except.map, eq_comm]

theorem files_of_isOk (hall : ∀ path ∈ paths, (load t path).isOk) :
    ∃ ps : List Project, paths.map (load t) = ps.map .ok ∧
      root.files t = .ok (ps.flatMap ownFiles) := by
  rcases mapM_cases (load t) paths with ⟨ps, hps⟩ | ⟨_, path, _, fault, rfl, _, hload, _⟩
  · exact ⟨ps, hps, (files_ok_iff hfiles _).mpr ⟨ps, hps, rfl⟩⟩
  · have hok := hall path (List.mem_append_right _ List.mem_cons_self)
    rw [hload] at hok
    cases hok

theorem files_error_iff (fault : ProjectFault) :
    root.files t = .error fault ↔
      ∃ before path after, paths = before ++ path :: after ∧
        (∀ q ∈ before, (load t q).isOk) ∧ load t path = .error fault := by
  constructor
  · intro h
    rcases mapM_cases (load t) paths with
      ⟨ps, hps⟩ | ⟨before, path, after, fault', heq, hbefore, hload, hmapM⟩
    · rw [(files_ok_iff hfiles _).mpr ⟨ps, hps, rfl⟩] at h
      cases h
    · rw [hfiles, hmapM] at h
      cases h
      exact ⟨before, path, after, heq, hbefore, hload⟩
  · rintro ⟨before, path, after, rfl, hbefore, hload⟩
    rw [hfiles, mapM_of_error hbefore hload]
    rfl

theorem exists_files_error_iff :
    (∃ fault, root.files t = .error fault) ↔ ∃ path ∈ paths, ¬ (load t path).isOk := by
  constructor
  · rintro ⟨fault, h⟩
    obtain ⟨_, path, _, rfl, _, hload⟩ := (files_error_iff hfiles fault).mp h
    refine ⟨path, List.mem_append_right _ List.mem_cons_self, ?_⟩
    rw [hload]
    exact Bool.false_ne_true
  · rintro ⟨path, hpath, hclosed⟩
    rcases mapM_cases (load t) paths with ⟨ps, hps⟩ | ⟨_, _, _, fault, _, _, _, hmapM⟩
    · obtain ⟨p, _, hp⟩ := List.mem_map.mp (hps ▸ List.mem_map_of_mem hpath)
      rw [← hp] at hclosed
      exact absurd rfl hclosed
    · exact ⟨fault, by rw [hfiles, hmapM]; rfl⟩

end Files

/-- **The files of a project, depth first.** Suppose that a reachable project's import of something
existing leads to a place that depends on the project's place and the import only. A depth-first
search over the imports of a project visits reachable paths only, at places that all differ. If
every reachable path can be opened, the search visits every reachable place, and the files of the
project can be had. They can be had exactly if everything that is visited can be opened, as the own
files of what is visited, in that order; otherwise there is a fault, the first that is met. If to be
opened is a matter of the place, there is a fault exactly if something reachable cannot be
opened. -/
theorem files_preorder {root : Project} (ht : t.Grounded) (hroot : load t root.path = .ok root)
    (hplace : ImportsByPlace t root.path) :
    ∃ paths, Preorder t root.path paths ∧ next? t paths = none ∧
      (paths.map t.identity).Nodup ∧ (∀ path ∈ paths, Reaches t root.path path) ∧
      ((∀ path, Reaches t root.path path → (load t path).isOk) →
        (∀ path, Reaches t root.path path → t.identity path ∈ paths.map t.identity) ∧
        ∃ ps : List Project, paths.map (load t) = ps.map .ok ∧
          root.files t = .ok (ps.flatMap fun p =>
            ((p.items ++ p.added).filter (· ∉ p.removed)).map (Path.join p.directory))) ∧
      (∀ files, root.files t = .ok files ↔
        ∃ ps : List Project, paths.map (load t) = ps.map .ok ∧
          files = ps.flatMap fun p =>
            ((p.items ++ p.added).filter (· ∉ p.removed)).map (Path.join p.directory)) ∧
      (∀ fault, root.files t = .error fault ↔
        ∃ before path after, paths = before ++ path :: after ∧
          (∀ q ∈ before, (load t q).isOk) ∧ load t path = .error fault) ∧
      ((∃ fault, root.files t = .error fault) ↔ ∃ path ∈ paths, ¬ (load t path).isOk) ∧
      (OpensByPlace t root.path →
        ((∃ fault, root.files t = .error fault) ↔
          ∃ path, Reaches t root.path path ∧ ¬ (load t path).isOk)) := by
  obtain ⟨paths, hpaths, hend, hfiles⟩ := exists_preorder hroot
  rw [← ownFiles_eq]
  refine ⟨paths, hpaths, hend, hpaths.nodup, fun path => hpaths.reaches, ?_,
    files_ok_iff hfiles, files_error_iff hfiles, exists_files_error_iff hfiles, ?_⟩
  · intro hall
    have hvisited : ∀ path ∈ paths, (load t path).isOk := fun path h => hall path (hpaths.reaches h)
    have hopens : OpensByPlace t root.path := fun _ h _ _ => hall _ h
    exact ⟨fun path => hpaths.covers ht hplace hopens hend hvisited, files_of_isOk hfiles hvisited⟩
  · intro hopens
    rw [exists_files_error_iff hfiles]
    constructor
    · rintro ⟨path, hpath, hclosed⟩
      exact ⟨path, hpaths.reaches hpath, hclosed⟩
    · rintro ⟨path, hreach, hclosed⟩
      by_contra hnone
      have hvisited : ∀ path ∈ paths, (load t path).isOk := by
        intro q hq
        by_contra hq'
        exact hnone ⟨q, hq, hq'⟩
      obtain ⟨seen, hseen, hid⟩ :=
        List.mem_map.mp (hpaths.covers ht hplace hopens hend hvisited hreach)
      exact hclosed (hopens (hpaths.reaches hseen) hreach hid (hvisited seen hseen))

/-! ## Two projects that import each other -/

/-- `A` imports `B`, and `B` imports `A` by another spelling. -/
def mutualTree : FileTree where
  nodes := [
    (["A"], .file (Utf8.bytes "<P><Compile Include=\"a.cs\"/></P>")),
    (["A.overlay"], .file (Utf8.bytes "<P><Import Include=\"B\"/></P>")),
    (["B"], .file (Utf8.bytes "<P><Compile Include=\"b.cs\"/></P>")),
    (["B.overlay"], .file (Utf8.bytes "<P><Import Include=\"./A\"/></P>"))]

theorem load_mutualTree :
    load mutualTree "/A" =
      .ok { path := "/A", directory := "/", items := ["a.cs"], imports := ["B"] } ∧
    load mutualTree "/B" =
      .ok { path := "/B", directory := "/", items := ["b.cs"], imports := ["./A"] } ∧
    load mutualTree "/./A" =
      .ok { path := "/./A", directory := "/", items := ["a.cs"], imports := ["B"] } := by
  decide +kernel

theorem reaches_mutualTree (h : Reaches mutualTree "/A" path) :
    ∃ p, load mutualTree path = .ok p ∧ p.directory = "/" := by
  obtain ⟨hA, hB, hA'⟩ := load_mutualTree
  have hpath : path = "/A" ∨ path = "/B" ∨ path = "/./A" := by
    induction h with
    | origin => exact .inl rfl
    | imported _ hchild ih =>
      rcases ih with rfl | rfl | rfl
      · rw [importsAt_ok hA] at hchild
        exact .inr (.inl (List.mem_singleton.mp hchild))
      · rw [importsAt_ok hB] at hchild
        exact .inr (.inr (List.mem_singleton.mp hchild))
      · rw [importsAt_ok hA'] at hchild
        exact .inr (.inl (List.mem_singleton.mp hchild))
  rcases hpath with rfl | rfl | rfl
  · exact ⟨_, hA, rfl⟩
  · exact ⟨_, hB, rfl⟩
  · exact ⟨_, hA', rfl⟩

theorem files_preorder_mutual :
    let root : Project := { path := "/A", directory := "/", items := ["a.cs"], imports := ["B"] }
    mutualTree.Grounded ∧ load mutualTree root.path = .ok root ∧
      ImportsByPlace mutualTree root.path ∧
      ∃ paths, Preorder mutualTree root.path paths ∧ next? mutualTree paths = none ∧
        mutualTree.identity "/B" ∈ paths.map mutualTree.identity ∧
        ∃ ps : List Project, paths.map (load mutualTree) = ps.map .ok ∧
          root.files mutualTree = .ok (ps.flatMap fun p =>
            ((p.items ++ p.added).filter (· ∉ p.removed)).map (Path.join p.directory)) := by
  intro root
  have hground : mutualTree.Grounded := by
    intro dir hdir
    rw [List.prefix_nil.mp hdir]
    rfl
  have hroot : load mutualTree root.path = .ok root := load_mutualTree.1
  have hplace : ImportsByPlace mutualTree root.path := by
    intro path path' p p' hpath hpath' hp hp' _ item _ _
    obtain ⟨q, hq, hdir⟩ := reaches_mutualTree hpath
    obtain ⟨q', hq', hdir'⟩ := reaches_mutualTree hpath'
    rw [hp] at hq
    rw [hp'] at hq'
    cases hq
    cases hq'
    rw [hdir, hdir']
  obtain ⟨paths, hpaths, hend, _, _, hopen, _⟩ := files_preorder hground hroot hplace
  obtain ⟨hvisited, hfiles⟩ := hopen fun path hpath => by
    obtain ⟨p, hp, _⟩ := reaches_mutualTree hpath
    rw [hp]
    rfl
  have hB : Reaches mutualTree root.path "/B" :=
    .imported .origin (by rw [importsAt_ok hroot]; decide)
  exact ⟨hground, hroot, hplace, paths, hpaths, hend, hvisited "/B" hB, hfiles⟩

end Project
end StyleScan
