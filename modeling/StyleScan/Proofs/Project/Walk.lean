import Mathlib.Data.List.Nodup
import Mathlib.Logic.Relation
import StyleScan.Project

/-!
# StyleScan.Proofs.Project.Walk

Following imports one path at a time.

* `Walk`              — how far the imports have been followed.
* `Walk.Step`         — what becomes of the first pending path: it is passed over, opened, or it
  fails and ends the walk.
* `Walk.Run`          — any number of steps.
* `Walk.wellFounded_step` — no walk goes on for ever, whatever the projects import.
* `Walk.Sound`        — what holds all along a walk: no place is asked for twice.
* `Project.closure_terminates` — the closure of a project is the end of its walk, and what the walk
  has asked for until then.
-/

namespace StyleScan
namespace Project

/-! ## Places of the tree -/

/-- What is opened stands in the tree. -/
theorem exists_entry_of_load {t : FileTree} {path : String} (h : (load t path).isOk) :
    ∃ entry ∈ t.nodes, t.resolve path = .ok entry.1 := by
  cases hes : elementsOf t path with
  | error fault =>
    rw [load, hes] at h
    cases h
  | ok es =>
    obtain ⟨l, node, hl, hmem⟩ := exists_node_of_elementsOf hes
    exact ⟨(l, node), hmem, hl⟩

theorem unmet_le (t : FileTree) (met : List Identity) (k : Identity) :
    unmet t (k :: met) ≤ unmet t met := by
  refine List.countP_mono_left fun entry _ h => ?_
  rw [List.contains_cons, Bool.not_eq_true', Bool.or_eq_false_iff] at h
  rw [h.2]
  rfl

theorem unmet_lt_of_load {t : FileTree} {met : List Identity} {path : String} {p : Project}
    (hnew : t.identity path ∉ met) (hload : load t path = .ok p) :
    unmet t (t.identity path :: met) < unmet t met :=
  unmet_lt (by simpa using hnew) hload

/-- One more place met, and fewer paths pending, is less to do. -/
theorem lex_unmet (t : FileTree) (met : List Identity) (k : Identity) {m n : Nat} (h : m < n) :
    Prod.Lex (· < ·) (· < ·) (unmet t (k :: met), m) (unmet t met, n) := by
  rcases Nat.lt_or_eq_of_le (unmet_le t met k) with hlt | heq
  · exact Prod.Lex.left _ _ hlt
  · rw [heq]
    exact Prod.Lex.right _ h

/-! ## Walks -/

/-- How far imports have been followed: the places met, the paths pending, those that were passed
over, those that `load` was asked for, the projects that it gave, and the fault, if it gave one. -/
structure Walk where
  met : List Identity
  pending : List String
  skipped : List String := []
  asked : List String := []
  projects : List Project := []
  fault : Option ProjectFault := none

namespace Walk

/-- The walk that takes up the imports of a project. -/
def start (t : FileTree) (p : Project) : Walk :=
  { met := [t.identity p.path], pending := p.importPaths }

/-- One step, at the first pending path. A fault abandons everything that is pending. -/
inductive Step (t : FileTree) : Walk → Walk → Prop where
  | passed {w : Walk} {path : String} {rest : List String} :
      w.pending = path :: rest → t.identity path ∈ w.met →
      Step t w { w with pending := rest, skipped := w.skipped ++ [path] }
  | opened {w : Walk} {path : String} {rest : List String} {p : Project} :
      w.pending = path :: rest → t.identity path ∉ w.met → load t path = .ok p →
      Step t w
        { w with
          met := t.identity path :: w.met
          pending := p.importPaths ++ rest
          asked := w.asked ++ [path]
          projects := w.projects ++ [p] }
  | failed {w : Walk} {path : String} {rest : List String} {fault : ProjectFault} :
      w.pending = path :: rest → t.identity path ∉ w.met → load t path = .error fault →
      Step t w
        { w with
          met := t.identity path :: w.met
          pending := []
          asked := w.asked ++ [path]
          fault := some fault }

/-- Any number of steps. -/
abbrev Run (t : FileTree) : Walk → Walk → Prop := Relation.ReflTransGen (Step t)

/-! ## Every walk ends -/

/-- Opening a project leaves fewer places of the tree unmet; passing over a path, or failing at it,
leaves no more of them and fewer paths pending. -/
theorem Step.decreases {t : FileTree} {w next : Walk} (h : Step t w next) :
    Prod.Lex (· < ·) (· < ·) (unmet t next.met, next.pending.length)
      (unmet t w.met, w.pending.length) := by
  cases h with
  | passed hpending _ =>
    refine Prod.Lex.right _ ?_
    rw [hpending, List.length_cons]
    exact Nat.lt_succ_self _
  | opened _ hnew hload => exact Prod.Lex.left _ _ (unmet_lt_of_load hnew hload)
  | failed hpending hnew hload =>
    rw [hpending]
    exact lex_unmet t w.met _ (Nat.succ_pos _)

theorem wellFounded_step (t : FileTree) : WellFounded fun next w => Step t w next :=
  Subrelation.wf Step.decreases
    (InvImage.wf (fun w : Walk => (unmet t w.met, w.pending.length))
      (Prod.lex Nat.lt_wfRel Nat.lt_wfRel).wf)

/-- A walk stops exactly where nothing is pending. -/
theorem exists_step_iff (t : FileTree) (w : Walk) : (∃ next, Step t w next) ↔ w.pending ≠ [] := by
  constructor
  · rintro ⟨next, h⟩ hpending
    cases h <;> simp_all
  · intro hpending
    obtain ⟨path, rest, hpending⟩ := List.exists_cons_of_ne_nil hpending
    by_cases hmet : t.identity path ∈ w.met
    · exact ⟨_, .passed hpending hmet⟩
    · cases hload : load t path with
      | ok p => exact ⟨_, .opened hpending hmet hload⟩
      | error fault => exact ⟨_, .failed hpending hmet hload⟩

/-- `follow` takes a walk to its end. -/
theorem run_follow (t : FileTree) (met : List Identity) (pending skipped asked : List String)
    (projects : List Project) :
    ∃ met' asked', Run t { met, pending, skipped, asked, projects }
      { met := met'
        pending := []
        skipped := skipped ++ (follow t met pending).skipped
        asked := asked'
        projects := projects ++ (follow t met pending).projects
        fault := (follow t met pending).fault } := by
  fun_induction follow t met pending generalizing skipped asked projects with
  | case1 met =>
    refine ⟨met, asked, ?_⟩
    rw [List.append_nil, List.append_nil]
  | case2 met path rest hmet others ih =>
    obtain ⟨met', asked', hrun⟩ := ih (skipped ++ [path]) asked projects
    rw [List.append_assoc] at hrun
    exact ⟨met', asked', .head (.passed rfl (by simpa using hmet)) hrun⟩
  | case3 met path rest hnew fault hload =>
    refine ⟨t.identity path :: met, asked ++ [path], ?_⟩
    rw [List.append_nil, List.append_nil]
    exact .single (.failed rfl (by simpa using hnew) hload)
  | case4 met path rest hnew p hload _ others ih =>
    obtain ⟨met', asked', hrun⟩ := ih skipped (asked ++ [path]) (projects ++ [p])
    rw [List.append_assoc projects] at hrun
    exact ⟨met', asked', .head (.opened rfl (by simpa using hnew) hload) hrun⟩

/-! ## No place is asked for twice -/

/-- What holds all along a walk that set out from a place. -/
structure Sound (t : FileTree) (origin : Identity) (w : Walk) : Prop where
  /-- The places met are those asked for, and the first one. -/
  met : w.met = (w.asked.map t.identity).reverse ++ [origin]
  nodup : w.met.Nodup
  /-- All that was asked for was opened, but for a fault at the end. -/
  results : w.asked.map (load t) = w.projects.map .ok ++ w.fault.toList.map .error
  stopped : w.fault ≠ none → w.pending = []
  /-- Each project opened stands at another place of the tree. -/
  count : w.projects.length + unmet t w.met ≤ t.nodes.length

variable {t : FileTree} {origin : Identity}

theorem sound_start (t : FileTree) (p : Project) : (start t p).Sound t (t.identity p.path) where
  met := rfl
  nodup := List.nodup_singleton _
  results := rfl
  stopped h := absurd rfl h
  count := by
    show 0 + unmet t [t.identity p.path] ≤ t.nodes.length
    rw [Nat.zero_add]
    exact List.countP_le_length

theorem Sound.fault_none {w : Walk} (hw : w.Sound t origin) {path : String} {rest : List String}
    (hpending : w.pending = path :: rest) : w.fault = none := by
  cases hfault : w.fault with
  | none => rfl
  | some fault =>
    rw [hw.stopped (by simp [hfault])] at hpending
    cases hpending

theorem Sound.step {w next : Walk} (hw : w.Sound t origin) (h : Step t w next) :
    next.Sound t origin := by
  cases h with
  | passed hpending _ =>
    exact { hw with stopped := fun hfault => absurd (hw.fault_none hpending) hfault }
  | @opened path rest p hpending hnew hload =>
    have hfault := hw.fault_none hpending
    have hless := unmet_lt_of_load hnew hload
    refine ⟨?_, List.nodup_cons.mpr ⟨hnew, hw.nodup⟩, ?_, fun h => absurd hfault h, ?_⟩
    · simp [hw.met]
    · simp [hw.results, hfault, hload]
    · have := hw.count
      simp only [List.length_append, List.length_singleton]
      omega
  | @failed path rest fault hpending hnew hload =>
    have hfault := hw.fault_none hpending
    have hless := unmet_le t w.met (t.identity path)
    refine ⟨?_, List.nodup_cons.mpr ⟨hnew, hw.nodup⟩, ?_, fun _ => rfl, ?_⟩
    · simp [hw.met]
    · simp [hw.results, hfault, hload]
    · have := hw.count
      simp only
      omega

theorem Sound.run {w w' : Walk} (hw : w.Sound t origin) (h : Run t w w') : w'.Sound t origin := by
  induction h with
  | refl => exact hw
  | tail _ hstep ih => exact ih.step hstep

theorem Sound.nodup_asked {w : Walk} (hw : w.Sound t origin) :
    (w.asked.map t.identity).Nodup ∧ origin ∉ w.asked.map t.identity := by
  have hnodup := hw.nodup
  rw [hw.met, List.nodup_append] at hnodup
  obtain ⟨hasked, _, hdisjoint⟩ := hnodup
  refine ⟨List.nodup_reverse.mp hasked, fun hmem => ?_⟩
  exact hdisjoint origin (List.mem_reverse.mpr hmem) origin List.mem_cons_self rfl

/-- All paths that lead to one location have one identity. -/
theorem Sound.count_resolve {w : Walk} (hw : w.Sound t origin) (l : Location) :
    w.asked.countP (fun path => t.resolve path = .ok l) ≤ 1 := by
  calc w.asked.countP (fun path => t.resolve path = .ok l)
      ≤ w.asked.countP ((· == l.identity) ∘ t.identity) := by
        refine List.countP_mono_left fun path _ h => ?_
        have hl : t.resolve path = .ok l := of_decide_eq_true h
        rw [Function.comp_apply, FileTree.identity_of_resolve hl, beq_self_eq_true]
    _ = (w.asked.map t.identity).count l.identity := by rw [List.count, List.countP_map]
    _ ≤ 1 := List.nodup_iff_count_le_one.mp hw.nodup_asked.1 _

theorem Sound.count_failed {w : Walk} (hw : w.Sound t origin) :
    w.asked.countP (fun path => !(load t path).isOk) ≤ 1 := by
  let isFault (result : Except ProjectFault Project) : Bool := !result.isOk
  have hok : isFault ∘ .ok = fun _ => false := rfl
  have herror : isFault ∘ .error = fun _ => true := rfl
  calc w.asked.countP (fun path => !(load t path).isOk)
      = (w.asked.map (load t)).countP isFault := by rw [List.countP_map]; rfl
    _ = w.fault.toList.length := by
        rw [hw.results, List.countP_append, List.countP_map, List.countP_map, hok, herror]
        simp
    _ ≤ 1 := by cases w.fault <;> simp

theorem Sound.length_asked {w : Walk} (hw : w.Sound t origin) :
    w.asked.length ≤ t.nodes.length + 1 := by
  have hlength := congrArg List.length hw.results
  have hfault : w.fault.toList.length ≤ 1 := by cases w.fault <;> simp
  have hcount := hw.count
  simp only [List.length_append, List.length_map] at hlength
  omega

end Walk

/-- **Following imports ends.** No walk over imports goes on for ever, it stops only where nothing
is pending, and the closure of a project is the end of its walk. All along, `load` is asked for
places that differ from each other and from that of the project: at most once for each location of
the tree, where alone it succeeds, and at most once in vain. -/
theorem closure_terminates (t : FileTree) (root : Project) :
    (WellFounded fun next w => Walk.Step t w next) ∧
    (∀ w, (∃ next, Walk.Step t w next) ↔ w.pending ≠ []) ∧
    (∀ w, Walk.Run t (.start t root) w →
      (w.asked.map t.identity).Nodup ∧ t.identity root.path ∉ w.asked.map t.identity ∧
      (∀ path ∈ w.asked, (load t path).isOk → ∃ entry ∈ t.nodes, t.resolve path = .ok entry.1) ∧
      (∀ l, w.asked.countP (fun path => t.resolve path = .ok l) ≤ 1) ∧
      w.asked.countP (fun path => !(load t path).isOk) ≤ 1 ∧
      w.asked.length ≤ t.nodes.length + 1) ∧
    ∃ w, Walk.Run t (.start t root) w ∧ w.pending = [] ∧
      root.closure t =
        { projects := root :: w.projects, skipped := w.skipped, fault := w.fault } := by
  refine ⟨Walk.wellFounded_step t, Walk.exists_step_iff t, fun w hrun => ?_, ?_⟩
  · have hw := (Walk.sound_start t root).run hrun
    exact ⟨hw.nodup_asked.1, hw.nodup_asked.2, fun _ _ => exists_entry_of_load,
      hw.count_resolve, hw.count_failed, hw.length_asked⟩
  · obtain ⟨met, asked, hrun⟩ := Walk.run_follow t [t.identity root.path] root.importPaths [] [] []
    exact ⟨_, hrun, rfl, rfl⟩

end Project
end StyleScan
