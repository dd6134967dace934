import StyleScan.FileTree
import StyleScan.Markup
import StyleScan.Text.Blank

/-!
# StyleScan.Project

Project files as lists of files to scan. An overlay beside a project, named for it with
`.overlay` behind, adds items to the project, takes items away, and imports other projects.

* `Project`         — the items of a project and of its overlay.
* `Project.load`    — reads a project and its overlay.
* `Project.ownFiles` — the files of a project without those of its imports.
* `Project.closure` — a project and everything that it imports, each project once.
* `Project.files`   — the files of all of them.
-/

namespace StyleScan

/-- Why a project cannot be used. -/
inductive ProjectFault where
  | unreadable (path : String) (fault : Fault)
  | malformed (path : String)
deriving DecidableEq, Repr, Inhabited

/-- The wording of a fault. -/
def ProjectFault.message : ProjectFault → String
  | unreadable path fault => "Failed to read project file " ++ path ++ ": " ++ fault.message
  | malformed path => "Failed to parse " ++ path

/-- A project together with its overlay. Items are as written, with slashes between directories. -/
structure Project where
  path : String
  /-- The directory of the project, to which its items are relative. -/
  directory : String
  items : List String
  added : List String := []
  removed : List String := []
  imports : List String := []
deriving DecidableEq, Repr, Inhabited

namespace Project

/-! ## Reading -/

/-- The items of a list: pieces between semicolons without the blanks around them, empty ones left
out, with slashes for backslashes. -/
def itemList (value : String) : List String :=
  let pieces := (Text.split ';' value).map Text.trim
  (pieces.filter fun piece => !piece.isEmpty).map fun piece =>
    String.ofList (piece.toList.map fun c => if c = '\\' then '/' else c)

/-- The items that an attribute lists on all elements of a name, in the order of the document. -/
def itemsOf (elements : List Markup.Element) (name key : String) : List String :=
  ((elements.filter fun e => e.name == name).filterMap fun e => e.attribute? key).flatMap itemList

/-- The path of a project's overlay. -/
def overlayPath (path : String) : String := path ++ ".overlay"

/-- The elements of a file. -/
def elementsOf (t : FileTree) (path : String) : Except ProjectFault (List Markup.Element) :=
  match t.readText path with
  | .error fault => .error (.unreadable path fault)
  | .ok text =>
    match Markup.elements? text with
    | some elements => .ok elements
    | none => .error (.malformed path)

/-- Reads a project, and its overlay if there is one. -/
def load (t : FileTree) (path : String) : Except ProjectFault Project :=
  match elementsOf t path with
  | .error fault => .error fault
  | .ok elements =>
    let project : Project :=
      { path
        directory := (Path.parent? path).getD ""
        items := itemsOf elements "Compile" "Include" }
    match elementsOf t (overlayPath path) with
    | .ok overlay =>
      .ok { project with
        added := itemsOf overlay "Compile" "Include"
        removed := itemsOf overlay "Compile" "Exclude"
        imports := itemsOf overlay "Import" "Include" }
    | .error (.unreadable _ .notFound) => .ok project
    | .error fault => .error fault

/-! ## Files -/

/-- The files of a project without those of its imports: its items and those of its overlay, less
the ones that the overlay takes away, below the project's directory. -/
def ownFiles (p : Project) : List String :=
  ((p.items ++ p.added).filter fun item => !p.removed.contains item).map (Path.join p.directory)

/-- The paths of the projects that a project imports. -/
def importPaths (p : Project) : List String := p.imports.map (Path.join p.directory)

/-! ## Imports -/

/-- What following imports gives: the projects that were opened, in order, the paths that were
passed over because they had been met before, and the fault at which it stopped, if any. -/
structure Closure where
  projects : List Project := []
  skipped : List String := []
  fault : Option ProjectFault := none
deriving DecidableEq, Repr, Inhabited

/-- The number of places of a tree that have not been met. -/
def unmet (t : FileTree) (met : List Identity) : Nat :=
  t.nodes.countP fun entry => !met.contains entry.1.identity

/-- What is read as text stands in the tree. -/
theorem exists_node_of_elementsOf {t : FileTree} {path : String} {es : List Markup.Element}
    (h : elementsOf t path = .ok es) :
    ∃ l node, t.resolve path = .ok l ∧ (l, node) ∈ t.nodes := by
  unfold elementsOf at h
  split at h
  · cases h
  · next text hText =>
    unfold FileTree.readText at hText
    split at hText
    · cases hText
    · next bytes hRead =>
      unfold FileTree.read at hRead
      split at hRead
      · cases hRead
      · cases hRead
      · next found hEntry =>
        unfold FileTree.entry at hEntry
        split at hEntry
        · cases hEntry
        · next l hl =>
          split at hEntry
          · next node hNode =>
            refine ⟨l, node, hl, ?_⟩
            unfold FileTree.node? at hNode
            split at hNode
            · cases hNode
              cases hEntry
            · exact FileTree.mem_of_lookup hNode
          · cases hEntry

/-- Fewer members satisfy a stricter condition if some member tells the two apart. -/
theorem countP_lt {α : Type} {p q : α → Bool} (hpq : ∀ a, p a = true → q a = true) {a : α}
    {as : List α} (ha : a ∈ as) (hq : q a = true) (hp : p a = false) :
    as.countP p < as.countP q := by
  induction as with
  | nil => cases ha
  | cons b bs ih =>
    have hLe : bs.countP p ≤ bs.countP q := List.countP_mono_left fun x _ => hpq x
    rw [List.countP_cons, List.countP_cons]
    rcases List.mem_cons.mp ha with rfl | ha
    · rw [hp, hq]
      simp only [Bool.false_eq_true, if_false, if_true]
      omega
    · have := ih ha
      cases hb : p b with
      | false =>
        simp only [Bool.false_eq_true, if_false]
        omega
      | true =>
        rw [hpq b hb]
        simp only [if_true]
        omega

/-- A project that is opened at a new place leaves fewer places unmet. -/
theorem unmet_lt {t : FileTree} {met : List Identity} {path : String} {p : Project}
    (hNew : met.contains (t.identity path) = false) (hOpen : load t path = .ok p) :
    unmet t (t.identity path :: met) < unmet t met := by
  obtain ⟨es, hes⟩ : ∃ es, elementsOf t path = .ok es := by
    unfold load at hOpen
    split at hOpen
    · cases hOpen
    · next es h => exact ⟨es, h⟩
  obtain ⟨l, node, hl, hMem⟩ := exists_node_of_elementsOf hes
  rw [FileTree.identity_of_resolve hl] at hNew ⊢
  refine countP_lt ?_ hMem ?_ ?_
  · intro entry h
    rw [List.contains_cons, Bool.not_eq_true', Bool.or_eq_false_iff] at h
    rw [h.2]
    rfl
  · rw [hNew]
    rfl
  · rw [List.contains_cons, beq_self_eq_true]
    rfl

/-- Opens the pending paths in order, each place once, and what a project imports before what is
pending behind it. -/
def follow (t : FileTree) (met : List Identity) (pending : List String) : Closure :=
  match pending with
  | [] => {}
  | path :: rest =>
    if hNew : met.contains (t.identity path) = true then
      let others := follow t met rest
      { others with skipped := path :: others.skipped }
    else
      match hOpen : load t path with
      | .error fault => { fault := some fault }
      | .ok p =>
        have := unmet_lt (Bool.eq_false_iff.mpr hNew) hOpen
        let others := follow t (t.identity path :: met) (p.importPaths ++ rest)
        { others with projects := p :: others.projects }
termination_by (unmet t met, pending.length)

/-- A project and everything that it imports, each project once, in the order in which they are
first met. -/
def closure (t : FileTree) (p : Project) : Closure :=
  let others := follow t [t.identity p.path] p.importPaths
  { others with projects := p :: others.projects }

/-- The files of a project and of everything that it imports. -/
def files (t : FileTree) (p : Project) : Except ProjectFault (List String) :=
  match (p.closure t).fault with
  | some fault => .error fault
  | none => .ok ((p.closure t).projects.flatMap ownFiles)

end Project
end StyleScan
