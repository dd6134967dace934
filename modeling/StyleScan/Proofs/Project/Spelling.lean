import StyleScan.Project

/-!
# StyleScan.Proofs.Project.Spelling

Two paths to one place open the same project.

* `FileTree.Grounded`     — the current directory stands in the tree, with all directories above it.
* `FileTree.resolve_file` — the path of a file ends in the name of the file, so what is written
  behind the path is written behind the name.
* `Project.load_spelling` — a project does not depend on the spelling of its path, but for its
  directory.
-/

namespace StyleScan

/-! ## The last piece of a text -/

namespace Text

/-- What holds no separator joins the last piece of the text in front of it. -/
theorem fields_append {α : Type} [DecidableEq α] {sep : α} {suffix : List α} (h : sep ∉ suffix)
    (cs : List α) :
    ∃ pieces last, fields sep cs = pieces ++ [last] ∧
      fields sep (cs ++ suffix) = pieces ++ [last ++ suffix] := by
  induction cs with
  | nil => exact ⟨[], [], rfl, fields_of_not_mem h⟩
  | cons c cs ih =>
    obtain ⟨pieces, last, hcs, happend⟩ := ih
    rw [List.cons_append, fields, fields, hcs, happend]
    by_cases hc : c = sep
    · rw [if_pos hc, if_pos hc]
      exact ⟨[] :: pieces, last, rfl, rfl⟩
    · rw [if_neg hc, if_neg hc]
      cases pieces with
      | nil => exact ⟨[], c :: last, rfl, rfl⟩
      | cons piece pieces => exact ⟨(c :: piece) :: pieces, last, rfl, rfl⟩

theorem split_append {sep : Char} {suffix : String} (h : sep ∉ suffix.toList) (s : String) :
    ∃ pieces last, split sep s = pieces ++ [last] ∧
      split sep (s ++ suffix) = pieces ++ [last ++ suffix] := by
  obtain ⟨pieces, last, hs, happend⟩ := fields_append h s.toList
  refine ⟨pieces.map String.ofList, String.ofList last, ?_, ?_⟩
  · simp [split, hs]
  · simp [split, happend, String.ofList_append]

end Text

/-! ## The way to a file -/

namespace FileTree

/-- The current directory stands in the tree, with all directories above it, as in any file system.
Otherwise `..` could lead from a directory up to a file. -/
def Grounded (t : FileTree) : Prop := ∀ dir, dir <+: t.current → t.node? dir = some .directory

/-- What is above a location is a directory. -/
def Above (t : FileTree) (l : Location) : Prop :=
  ∀ dir, dir <+: l → dir ≠ l → t.node? dir = some .directory

/-- Where a path starts. -/
def origin (t : FileTree) (path : String) : Location :=
  if Path.isAbsolute path then [] else t.current

variable {t : FileTree} {here next l : Location} {piece path : String}

/-- A piece leads nowhere else, one directory up, or to the entry of its name. -/
theorem follow_cases (h : t.follow here piece = .ok next) :
    t.node? here = some .directory ∧
      (next = here ∨ next = here.dropLast ∨ next = here ++ [piece]) := by
  rw [follow] at h
  split at h
  · cases h
  · cases h
  · next hnode =>
    refine ⟨hnode, ?_⟩
    split at h
    · exact .inl (by cases h; rfl)
    · split at h
      · exact .inr (.inl (by cases h; rfl))
      · split at h
        · cases h
        · split at h
          · exact .inr (.inr (by cases h; rfl))
          · cases h

theorem Above.follow (hhere : t.Above here) (h : t.follow here piece = .ok next) :
    t.Above next := by
  obtain ⟨hnode, rfl | rfl | rfl⟩ := follow_cases h
  · exact hhere
  · intro dir hdir hne
    refine hhere dir (hdir.trans (List.dropLast_prefix here)) ?_
    rintro rfl
    exact hne (hdir.eq_of_length_le (List.length_dropLast ▸ Nat.sub_le _ _))
  · intro dir hdir hne
    rcases List.prefix_concat_iff.mp hdir with rfl | hdir
    · exact absurd rfl hne
    · by_cases heq : dir = here
      · rw [heq, hnode]
      · exact hhere dir hdir heq

theorem followAll_concat (t : FileTree) (here : Location) (pieces : List String) (piece : String) :
    t.followAll here (pieces ++ [piece]) = (t.followAll here pieces).bind (t.follow · piece) := by
  induction pieces generalizing here with
  | nil =>
    simp only [List.nil_append, followAll, Except.bind]
    cases t.follow here piece <;> rfl
  | cons first pieces ih =>
    rw [List.cons_append, followAll, followAll]
    cases t.follow here first with
    | error fault => rfl
    | ok next => exact ih next

theorem Above.followAll {pieces : List String} (hhere : t.Above here)
    (h : t.followAll here pieces = .ok next) : t.Above next := by
  induction pieces generalizing here with
  | nil => cases h; exact hhere
  | cons piece pieces ih =>
    rw [FileTree.followAll] at h
    cases hfollow : t.follow here piece with
    | error fault => rw [hfollow] at h; cases h
    | ok there =>
      rw [hfollow] at h
      exact ih (hhere.follow hfollow) h

theorem Grounded.above (ht : t.Grounded) (path : String) :
    t.Above (t.origin path) := by
  intro dir hdir hne
  rw [origin] at hdir
  split at hdir
  · rw [List.prefix_nil.mp hdir]
    rfl
  · exact ht dir hdir

theorem Above.node?_dropLast (h : t.Above l) : t.node? l.dropLast = some .directory := by
  by_cases hl : l = []
  · subst hl
    rfl
  · refine h _ (List.dropLast_prefix l) fun heq => ?_
    have hlength := congrArg List.length heq
    have hpos := List.length_pos_iff.mpr hl
    rw [List.length_dropLast] at hlength
    omega

theorem resolve_cases (h : t.resolve path = .ok l) :
    '\x00' ∉ path.toList ∧ path.toList ≠ [] ∧
      t.followAll (t.origin path) (Text.split '/' path) = .ok l := by
  rw [resolve] at h
  split at h
  · cases h
  · next hnul =>
    split at h
    · cases h
    · split at h
      · cases h
      · next hempty => exact ⟨by simpa using hnul, by simpa using hempty, h⟩

theorem resolve_eq (hnul : '\x00' ∉ path.toList) (hempty : path.toList ≠ []) :
    t.resolve path =
      if pathLimit ≤ path.utf8ByteSize then .error .nameTooLong
      else t.followAll (t.origin path) (Text.split '/' path) := by
  rw [resolve, if_neg (by simpa using hnul)]
  split
  · rfl
  · rw [if_neg (by simpa using hempty)]
    rfl

theorem origin_append (t : FileTree) {path : String} (hempty : path.toList ≠ []) (suffix : String) :
    t.origin (path ++ suffix) = t.origin path := by
  have habsolute : Path.isAbsolute (path ++ suffix) = Path.isAbsolute path := by
    obtain ⟨c, cs, hpath⟩ := List.exists_cons_of_ne_nil hempty
    rw [Path.isAbsolute, Path.isAbsolute, String.toList_append, hpath]
    rfl
  rw [origin, origin, habsolute]

/-- The last piece of a path to a file is the name of the file: a piece of any other kind leads to a
directory. -/
theorem resolve_file (ht : t.Grounded) {bytes : List UInt8} (h : t.resolve path = .ok l)
    (hfile : t.node? l = some (.file bytes)) (suffix : String) (hslash : '/' ∉ suffix.toList)
    (hnul : '\x00' ∉ suffix.toList) :
    ∃ dir name, l = dir ++ [name] ∧
      (t.resolve (path ++ suffix) = .error .nameTooLong ∨
        t.resolve (path ++ suffix) = t.follow dir (name ++ suffix)) := by
  obtain ⟨hpath, hempty, hall⟩ := resolve_cases h
  obtain ⟨pieces, name, hsplit, happend⟩ := Text.split_append hslash path
  rw [hsplit, followAll_concat] at hall
  cases hdir : t.followAll (t.origin path) pieces with
  | error fault => rw [hdir] at hall; cases hall
  | ok dir =>
    rw [hdir] at hall
    have hname : l = dir ++ [name] := by
      obtain ⟨hnode, rfl | rfl | rfl⟩ := follow_cases hall
      · rw [hnode] at hfile
        cases hfile
      · rw [((ht.above path).followAll hdir).node?_dropLast] at hfile
        cases hfile
      · rfl
    refine ⟨dir, name, hname, ?_⟩
    rw [resolve_eq (by simp [hpath, hnul]) (by simp [hempty]), origin_append t hempty, happend,
      followAll_concat, hdir]
    split
    · exact .inl rfl
    · exact .inr rfl

theorem location_of_identity {path' : String} {l' : Location} (h : t.resolve path = .ok l)
    (h' : t.resolve path' = .ok l') (hid : t.identity path = t.identity path') : l = l' := by
  rw [identity_of_resolve h, identity_of_resolve h', Location.identity, Location.identity,
    List.cons.injEq] at hid
  exact (List.map_inj_right fun _ _ hname => Path.Component.name.inj hname).mp hid.2

theorem readText_congr {path' : String} (h : t.resolve path = t.resolve path') :
    t.readText path = t.readText path' := by
  rw [readText, readText, read, read, entry, entry, h]

end FileTree

/-! ## The project -/

namespace Project

variable {t : FileTree} {path path' : String} {p p' : Project}

theorem file_of_elementsOf {es : List Markup.Element} (h : elementsOf t path = .ok es) :
    ∃ l bytes, t.resolve path = .ok l ∧ t.node? l = some (.file bytes) := by
  rw [elementsOf, FileTree.readText, FileTree.read, FileTree.entry] at h
  cases hl : t.resolve path with
  | error fault => simp [hl] at h
  | ok l =>
    cases hnode : t.node? l with
    | none => simp [hl, hnode] at h
    | some node =>
      cases node with
      | directory => simp [hl, hnode] at h
      | file bytes => exact ⟨l, bytes, rfl, hnode⟩

/-- A project that is opened is a file, and the path of its overlay is not too long. -/
theorem load_cases (h : load t path = .ok p) :
    (∃ l bytes, t.resolve path = .ok l ∧ t.node? l = some (.file bytes)) ∧
      t.resolve (overlayPath path) ≠ .error .nameTooLong := by
  rw [load] at h
  cases hes : elementsOf t path with
  | error fault => simp [hes] at h
  | ok es =>
    refine ⟨file_of_elementsOf hes, fun hlong => ?_⟩
    have hoverlay : elementsOf t (overlayPath path) =
        .error (.unreadable (overlayPath path) .nameTooLong) := by
      rw [elementsOf, FileTree.readText, FileTree.read, FileTree.entry, hlong]
    simp [hes, hoverlay] at h

theorem load_congr (h : t.readText path = t.readText path')
    (hoverlay : t.readText (overlayPath path) = t.readText (overlayPath path'))
    (hp : load t path = .ok p) (hp' : load t path' = .ok p') :
    p' = { p with path := path', directory := (Path.parent? path').getD "" } := by
  rw [load, elementsOf, elementsOf, h, hoverlay] at hp
  rw [load, elementsOf, elementsOf] at hp'
  cases htext : t.readText path' with
  | error fault => simp [htext] at hp
  | ok text =>
    cases hes : Markup.elements? text with
    | none => simp [htext, hes] at hp
    | some es =>
      cases hover : t.readText (overlayPath path') with
      | error fault =>
        -- a missing overlay is the only one that may fail to be read
        cases fault
        case notFound =>
          simp only [htext, hes, hover, Except.ok.injEq] at hp hp'
          rw [← hp, ← hp']
        all_goals simp [htext, hes, hover] at hp
      | ok overlay =>
        cases hos : Markup.elements? overlay with
        | none => simp [htext, hes, hover, hos] at hp
        | some os =>
          simp only [htext, hes, hover, hos, Except.ok.injEq] at hp hp'
          rw [← hp, ← hp']

/-- **One place, one project.** Whatever path leads to a project, it has the same items and the same
overlay. -/
theorem load_spelling (ht : t.Grounded) (hp : load t path = .ok p) (hp' : load t path' = .ok p')
    (hid : t.identity path = t.identity path') :
    p' = { p with path := path', directory := (Path.parent? path').getD "" } := by
  obtain ⟨⟨l, bytes, hl, hfile⟩, hshort⟩ := load_cases hp
  obtain ⟨⟨l', _, hl', _⟩, hshort'⟩ := load_cases hp'
  obtain rfl := FileTree.location_of_identity hl hl' hid
  obtain ⟨dir, name, rfl, hoverlay⟩ := FileTree.resolve_file ht hl hfile ".overlay"
    (by decide) (by decide)
  obtain ⟨dir', name', hname, hoverlay'⟩ := FileTree.resolve_file ht hl' hfile ".overlay"
    (by decide) (by decide)
  obtain ⟨rfl, hlast⟩ := List.append_inj' hname rfl
  obtain rfl := List.cons.inj hlast |>.1
  have hsame : t.resolve (overlayPath path) = t.resolve (overlayPath path') :=
    (hoverlay.resolve_left hshort).trans (hoverlay'.resolve_left hshort').symm
  have hplace : t.resolve path = t.resolve path' := hl.trans hl'.symm
  exact load_congr (FileTree.readText_congr hplace) (FileTree.readText_congr hsame) hp hp'

end Project
end StyleScan
