import StyleScan.Ignore

/-!
# StyleScan.FileTree.Walk

Finding the files below a directory.

* `FileTree.visits` — whether a walk from a directory comes to an entry: neither it nor a directory
  on the way to it is left out.
* `FileTree.walk?`  — the files below a path, each by the names that lead to it.
-/

namespace StyleScan
namespace FileTree

/-- The sorts of ignore files that a walk heeds. -/
def heeded (versioned : Bool) : List Ignore.Origin :=
  if versioned then [.general, .versioned, .personal] else [.general, .personal]

/-- Whether a walk from `root` comes to a file through the given names. -/
def visits (files : List IgnoreFile) (origins : List Ignore.Origin) (root : Location)
    (names : List String) : Bool :=
  !Ignore.leavesOut files origins (root ++ names) false
    && (Location.ancestors names).all fun dir =>
      dir.isEmpty || !Ignore.leavesOut files origins (root ++ dir) true

/-- The files below a location, each by the names that lead to it. A file is below itself. -/
def filesBelow (t : FileTree) (files : List IgnoreFile) (origins : List Ignore.Origin)
    (root : Location) : List (List String) :=
  t.nodes.filterMap fun entry =>
    match entry.2 with
    | .directory => none
    | .file _ =>
      match Location.under? root entry.1 with
      | some names => if names.isEmpty || visits files origins root names then some names else none
      | none => none

/-- The files below a path. There is no walk when the path leads nowhere, or when an ignore file
above it has a malformed line. -/
def walk? (t : FileTree) (versioned : Bool) (path : String) : Option (List (List String)) :=
  match t.resolve path with
  | .error _ => none
  | .ok root =>
    let origins := heeded versioned
    let files := t.ignoreFiles origins
    if root.ancestors.any fun dir => files.any fun file =>
      file.directory == dir && Ignore.hasMalformed file.lines
    then none
    else some (t.filesBelow files origins root)

end FileTree
end StyleScan
