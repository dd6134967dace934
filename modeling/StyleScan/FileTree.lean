import StyleScan.Encoding.CharsetDecoder
import StyleScan.Path

/-!
# StyleScan.FileTree

The files and directories that a run sees, and how a path leads to one of them. Symbolic links and
permissions are left out: every entry is a plain file or a directory that may be read and written, a
parent component leads to the directory above the place reached so far, and a place has one location
only. That the identity of a path is the location it leads to, and that two paths of one identity
open the same file, rests on this.

* `FileTree`           — every file and directory by its location, and the current directory.
* `FileTree.resolve`   — the location that a path leads to, or why it leads nowhere.
* `FileTree.read`      — the bytes of a file.
* `FileTree.readText`  — the text of a file that is UTF-8 throughout.
* `FileTree.identity`  — equal for two paths that lead to the same place.
* `FileTree.insert`    — the tree with one more entry, and the directories above it.
-/

namespace StyleScan

/-- A place in a tree, as the names from the root down to it. -/
abbrev Location := List String

/-- What is common to all paths to one place. -/
abbrev Identity := List Path.Component

namespace Location

/-- The directories above a location, the nearest one first. -/
def ancestors : Location → List Location
  | [] => []
  | name :: rest => (ancestors rest).map (name :: ·) ++ [[]]

/-- The absolute path of a location. -/
def path (l : Location) : String := "/" ++ "/".intercalate l

/-- The location that a path spells out from a directory, whether anything stands there or not. -/
def ofPath (current : Location) (path : String) : Location :=
  (Path.components path).foldl (fun l component =>
    match component with
    | .root => []
    | .current => l
    | .parent => l.dropLast
    | .name text => l ++ [text]) current

/-- What is common to all paths to the location: the components of the absolute one. -/
def identity (l : Location) : Identity := .root :: l.map .name

/-- The names that lead from a directory down to a location, if it lies there. -/
def under? (dir : Location) (l : Location) : Option (List String) :=
  if dir.isPrefixOf l then some (l.drop dir.length) else none

end Location

/-- What stands at a location. -/
inductive Node where
  | file (bytes : List UInt8)
  | directory
deriving DecidableEq, Repr, Inhabited

/-- Why a path cannot be used. -/
inductive Fault where
  | notFound
  | notDirectory
  | isDirectory
  | nameTooLong
  /-- The path holds a NUL. -/
  | nulInPath
  /-- The file is not UTF-8 throughout. -/
  | notText
deriving DecidableEq, Repr, Inhabited

/-- The wording of a fault. -/
def Fault.message : Fault → String
  | notFound => "No such file or directory (os error 2)"
  | notDirectory => "Not a directory (os error 20)"
  | isDirectory => "Is a directory (os error 21)"
  | nameTooLong => "File name too long (os error 36)"
  | nulInPath => "file name contained an unexpected NUL byte"
  | notText => "stream did not contain valid UTF-8"

/-- The files and directories that exist, and the directory at which relative paths start. The
root is a directory without being listed. -/
structure FileTree where
  nodes : List (Location × Node) := []
  current : Location := []
deriving DecidableEq, Repr, Inhabited

namespace FileTree

/-- What stands at a location. -/
def node? (t : FileTree) (l : Location) : Option Node :=
  if l.isEmpty then some .directory else t.nodes.lookup l

/-- What is found in a list of entries is one of them. -/
theorem mem_of_lookup {entries : List (Location × Node)} {l : Location} {node : Node}
    (h : entries.lookup l = some node) : (l, node) ∈ entries := by
  induction entries with
  | nil => cases h
  | cons entry rest ih =>
    rw [List.lookup_cons] at h
    split at h
    · next hEq =>
      obtain rfl : node = entry.2 := by simpa using h.symm
      simp [LawfulBEq.eq_of_beq hEq]
    · exact List.mem_cons_of_mem _ (ih h)

/-- The most bytes that a name may have. -/
def nameLimit : Nat := 255

/-- The number of bytes from which on a path is too long. -/
def pathLimit : Nat := 4096

/-- Follows one piece of a path from a location, which must be a directory. -/
def follow (t : FileTree) (here : Location) (piece : String) : Except Fault Location :=
  match t.node? here with
  | none => .error .notFound
  | some (.file _) => .error .notDirectory
  | some .directory =>
    if piece = "" ∨ piece = "." then .ok here
    else if piece = ".." then .ok here.dropLast
    else if nameLimit < piece.utf8ByteSize then .error .nameTooLong
    else if (t.node? (here ++ [piece])).isSome then .ok (here ++ [piece])
    else .error .notFound

/-- Follows the pieces of a path one after the other. -/
def followAll (t : FileTree) (here : Location) : List String → Except Fault Location
  | [] => .ok here
  | piece :: rest =>
    match t.follow here piece with
    | .error fault => .error fault
    | .ok next => t.followAll next rest

/-- The location that a path leads to. A relative path starts at the current directory. -/
def resolve (t : FileTree) (path : String) : Except Fault Location :=
  if path.toList.contains '\x00' then .error .nulInPath
  else if pathLimit ≤ path.utf8ByteSize then .error .nameTooLong
  else if path.isEmpty then .error .notFound
  else t.followAll (if Path.isAbsolute path then [] else t.current) (Text.split '/' path)

/-- What a path leads to. -/
def entry (t : FileTree) (path : String) : Except Fault Node :=
  match t.resolve path with
  | .error fault => .error fault
  | .ok l =>
    match t.node? l with
    | some node => .ok node
    | none => .error .notFound

/-- The bytes of the file that a path leads to. -/
def read (t : FileTree) (path : String) : Except Fault (List UInt8) :=
  match t.entry path with
  | .error fault => .error fault
  | .ok .directory => .error .isDirectory
  | .ok (.file bytes) => .ok bytes

/-- The text of bytes that are UTF-8 throughout. -/
def text? (bytes : List UInt8) : Option String :=
  let cs := (CharsetDecoder.utf8 .ready).text bytes
  if cs.flatMap Utf8.encode = bytes.map UInt8.toNat then some (String.ofList cs) else none

/-- The text of the file that a path leads to. -/
def readText (t : FileTree) (path : String) : Except Fault String :=
  match t.read path with
  | .error fault => .error fault
  | .ok bytes =>
    match text? bytes with
    | some text => .ok text
    | none => .error .notText

/-- Whether a path leads to a directory. -/
def isDirectory (t : FileTree) (path : String) : Bool :=
  match t.entry path with
  | .ok .directory => true
  | _ => false

/-- Whether a path leads to a file. -/
def isFile (t : FileTree) (path : String) : Bool :=
  match t.entry path with
  | .ok (.file _) => true
  | _ => false

/-- Whether a path leads anywhere. -/
def contains (t : FileTree) (path : String) : Bool := (t.resolve path).toOption.isSome

/-- What a path stands for, the same for all paths to one place: the components of the absolute
path to it, or its own components if it leads nowhere. -/
def identity (t : FileTree) (path : String) : Identity :=
  match t.resolve path with
  | .ok l => l.identity
  | .error _ => Path.components path

theorem identity_of_resolve {t : FileTree} {path : String} {l : Location}
    (h : t.resolve path = .ok l) : t.identity path = l.identity := by
  rw [identity, h]

/-! ## Changes -/

/-- The tree with a directory at a location, unless something stands there. -/
def ensure (t : FileTree) (l : Location) : FileTree :=
  if (t.node? l).isSome then t else { t with nodes := t.nodes ++ [(l, .directory)] }

/-- The tree with an entry at a location, in place of what stood there, and the directories above
it. -/
def insert (t : FileTree) (l : Location) (node : Node) : FileTree :=
  let above := l.ancestors.foldr (fun dir t => t.ensure dir) t
  { above with nodes := above.nodes.filter (fun entry => entry.1 != l) ++ [(l, node)] }

/-- The tree with what stands at a location and below it replaced by the given entries, and the
directories above it. -/
def graft (t : FileTree) (l : Location) (entries : List (Location × Node)) : FileTree :=
  let above := l.ancestors.foldr (fun dir t => t.ensure dir) t
  { above with nodes := above.nodes.filter (fun entry => !l.isPrefixOf entry.1) ++ entries }

/-- Writes a file by its path. The directory above it must exist, and a directory is not
replaced. -/
def write (t : FileTree) (path : String) (bytes : List UInt8) : Except Fault FileTree :=
  match t.resolve path with
  | .ok l =>
    match t.node? l with
    | some (.file _) => .ok (t.insert l (.file bytes))
    | _ => .error .isDirectory
  | .error .notFound =>
    match Path.parent? path, Path.fileName? path with
    | some dir, some name =>
      match t.resolve (if dir.isEmpty then "." else dir) with
      | .ok above => .ok (t.insert (above ++ [name]) (.file bytes))
      | .error fault => .error fault
    | _, _ => .error .notFound
  | .error fault => .error fault

end FileTree
end StyleScan
