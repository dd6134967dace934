import StyleScan.FileTree
import StyleScan.Ignore.Pattern

/-!
# StyleScan.Ignore

Ignore files and what they leave out. Every directory may hold three of them, of falling
precedence. Of the files of one sort the nearest one that says anything about an entry decides,
and in a file its last pattern that matches does.

* `Origin`           — the three sorts of ignore files.
* `IgnoreFile`       — the patterns of one file, and the directory that it stands in.
* `FileTree.ignoreFiles` — every ignore file of a tree.
* `Ignore.leavesOut` — whether an entry is left out.
-/

namespace StyleScan
namespace Ignore

/-- The sorts of ignore files. -/
inductive Origin where
  /-- Holds for every tool. -/
  | general
  /-- Belongs to version control. -/
  | versioned
  /-- Belongs to one copy of a repository. -/
  | personal
deriving DecidableEq, Repr, Inhabited

/-- Where the file of a sort stands below its directory. -/
def Origin.names : Origin → List String
  | general => [".ignore"]
  | versioned => [".gitignore"]
  | personal => [".git", "info", "exclude"]

/-! ## Files -/

/-- The lines of a file. A line ends at a line feed and loses the carriage return before it; a last
line without a line feed keeps one. -/
def splitLines (bytes : List UInt8) : List (List UInt8) :=
  let pieces := Text.fields 0x0A bytes
  let ended := pieces.dropLast.map fun line =>
    if line.getLast? = some 0x0D then line.dropLast else line
  ended ++ (pieces.getLast?.toList.filter fun line => !line.isEmpty)

/-- The texts of lines up to the first one that is not UTF-8. -/
def readable : List (List UInt8) → List (List Char)
  | [] => []
  | line :: rest =>
    match FileTree.text? line with
    | some text => text.toList :: readable rest
    | none => []

/-- Drops the byte-order marks in front of the first line. -/
def dropMarks : List (List Char) → List (List Char)
  | [] => []
  | line :: rest => (line.dropWhile (· == '\ufeff')) :: rest

/-- The lines of an ignore file. -/
def fileLines (bytes : List UInt8) : List Pattern.Line :=
  (dropMarks (readable (splitLines bytes))).map Pattern.ofLine

/-- The patterns of lines; malformed ones are passed over. -/
def patterns (lines : List Pattern.Line) : List Pattern :=
  lines.filterMap fun line =>
    match line with
    | .pattern p => some p
    | _ => none

/-- Whether some line is malformed. -/
def hasMalformed (lines : List Pattern.Line) : Bool :=
  lines.any fun line =>
    match line with
    | .malformed => true
    | _ => false

end Ignore

/-- An ignore file, and the directory that it stands in. -/
structure IgnoreFile where
  directory : Location
  origin : Ignore.Origin
  lines : List Ignore.Pattern.Line

namespace FileTree

/-- The ignore file at a location, if its name is that of one of the sorts. -/
def ignoreFile? (origins : List Ignore.Origin) (entry : Location × Node) : Option IgnoreFile :=
  match entry.2 with
  | .directory => none
  | .file bytes =>
    (origins.find? fun origin => origin.names.isSuffixOf entry.1).map fun origin =>
      { directory := entry.1.take (entry.1.length - origin.names.length)
        origin
        lines := Ignore.fileLines bytes }

/-- Every ignore file of the given sorts. -/
def ignoreFiles (t : FileTree) (origins : List Ignore.Origin) : List IgnoreFile :=
  t.nodes.filterMap (ignoreFile? origins)

end FileTree

namespace Ignore

/-- The bytes of a path below a directory. -/
def pathBytes (names : List String) : List Nat :=
  ("/".intercalate names).toList.flatMap Utf8.encode

/-- What a file says about an entry: whether it is left out, or nothing. -/
def verdict? (file : IgnoreFile) (names : List String) (isDirectory : Bool) : Option Bool :=
  let path := pathBytes names
  ((patterns file.lines).reverse.find? fun p =>
    (!p.directoriesOnly || isDirectory) && p.accepts path).map fun p => !p.keeps

/-- What the files of one sort say about an entry: the nearest file that says anything decides. -/
def verdictOf? (files : List IgnoreFile) (origin : Origin) (l : Location) (isDirectory : Bool) :
    Option Bool :=
  l.ancestors.findSome? fun dir =>
    match files.find? fun file => file.origin == origin && file.directory == dir with
    | some file => verdict? file (l.drop dir.length) isDirectory
    | none => none

/-- Whether an entry is left out by files of the given sorts, those of the first sort before those
of the others. -/
def leavesOut (files : List IgnoreFile) (origins : List Origin) (l : Location)
    (isDirectory : Bool) : Bool :=
  (origins.findSome? fun origin => verdictOf? files origin l isDirectory).getD false

end Ignore
end StyleScan
