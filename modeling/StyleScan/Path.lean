import StyleScan.Text.Search

/-!
# StyleScan.Path

Paths as they are written. A path keeps its text, doubled slashes and dots included; its
components are what the text says once those are left out.

* `Path.components` — the root, a leading dot, double dots, and names, in order.
* `Path.join`       — a path below another; an absolute path stands for itself.
* `Path.parent?`    — the text in front of the last component.
* `Path.extension?` — what follows the last dot of the file name.
* `Path.le`         — components compared one by one, the order in which files are listed.
-/

namespace StyleScan
namespace Path

/-- A step of a path. -/
inductive Component where
  | root
  /-- A dot in front of the path; any other dot is left out. -/
  | current
  | parent
  | name (text : String)
deriving DecidableEq, Repr, Inhabited

/-- Whether a path starts at the root. -/
def isAbsolute (path : String) : Bool := path.toList.head? == some '/'

/-- Whether a piece between two slashes is a step at all. -/
def isStep (piece : String) : Bool := piece != "" && piece != "."

/-- The step that a piece stands for. -/
def step (piece : String) : Component := if piece == ".." then .parent else .name piece

/-- The first component of a path, if it is the root or a dot, and the pieces behind it. -/
def start (path : String) : Option Component × List String :=
  match Text.split '/' path with
  | "" :: rest => if isAbsolute path then (some .root, rest) else (none, rest)
  | "." :: rest => (some .current, rest)
  | pieces => (none, pieces)

/-- The components of a path. -/
def components (path : String) : List Component :=
  (start path).1.toList ++ ((start path).2.filter isStep).map step

/-- The path of `item` below `dir`. An absolute item stands for itself, and one slash is put
between the two unless `dir` is empty or ends in one. -/
def join (dir item : String) : String :=
  if isAbsolute item then item
  else if dir.isEmpty || dir.toList.getLast? == some '/' then dir ++ item
  else dir ++ "/" ++ item

/-- The path of the entry that is reached from `dir` through the given names. -/
def descend (dir : String) (names : List String) : String := names.foldl join dir

/-- Drops the pieces at the end that are no steps. -/
def trimEnd (pieces : List String) : List String :=
  (pieces.reverse.dropWhile fun piece => !isStep piece).reverse

/-- The text of a path from its first component and the pieces behind it. -/
def write (first : Option Component) (pieces : List String) : String :=
  let rest := "/".intercalate pieces
  match first with
  | some .root => "/" ++ rest
  | some .current => if pieces.isEmpty then "." else "./" ++ rest
  | _ => rest

/-- The path in front of the last component. The root and the empty path have none. -/
def parent? (path : String) : Option String :=
  let (first, pieces) := start path
  match trimEnd pieces with
  | [] =>
    match first with
    | some .current => some ""
    | _ => none
  | steps => some (write first (trimEnd steps.dropLast))

/-- The last component, if it is a name. -/
def fileName? (path : String) : Option String :=
  match (components path).getLast? with
  | some (.name text) => some text
  | _ => none

/-- What follows the last dot of a name; a dot in front of the name does not count. -/
def nameExtension? (name : String) : Option String :=
  let reversed := name.toList.reverse
  match reversed.dropWhile fun c => c != '.' with
  | [] => none
  | _ :: stem =>
    if stem.isEmpty then none
    else some (String.ofList (reversed.takeWhile fun c => c != '.').reverse)

/-- The extension of the file that a path names. -/
def extension? (path : String) : Option String := (fileName? path).bind nameExtension?

/-! ## Order -/

/-- The rank of a component's sort: the root first, names last. -/
def Component.rank : Component → Nat
  | root => 0
  | current => 1
  | parent => 2
  | name _ => 3

/-- The text of a component that is a name. -/
def Component.text : Component → String
  | name text => text
  | _ => ""

/-- Whether a component comes before another: by sort, and names by their characters. -/
def Component.before (a b : Component) : Bool :=
  a.rank < b.rank || (a.rank == b.rank && a.text < b.text)

/-- Whether a list of components is at most another, compared one by one from the front. -/
def componentsLE : List Component → List Component → Bool
  | [], _ => true
  | _ :: _, [] => false
  | a :: as, b :: bs => a.before b || (a == b && componentsLE as bs)

/-- Whether a path is at most another in the order of their components. -/
def le (p q : String) : Bool := componentsLE (components p) (components q)

end Path
end StyleScan
