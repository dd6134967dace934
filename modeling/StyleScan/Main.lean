import StyleScan.Program

/-!
# StyleScan.Main

The command line. What a run looks at is read from the disk into a tree, the run itself takes place
there, and what it changed is written back.

* `Disk.entries` — what stands at a location on the disk, and below it.
* `Disk.gather`  — a tree with everything that a command looks at.
* `main`         — a run of the program.
-/

namespace StyleScan
namespace Disk

/-- What stands at a location on the disk, and below it. Linked directories are not followed, and
what cannot be read is passed over. -/
partial def entries (l : Location) : IO (List (Location × Node)) := do
  try
    let here ← IO.FS.realPath l.path
    if ← here.isDir then
      let below ← (← here.readDir).toList.mapM fun child => do
        let place ← IO.FS.realPath child.path
        if place == child.path then entries (l ++ [child.fileName])
        else if ← place.isDir then return []
        else entries (l ++ [child.fileName])
      return (l, .directory) :: below.flatten
    else if ← here.pathExists then
      return [(l, .file (← IO.FS.readBinFile here).toList)]
    else return []
  catch _ => return []

/-- Reads what stands at a location into a tree. -/
def read (t : FileTree) (l : Location) : IO FileTree := do
  match ← entries l with
  | [] => return t
  | found => return t.graft l found

/-- Reads the ignore files of the directories above a location into a tree. -/
def readIgnoreFiles (t : FileTree) (l : Location) : IO FileTree := do
  let files := l.ancestors.flatMap fun dir =>
    (FileTree.heeded true).map fun origin => dir ++ origin.names
  files.foldlM read t

/-- A tree with everything that a command looks at. What is read can lead to more; `known` has been
read before. -/
partial def gather (t : FileTree) (known : List Location) (e : Environment) (c : Command) :
    IO FileTree := do
  let places := (Program.lookedAt t e c).map (Location.ofPath t.current)
  match places.filter (fun l => !known.any fun k => k.isPrefixOf l) with
  | [] => return t
  | l :: _ => gather (← readIgnoreFiles (← read t l) l) (l :: known) e c

/-- Writes the files that differ between two trees. -/
def writeChanges (before after : FileTree) : IO Unit := do
  if before != after then
    for entry in after.nodes do
      match entry.2 with
      | .file bytes =>
        if before.node? entry.1 != some entry.2 then
          IO.FS.writeBinFile entry.1.path (ByteArray.mk bytes.toArray)
      | .directory => pure ()

end Disk
end StyleScan

open StyleScan in
/-- A run of the program. -/
def main (line : List String) : IO UInt32 := do
  let e : Environment :=
    { settingsDirectory := ← IO.getEnv "MANIFESTO_CONFIG_DIR"
      home := (← IO.getEnv "HOME").filter fun home => !home.isEmpty }
  let start : FileTree := { current := Location.ofPath [] (← IO.currentDir).toString }
  let base := start.graft start.current [(start.current, .directory)]
  let t ← Disk.gather base [] e (Command.parse line)
  let outcome := Program.run t e line
  Disk.writeChanges t outcome.tree
  for warning in outcome.warnings do
    IO.eprintln (" WARN " ++ warning)
  if outcome.exitCode = 2 then IO.eprint Program.usage
  if let some message := outcome.error then IO.eprintln ("Error: " ++ message)
  IO.print outcome.output
  return outcome.exitCode.toUInt32
