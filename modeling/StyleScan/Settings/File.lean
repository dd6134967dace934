import StyleScan.FileTree
import StyleScan.Settings

/-!
# StyleScan.Settings.File

Settings that are kept in a file, and where a run looks for one.

* `Settings.load`     — the settings of a file.
* `Environment`       — what a run is told about the user's directories.
* `Settings.locate?`  — the file that a run takes its settings from, if there is one.
-/

namespace StyleScan

/-- Why a file gives no settings. -/
inductive SettingsFault where
  | unreadable (fault : Fault)
  | malformed
deriving DecidableEq, Repr, Inhabited

/-- The wording of a fault. -/
def SettingsFault.message (path : String) : SettingsFault → String
  | unreadable fault => "Failed to read config file " ++ path ++ ": " ++ fault.message
  | malformed => "Failed to parse config file " ++ path

/-- What a run is told about the user's directories. -/
structure Environment where
  /-- The directory of the user's settings, if one is set. -/
  settingsDirectory : Option String := none
  /-- The user's home directory. -/
  home : Option String := none
deriving DecidableEq, Repr, Inhabited

namespace Settings

/-- The settings of a file. -/
def load (t : FileTree) (path : String) : Except SettingsFault Settings :=
  match t.readText path with
  | .error fault => .error (.unreadable fault)
  | .ok text =>
    match parse? text with
    | some settings => .ok settings
    | none => .error .malformed

/-! ## Where settings are kept -/

/-- The names of a settings file beside what is scanned, the preferred one first. -/
def fileNames : List String := ["manifesto.toml", ".manifesto.toml"]

/-- The directory in which a run looks for settings: the first target if it is a directory, and
else the directory that holds it. -/
def directoryOf (t : FileTree) : List String → String
  | [] => "."
  | first :: _ =>
    if t.isDirectory first then first
    else
      match Path.parent? first with
      | some parent => if parent.isEmpty then "." else parent
      | none => "."

/-- The user's own settings file. -/
def userFile? (e : Environment) : Option String :=
  match e.settingsDirectory with
  | some dir => some (Path.join dir "config.toml")
  | none => e.home.map fun home => Path.join (Path.join home ".manifesto") "config.toml"

/-- The file that a run takes its settings from: the one that is named, whether it exists or not,
else one beside the targets, else the user's own. -/
def locate? (t : FileTree) (e : Environment) (named : Option String) (targets : List String) :
    Option String :=
  let dir := directoryOf t targets
  named.or (((fileNames.map (Path.join dir)).find? t.isFile).or ((userFile? e).filter t.isFile))

end Settings
end StyleScan
