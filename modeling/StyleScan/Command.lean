import StyleScan.Report.Format
import StyleScan.Text.Search

/-!
# StyleScan.Command

What a command line asks for. Options may be joined (`-vf text`), may carry their value (`-ftext`,
`--format=text`) or be followed by it, and end at `--`. An option that takes a value is not
followed by another option, and one that is not a list is given once.

* `Flag`           — the options.
* `Level`          — where an option stands: before the command's name, or behind it.
* `Arguments.read` — the options and operands of a level.
* `Command.parse`  — what a command line asks for.
-/

namespace StyleScan

/-- The options. -/
inductive Flag where
  | verbose
  | config
  | help
  | version
  | project
  | format
  | rules
  | exclude
  | force
deriving DecidableEq, Repr, Inhabited

/-- Where an option stands. -/
inductive Level where
  /-- In front of the command's name. -/
  | top
  | check
  | listRules
  | init
deriving DecidableEq, Repr, Inhabited

namespace Flag

/-- Whether an option is followed by a value. -/
def takesValue : Flag → Bool
  | config => true
  | project => true
  | format => true
  | rules => true
  | exclude => true
  | _ => false

/-- Whether an option may be given more than once. -/
def isList : Flag → Bool
  | project => true
  | exclude => true
  | _ => false

/-- Whether an option accepts a value. -/
def accepts (f : Flag) (value : String) : Bool :=
  match f with
  | format => (Format.ofName? value).isSome
  | config => !value.isEmpty
  | project => !value.isEmpty
  | _ => true

/-- The options of every level, with their names. -/
def common : List (Flag × String × Option Char) :=
  [(verbose, "verbose", some 'v'), (config, "config", some 'c'), (help, "help", some 'h')]

end Flag

namespace Level

/-- The options of a level, with their names of several letters and of one. -/
def flags : Level → List (Flag × String × Option Char)
  | top => (Flag.version, "version", some 'V') :: Flag.common
  | check =>
    [(.project, "project", some 'p'), (.format, "format", some 'f'), (.rules, "rules", none),
      (.exclude, "exclude", some 'e')] ++ Flag.common
  | listRules => Flag.common
  | init => (.force, "force", none) :: Flag.common

/-- The option of a name of several letters. -/
def long? (l : Level) (name : String) : Option Flag :=
  (l.flags.find? fun entry => entry.2.1 == name).map Prod.fst

/-- The option of a name of one letter. -/
def short? (l : Level) (c : Char) : Option Flag :=
  (l.flags.find? fun entry => entry.2.2 == some c).map Prod.fst

/-- The command of a name. -/
def ofName? : String → Option Level
  | "check" => some check
  | "list-rules" => some listRules
  | "init" => some init
  | _ => none

end Level

/-- The options and operands of a level, in the order in which they were given. -/
structure Arguments where
  flags : List Flag := []
  values : List (Flag × String) := []
  operands : List String := []
deriving DecidableEq, Repr, Inhabited

namespace Arguments

/-- The value of an option that is given once. -/
def value? (a : Arguments) (f : Flag) : Option String := a.values.lookup f

/-- The values of an option that is a list. -/
def valuesOf (a : Arguments) (f : Flag) : List String :=
  (a.values.filter fun entry => entry.1 == f).map Prod.snd

/-- Adds an option without a value. -/
def addFlag? (a : Arguments) (f : Flag) : Option Arguments :=
  if a.flags.contains f then none else some { a with flags := a.flags ++ [f] }

/-- Adds an option with its value. -/
def addValue? (a : Arguments) (f : Flag) (value : String) : Option Arguments :=
  if !f.accepts value || (!f.isList && a.flags.contains f) then none
  else some { a with flags := a.flags ++ [f], values := a.values ++ [(f, value)] }

/-- Adds an operand; only a check has any, and none is empty. -/
def addOperand? (a : Arguments) (l : Level) (operand : String) : Option Arguments :=
  if l = .check ∧ !operand.isEmpty then some { a with operands := a.operands ++ [operand] }
  else none

/-- Adds operands. -/
def addOperands? (a : Arguments) (l : Level) : List String → Option Arguments
  | [] => some a
  | operand :: rest =>
    match a.addOperand? l operand with
    | none => none
    | some a => a.addOperands? l rest

end Arguments

/-- How reading a level ends. -/
inductive Reading where
  | done (a : Arguments)
  /-- The name of a command was met; the rest of the line belongs to it. -/
  | command (a : Arguments) (name : String) (rest : List String)
  | help
  | version
  | misuse
deriving DecidableEq, Repr, Inhabited

/-- How reading one argument with options ends. -/
inductive Taken where
  | added (a : Arguments)
  /-- The next argument is the value of an option. -/
  | wants (a : Arguments) (f : Flag)
  | ends (r : Reading)
deriving DecidableEq, Repr, Inhabited

namespace Arguments

/-- Adds an option without a value, or ends the reading for help or the version. -/
def takeFlag (a : Arguments) (f : Flag) : Taken :=
  match f with
  | .help => .ends .help
  | .version => .ends .version
  | f =>
    match a.addFlag? f with
    | some a => .added a
    | none => .ends .misuse

/-- Adds an option with the value it carries. -/
def takeValue (a : Arguments) (f : Flag) (value : List Char) : Taken :=
  match a.addValue? f (String.ofList value) with
  | some a => .added a
  | none => .ends .misuse

/-- Takes an option of several letters, without the dashes in front of it. -/
def takeLong (a : Arguments) (l : Level) (cs : List Char) : Taken :=
  let name := cs.takeWhile (· != '=')
  match l.long? (String.ofList name), cs.dropWhile (· != '=') with
  | none, _ => .ends .misuse
  | some f, [] => if f.takesValue then .wants a f else a.takeFlag f
  | some f, _ :: value => if f.takesValue then a.takeValue f value else .ends .misuse

/-- Takes options of one letter, without the dash in front of them. -/
def takeShort (l : Level) (a : Arguments) : List Char → Taken
  | [] => .added a
  | c :: cs =>
    match l.short? c with
    | none => .ends .misuse
    | some f =>
      if f.takesValue then
        match cs with
        | [] => .wants a f
        | '=' :: value => a.takeValue f value
        | value => a.takeValue f value
      else
        match a.takeFlag f with
        | .added a => takeShort l a cs
        | other => other

/-- Whether an argument is read as an option. A single dash is not. -/
def isOption (argument : String) : Bool :=
  match argument.toList with
  | '-' :: _ :: _ => true
  | _ => false

/-- Takes an argument that is read as an option. -/
def takeOption (a : Arguments) (l : Level) (argument : String) : Taken :=
  match argument.toList with
  | '-' :: '-' :: cs => a.takeLong l cs
  | cs => takeShort l a (cs.drop 1)

/-- Takes the operands behind `--`. -/
def takeRest (a : Arguments) (l : Level) (operands : List String) : Reading :=
  match a.addOperands? l operands with
  | some a => .done a
  | none => .misuse

/-- Reads the arguments of a level. -/
def read (l : Level) (a : Arguments) : List String → Reading
  | [] => .done a
  | argument :: rest =>
    if argument == "--" then a.takeRest l rest
    else if isOption argument then
      match a.takeOption l argument with
      | .added a => read l a rest
      | .ends r => r
      | .wants a f =>
        match rest with
        | [] => .misuse
        | value :: rest =>
          if isOption value then .misuse
          else
            match a.addValue? f value with
            | some a => read l a rest
            | none => .misuse
    else if l = .top then .command a argument rest
    else
      match a.addOperand? l argument with
      | some a => read l a rest
      | none => .misuse

end Arguments

/-- What a check is asked for. -/
structure CheckOptions where
  /-- Files and directories to scan. -/
  paths : List String := []
  /-- Projects whose files are scanned. -/
  projects : List String := []
  format : Format := .text
  /-- The rules to run, as a list with commas. -/
  rules : Option String := none
  /-- Patterns of files to leave out. -/
  excludes : List String := []
deriving DecidableEq, Repr, Inhabited

/-- What a command line asks for. -/
inductive Command where
  | check (settingsFile : Option String) (options : CheckOptions)
  | listRules
  | init (force : Bool)
  | help
  | version
  /-- The line cannot be understood. -/
  | misuse
deriving DecidableEq, Repr, Inhabited

namespace Command

/-- The command of a level from its arguments. The settings file is the one that is named behind
the command, or else the one in front of it. A check without targets takes the current
directory. -/
def ofArguments (l : Level) (top a : Arguments) : Command :=
  match l with
  | .top => misuse
  | .listRules => listRules
  | .init => init (a.flags.contains .force)
  | .check =>
    let projects := a.valuesOf .project
    check ((a.value? .config).or (top.value? .config))
      { paths := if a.operands.isEmpty && projects.isEmpty then ["."] else a.operands
        projects
        format := ((a.value? .format).bind Format.ofName?).getD .text
        rules := a.value? .rules
        excludes := a.valuesOf .exclude }

/-- What is asked behind the word `help`, which takes the name of one command at most. -/
def parseHelp : List String → Command
  | [] => help
  | [name] => if name == "help" || (Level.ofName? name).isSome then help else misuse
  | _ => misuse

/-- What is asked of a command by name. -/
def parseNamed (top : Arguments) (name : String) (rest : List String) : Command :=
  match Level.ofName? name with
  | none => if name == "help" then parseHelp rest else misuse
  | some l =>
    match Arguments.read l {} rest with
    | .done a => ofArguments l top a
    | .help => help
    | _ => misuse

/-- What a command line asks for. -/
def parse (line : List String) : Command :=
  match Arguments.read .top {} line with
  | .command top name rest => parseNamed top name rest
  | .help => help
  | .version => version
  | _ => misuse

end Command
end StyleScan
