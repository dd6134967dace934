import StyleScan.Rule.Configured
import StyleScan.Text.Blank
import StyleScan.Text.Search

/-!
# StyleScan.Rule.Selection

Choosing rules by name or code.

* `Rule.answersTo`   — a rule answers to its name, and to its code in letters of any case.
* `Rule.selected`    — the configured rules that answer to one of the chosen names, in the order in
  which they run.
* `Rule.isKnownName` — whether a chosen name draws no warning.
-/

namespace StyleScan
namespace Rule

/-- Whether a rule answers to a name. -/
def answersTo (r : Rule) (name : String) : Bool :=
  name == r.name || Text.sameLetters name r.code

/-- The configured rules, narrowed to those that answer to one of the names if there are any. -/
def selected (s : Settings) : Option (List String) → List Rule
  | none => configured s
  | some chosen => (configured s).filter fun r => chosen.any r.answersTo

/-- Whether a name is that of a rule, or a code of any kind of violation. -/
def isKnownName (name : String) : Bool :=
  names.contains name || Kind.all.any fun kind => Text.sameLetters kind.code name

/-- The chosen names in a list with commas, without the blanks around them. -/
def chosenNames (list : String) : List String := (Text.split ',' list).map Text.trim

end Rule
end StyleScan
