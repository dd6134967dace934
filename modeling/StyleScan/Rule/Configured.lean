import StyleScan.Rule
import StyleScan.Settings

/-!
# StyleScan.Rule.Configured

The rules that a run's settings ask for.

* `Rule.configured`    — the enabled rules with their options, in the order in which they run.
* `Rule.unknownSections` — the names of sections that belong to no rule.
-/

namespace StyleScan
namespace Rule

/-- Every rule with the options of its section, in the order in which they run. -/
def withOptions (s : Settings) : List Rule :=
  let file := s.rule "file-too-long"
  let line := s.rule "line-too-wide"
  let method := s.rule "method-too-long"
  let word := s.rule "identifier-too-short"
  [ fileLength { maxLines := file.count "max_lines" 700 },
    lineWidth
      { maxWidth := line.count "max_width" 128
        tabWidth := line.count "tab_width" 4
        indentWidth := line.count "indent_width" 4 },
    statementCount {},
    statementSpan {},
    methodLength { maxLines := method.count "max_lines" 20 },
    wordLength
      { minLength := word.count "min_length" 3
        allowed := (word.texts? "allowed").getD ["if", "in", "as", "T"] } ]

/-- The rules that are enabled, with the options of their sections. -/
def configured (s : Settings) : List Rule :=
  (withOptions s).filter fun r => s.isEnabled r.name

/-- The names of the sections that belong to no rule. -/
def unknownSections (s : Settings) : List String :=
  (s.rules.map Prod.fst).filter fun name => !names.contains name

end Rule
end StyleScan
