import StyleScan.Rule.FileLength
import StyleScan.Rule.LineWidth
import StyleScan.Rule.StatementCount
import StyleScan.Rule.StatementSpan
import StyleScan.Rule.MethodLength
import StyleScan.Rule.WordLength

/-!
# StyleScan.Rule

A rule of any kind: a small machine that observes every character of a file, in order, in the
lexical state of that character. A rule sees the lexical state and cannot change it.

* `Rule`          — the six built-in rules, and an observer that reports nothing.
* `Rule.check`    — observes one character.
* `Rule.close`    — judges the last line and the file.
* `Rule.fresh`    — the rule with the same options, before any text.
* `Rule.defaults` — every built-in rule with its default options, in the order in which they run.
-/

namespace StyleScan

open Lexical (State)

/-- A style rule with its options and what it has seen so far. -/
inductive Rule where
  | fileLength (r : Rule.FileLength)
  | lineWidth (r : Rule.LineWidth)
  | statementCount (r : Rule.StatementCount)
  | statementSpan (r : Rule.StatementSpan)
  | methodLength (r : Rule.MethodLength)
  | wordLength (r : Rule.WordLength)
  | observer (kind : Kind)
deriving DecidableEq, Repr

namespace Rule

/-- The kind of violation that a rule reports. -/
def kind : Rule → Kind
  | fileLength _ => .fileTooLong
  | lineWidth _ => .lineTooWide
  | statementCount _ => .oneStatementPerLine
  | statementSpan _ => .oneLinePerStatement
  | methodLength _ => .methodTooLong
  | wordLength _ => .identifierTooShort
  | observer kind => kind

/-- The name of a rule. -/
def name (r : Rule) : String := r.kind.ruleName

/-- The code of a rule. -/
def code (r : Rule) : String := r.kind.code

/-- What a rule asks for, in a sentence. -/
def description : Rule → String
  | fileLength _ => "Limits the number of code lines in a file"
  | lineWidth _ => "Limits the width of a line, counting indentation from brace depth"
  | statementCount _ => "Forbids more than one statement on a line"
  | statementSpan _ => "Requires every statement to end on the line it starts on"
  | methodLength _ => "Limits the number of lines in a method body"
  | wordLength _ => "Requires identifiers of a minimum length"
  | observer _ => ""

/-- The severity of a rule's violations when the settings give none. -/
def defaultSeverity (_ : Rule) : Severity := .error

/-- Observes one character in its lexical state. -/
def check (c : Char) (s : State) : Rule → Rule × List Violation
  | fileLength r => (r.check c s).map fileLength id
  | lineWidth r => (r.check c s).map lineWidth id
  | statementCount r => (r.check c s).map statementCount id
  | statementSpan r => (r.check c s).map statementSpan id
  | methodLength r => (r.check c s).map methodLength id
  | wordLength r => (r.check c s).map wordLength id
  | observer kind => (observer kind, [])

/-- Judges the last line and the file, in the state after the last character. -/
def close (s : State) : Rule → Rule × List Violation
  | fileLength r => (r.close s).map fileLength id
  | lineWidth r => (r.close s).map lineWidth id
  | statementCount r => (r.close s).map statementCount id
  | statementSpan r => (r.close s).map statementSpan id
  | methodLength r => (r.close s).map methodLength id
  | wordLength r => (r.close s).map wordLength id
  | observer kind => (observer kind, [])

/-- The rule with the same options, before any text. -/
def fresh : Rule → Rule
  | fileLength r => fileLength r.fresh
  | lineWidth r => lineWidth r.fresh
  | statementCount r => statementCount r.fresh
  | statementSpan r => statementSpan r.fresh
  | methodLength r => methodLength r.fresh
  | wordLength r => wordLength r.fresh
  | observer kind => observer kind

@[simp] theorem kind_check (c : Char) (s : State) (r : Rule) : (r.check c s).1.kind = r.kind := by
  cases r <;> rfl

@[simp] theorem kind_close (s : State) (r : Rule) : (r.close s).1.kind = r.kind := by
  cases r <;> rfl

@[simp] theorem kind_fresh (r : Rule) : r.fresh.kind = r.kind := by
  cases r <;> rfl

/-- Every built-in rule with its default options, in the order in which they run. -/
def defaults : List Rule :=
  [fileLength {}, lineWidth {}, statementCount {}, statementSpan {}, methodLength {},
    wordLength {}]

/-- The names of the built-in rules, in the order in which they run. -/
def names : List String := defaults.map name

end Rule
end StyleScan
