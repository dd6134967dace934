import StyleScan.Proofs.Scan.LineEnding
import StyleScan.Proofs.Scan.Origin

/-!
# StyleScan.Proofs.Scan.SourceLine

What a violation says about the text in which it was found: the number of a line, and that line.

* `Text.lines`           — the lines of a text.
* `IsLine`               — a string is the line of a number, line endings left out.
* `Violation.PointsInto` — the violation has the number of a line, and shows that line.
* `Violation.Placed`     — the violation has the place that its kind asks for.
* `Rule.Anchored`        — what a rule remembers of earlier lines is right.
* `Rule.scanText_placed` — every violation of a scan is in its place.
-/

namespace StyleScan

open Lexical (State Step lineStart lastLine)
open Violation (stripLineEnding isLineEnding)
open Text (fields)

/-- The lines of a text: the pieces between its line feeds. A line feed ends a line, so that nothing
follows the last one. -/
def Text.lines (text : List Char) : List (List Char) :=
  match text.getLast? with
  | none => []
  | some c => if c = '\n' then fields '\n' text.dropLast else fields '\n' text

/-- The string is the `n`-th of the lines, without the line endings behind it. -/
def IsLine (lines : List (List Char)) (n : Nat) (s : String) : Prop :=
  1 ≤ n ∧ ∃ line, lines[n - 1]? = some line ∧
    (stripLineEnding s).toList = line.rdropWhile (· == '\r')

namespace Violation

/-- A line as a violation shows it: without the carriage returns behind it, and with a dot for every
space if it is too wide. -/
def shownLine (kind : Kind) (line : List Char) : List Char :=
  let shown := line.rdropWhile (· == '\r')
  if kind = .lineTooWide then shown.map fun c => if c = ' ' then '.' else c else shown

/-- The violation has the number of one of the lines, and shows that line. -/
def PointsInto (lines : List (List Char)) (v : Violation) : Prop :=
  ∃ n line, v.line = some n ∧ 1 ≤ n ∧ n ≤ lines.length ∧ lines[n - 1]? = some line ∧
    v.sourceLine.toList = shownLine v.kind line

/-- The violation is one of a text with these lines: it complains about no missing file, about the
whole file if the file is too long, and otherwise about a line. Short identifiers are left out,
since they are reported in the middle of a line. -/
structure Placed (lines : List (List Char)) (v : Violation) : Prop where
  notMissing : v.kind ≠ .fileNotFound
  wholeFile : v.kind = .fileTooLong → v.line = none ∧ v.sourceLine = ""
  inLine : v.kind ∈ [.lineTooWide, .oneStatementPerLine, .oneLinePerStatement, .methodTooLong] →
    v.PointsInto lines

/-! ## Violations of a line -/

section Line

variable {lines : List (List Char)} {n : Nat} {s : String} (h : IsLine lines n s)
include h

theorem placed_of_isLine {v : Violation} (hline : v.line = some n)
    (hkind : v.kind ≠ .fileNotFound ∧ v.kind ≠ .fileTooLong)
    (hsource : ∀ line, (stripLineEnding s).toList = line.rdropWhile (· == '\r') →
      v.sourceLine.toList = shownLine v.kind line) : v.Placed lines := by
  obtain ⟨hn, line, hget, hs⟩ := h
  have hlength := (List.getElem?_eq_some_iff.mp hget).1
  refine ⟨hkind.1, fun hfile => absurd hfile hkind.2, fun _ => ?_⟩
  exact ⟨n, line, hline, hn, by omega, hget, hsource line hs⟩

theorem placed_make {kind : Kind} (hkind : kind ≠ .fileNotFound ∧ kind ≠ .fileTooLong)
    (hwide : kind ≠ .lineTooWide) (message : String) (suggestion : Option String) :
    (make kind (some n) message s suggestion).Placed lines := by
  refine placed_of_isLine h rfl hkind ?_
  intro line hs
  show (stripLineEnding s).toList = shownLine kind line
  rw [hs, shownLine, if_neg hwide]

theorem placed_dotted (message : String) (suggestion : Option String) :
    (make .lineTooWide (some n) message (Rule.LineWidth.dotted s) suggestion).Placed lines := by
  refine placed_of_isLine h rfl (by simp [make]) ?_
  intro line hs
  show (stripLineEnding (Rule.LineWidth.dotted s)).toList = shownLine .lineTooWide line
  rw [stripLineEnding_dotted, Rule.LineWidth.dotted, String.toList_ofList, hs, shownLine,
    if_pos rfl]

end Line
end Violation

/-! ## The line of a state -/

theorem not_mem_lastLine (text : List Char) : '\n' ∉ lastLine text := by
  intro h
  have hne := List.mem_rtakeWhile_imp h
  revert hne
  decide

/-- The pieces of a text up to its last line feed, whatever follows. -/
theorem Text.fields_lastLine (as : List Char) :
    ∃ pieces, pieces.length = as.count '\n' ∧
      ∀ bs, fields '\n' (as ++ bs) = pieces ++ fields '\n' (lastLine as ++ bs) := by
  induction as using List.reverseRecOn with
  | nil => exact ⟨[], rfl, fun bs => rfl⟩
  | append_singleton as c ih =>
    obtain ⟨pieces, hlength, hfields⟩ := ih
    rw [Lexical.lastLine_concat]
    by_cases hc : c = '\n'
    · refine ⟨pieces ++ [lastLine as], by simp [hlength, hc], ?_⟩
      intro bs
      rw [List.append_assoc, hfields, hc, if_pos rfl, List.singleton_append,
        fields_append_cons (not_mem_lastLine as)]
      simp
    · refine ⟨pieces, by simp [hlength, hc], ?_⟩
      intro bs
      rw [List.append_assoc, hfields, if_neg hc, List.append_assoc]

theorem Violation.rdropWhile_isLineEnding {line : List Char} (h : '\n' ∉ line) :
    line.rdropWhile isLineEnding = line.rdropWhile (· == '\r') := by
  induction line using List.reverseRecOn with
  | nil => rfl
  | append_singleton line c ih =>
    rw [List.mem_append, not_or, List.mem_singleton] at h
    have hc : isLineEnding c = (c == '\r') := by simp [isLineEnding, Ne.symm h.2]
    rw [List.rdropWhile_concat, List.rdropWhile_concat, ih h.1, hc]

theorem isLine_lastLine (as bs : List Char) (hbs : ∀ c ∈ bs.head?, c = '\n') :
    IsLine (fields '\n' (as ++ bs)) (1 + as.count '\n') (String.ofList (lastLine as)) := by
  obtain ⟨pieces, hlength, hfields⟩ := Text.fields_lastLine as
  refine ⟨Nat.le_add_right .., lastLine as, ?_, ?_⟩
  · have hhead : (fields '\n' (lastLine as ++ bs))[0]? = some (lastLine as) := by
      cases bs with
      | nil => rw [List.append_nil, Text.fields_of_not_mem (not_mem_lastLine as)]; rfl
      | cons c bs =>
        rw [hbs c rfl, Text.fields_append_cons (not_mem_lastLine as)]
        rfl
    rw [hfields, Nat.add_sub_cancel_left, ← hlength, List.getElem?_append_right (Nat.le_refl _),
      Nat.sub_self, hhead]
  · rw [Violation.toList_stripLineEnding, String.toList_ofList,
      Violation.rdropWhile_isLineEnding (not_mem_lastLine as)]

namespace Lexical.State

theorem isLine_run (text : List Char) :
    let s := ({} : State).run text
    IsLine (fields '\n' text) s.lineNumber s.currentLine := by
  intro s
  have hrepresents := represents_run text
  rw [hrepresents.lineNumber, hrepresents.currentLine]
  simpa using isLine_lastLine text [] (by simp)

theorem isLine_enter (before after : List Char) :
    let s := (({} : State).run before).enter '\n'
    IsLine (fields '\n' (before ++ '\n' :: after)) s.lineNumber s.currentLine := by
  have hrepresents := represents_run before
  have hline := isLine_lastLine before ('\n' :: after) (by simp)
  rw [← hrepresents.lineNumber, ← hrepresents.currentLine] at hline
  rw [enter_newline]
  simpa [IsLine, push, Violation.stripLineEnding_push (c := '\n') rfl] using hline

end Lexical.State

/-! ## What a rule remembers -/

namespace Rule

/-- What a rule holds back is in its place, and the line that opened its method is a line of the
text. -/
structure Anchored (lines : List (List Char)) (r : Rule) : Prop where
  heldBack : ∀ v ∈ r.heldBack, v.Placed lines
  method (q : MethodLength) : r = methodLength q → q.inMethod = true →
    IsLine lines q.openingNumber q.openingLine

theorem anchored_fresh (lines : List (List Char)) (r : Rule) : r.fresh.Anchored lines := by
  constructor
  case heldBack => cases r <;> exact fun v hv => (List.not_mem_nil hv).elim
  case method =>
    intro q hq hmethod
    cases r with
    | methodLength r =>
      rw [← methodLength.inj hq] at hmethod
      cases hmethod
    | _ => cases hq

/-- If a method is open behind a step, the same one was open before. -/
def MethodLength.Opened (r r' : MethodLength) : Prop :=
  r'.inMethod = true →
    r.inMethod = true ∧ r'.openingLine = r.openingLine ∧ r'.openingNumber = r.openingNumber

theorem MethodLength.opened_count (r : MethodLength) (c : Char) : r.Opened (r.count c).1 := by
  have hbrace : r.Opened r.closeBrace.1 := by
    rw [closeBrace]
    split
    · intro h
      cases h
    · exact fun h => ⟨h, rfl, rfl⟩
  simp only [count]
  split
  · exact fun h => ⟨h, rfl, rfl⟩
  · split
    · exact fun h => ⟨h, rfl, rfl⟩
    · split
      · exact fun h => ⟨h, rfl, rfl⟩
      · split
        · exact hbrace
        · exact fun h => ⟨h, rfl, rfl⟩

theorem MethodLength.opened_endLine (r : MethodLength) (s : State) :
    r.Opened (r.endLine s) ∨
      (r.endLine s).openingLine = s.currentLine ∧ (r.endLine s).openingNumber = s.lineNumber := by
  rw [endLine]
  split
  · left
    split
    · exact fun h => ⟨h, rfl, rfl⟩
    · exact fun h => ⟨h, rfl, rfl⟩
  · split
    · exact .inr ⟨rfl, rfl⟩
    · exact .inl fun h => ⟨h, rfl, rfl⟩

/-- A method that is open behind a character was open before, or the end of the line opens it. -/
theorem MethodLength.opened_check (r : MethodLength) (c : Char) (s : State) :
    r.Opened (r.check c s).1 ∨
      s.step = .lineEnd ∧ (r.check c s).1.openingLine = s.currentLine ∧
        (r.check c s).1.openingNumber = s.lineNumber := by
  simp only [check]
  split
  · next hs => exact (r.opened_endLine s).imp_right fun h => ⟨hs, h⟩
  · left
    split
    · exact fun h => ⟨h, rfl, rfl⟩
    · split
      · exact fun h => ⟨h, rfl, rfl⟩
      · exact opened_count { r with hasCode := true } c
  · exact .inl fun h => ⟨h, rfl, rfl⟩

/-- What a rule writes is in its place, if what it looks at is a line of the text. -/
theorem Writes.placed {lines : List (List Char)} {r : Rule} (hr : r.Anchored lines) {s : State}
    {v : Violation} (hv : r.Writes s v)
    (hs : IsLine lines s.lineNumber s.currentLine ∨ r.kind = .methodTooLong ∨
      r.kind = .identifierTooShort) :
    v.Placed lines := by
  cases r with
  | fileLength r =>
    rw [show v = r.violation from hv]
    refine ⟨by simp [FileLength.violation, Violation.make], fun _ => ⟨rfl, rfl⟩, ?_⟩
    simp [FileLength.violation, Violation.make]
  | lineWidth r =>
    rw [show v = r.violation s from hv]
    have hline := hs.resolve_right (by simp [Rule.kind])
    exact Violation.placed_dotted hline ..
  | statementCount r =>
    rw [show v = StatementCount.violation s from hv]
    have hline := hs.resolve_right (by simp [Rule.kind])
    exact Violation.placed_make hline (by decide) (by decide) ..
  | statementSpan r =>
    rw [show v = StatementSpan.violation s from hv]
    have hline := hs.resolve_right (by simp [Rule.kind])
    exact Violation.placed_make hline (by decide) (by decide) ..
  | methodLength r =>
    obtain ⟨hmethod, rfl⟩ := hv
    have hline := hr.method r rfl hmethod
    exact Violation.placed_make hline (by decide) (by decide) ..
  | wordLength r =>
    rw [show v = r.violation s from hv]
    constructor <;> simp [WordLength.violation, Violation.make]
  | observer kind => exact hv.elim

/-! ## Along a text -/

theorem anchored_check {lines : List (List Char)} {r : Rule} (hr : r.Anchored lines) (c : Char)
    {s : State} (hs : s.step = .lineEnd → IsLine lines s.lineNumber s.currentLine) :
    (r.check c s).1.Anchored lines ∧ ∀ v ∈ (r.check c s).2, v.Placed lines := by
  have hplaced {v : Violation} (hv : v ∈ (r.check c s).2 ∨ v ∈ (r.check c s).1.heldBack) :
      v.Placed lines := by
    rcases mem_check hv with hheld | ⟨hwrites, hplace⟩
    · exact hr.heldBack v hheld
    · exact hwrites.placed hr (hplace.imp_left hs)
  refine ⟨⟨fun v hv => hplaced (.inr hv), ?_⟩, fun v hv => hplaced (.inl hv)⟩
  intro q hq hmethod
  cases r with
  | methodLength r =>
    obtain rfl : (r.check c s).1 = q := methodLength.inj hq
    rcases r.opened_check c s with hopened | ⟨hend, hline, hnumber⟩
    · obtain ⟨hopen, hline, hnumber⟩ := hopened hmethod
      rw [hline, hnumber]
      exact hr.method r rfl hopen
    · rw [hline, hnumber]
      exact hs hend
  | _ => cases hq

/-- Every violation of a scan is in its place among the pieces of the text. -/
theorem scanText_placed_fields (r : Rule) (text : List Char) :
    ∀ v ∈ scanText [r] text, v.Placed (fields '\n' text) := by
  refine forall_scanText (I := Anchored (fields '\n' text)) ?_ ?_ (anchored_fresh _ r)
  · rintro before c after rfl r hr
    refine anchored_check hr c fun hend => ?_
    obtain rfl := (State.step_enter_eq_lineEnd_iff _ c).mp hend
    exact State.isLine_enter before after
  · intro r hr v hv
    rcases mem_close hv with hheld | hwrites
    · exact hr.heldBack v hheld
    · exact hwrites.placed hr (.inl (State.isLine_run text))

theorem scanText_nil (r : Rule) : scanText [r] [] = [] := by
  rw [scanText_alone]
  exact close_fresh r

/-- **Findings point at the right text.** A violation found in a text, under any rules, complains
about no missing file. A file that is too long is reported without a line. A line that is too wide
or holds several statements, a statement that goes on and a method that is too long are reported
with the number of a line, and show that line. -/
theorem scanText_placed (rules : List Rule) (text : List Char) :
    ∀ v ∈ scanText rules text, v.Placed (Text.lines text) := by
  intro v hv
  obtain ⟨r, _, hv⟩ := mem_scanText hv
  have hplaced := scanText_placed_fields r text v hv
  cases hlast : text.getLast? with
  | none =>
    rw [List.getLast?_eq_none_iff.mp hlast, scanText_nil] at hv
    cases hv
  | some c =>
    by_cases hc : c = '\n'
    · subst hc
      obtain ⟨before, rfl⟩ := List.getLast?_eq_some_iff.mp hlast
      have hlines : Text.lines (before ++ ['\n']) = fields '\n' before := by simp [Text.lines]
      rw [hlines]
      by_cases hr : r.kind = .fileTooLong
      · have hv : v.kind = .fileTooLong := (kind_of_mem_scanText hv).trans hr
        exact ⟨hplaced.notMissing, hplaced.wholeFile, by simp [hv]⟩
      · -- the same is found without the line feed
        rw [scanText_newline hr] at hv
        exact scanText_placed_fields r before v hv
    · simpa [Text.lines, hlast, hc] using hplaced

/-- A method that is reported two lines behind the line that opened it, and a wide line that is
reported at its end. -/
theorem scanText_placed_method :
    let rules := [methodLength { maxLines := 0 }, lineWidth { maxWidth := 5 }]
    let text := ['m', '(', ')', ' ', '{', '\r', '\n', '\n', ' ', '}', ' ', '/', '/', ' ', '\r']
    (scanText rules text).map (fun v => (v.kind, v.line, v.sourceLine.toList)) =
        [(.methodTooLong, some 1, ['m', '(', ')', ' ', '{']),
          (.lineTooWide, some 3, ['.', '}', '.', '/', '/', '.'])] ∧
      ∃ v ∈ scanText rules text, v.kind = .methodTooLong ∧ v.PointsInto (Text.lines text) := by
  intro rules text
  have hfound : (scanText rules text).map (fun v => (v.kind, v.line, v.sourceLine.toList)) =
      [(.methodTooLong, some 1, ['m', '(', ')', ' ', '{']),
        (.lineTooWide, some 3, ['.', '}', '.', '/', '/', '.'])] := by
    decide +kernel
  refine ⟨hfound, ?_⟩
  obtain ⟨v, hv, hkind⟩ : ∃ v ∈ scanText rules text, (v.kind, v.line, v.sourceLine.toList) =
      (.methodTooLong, some 1, ['m', '(', ')', ' ', '{']) := by
    rw [← List.mem_map, hfound]
    exact List.mem_cons_self
  have hmethod : v.kind = .methodTooLong := congrArg Prod.fst hkind
  exact ⟨v, hv, hmethod, (scanText_placed rules text v hv).inLine (by simp [hmethod])⟩

end Rule
end StyleScan
