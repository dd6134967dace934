import StyleScan.Proofs.Rule.WordLength
import StyleScan.Proofs.Scan.Independence

/-!
# StyleScan.Proofs.Rule.WordSource

What a short identifier shows of its line. It is reported where its word ends, and a blank ends a
word in the middle of a line: what stands behind that blank has not been read, and is not shown.

* `Text.lineTo`, `Text.lineBehind` — the line of a place up to the place, and behind it.
* `Violation.CutAt`                — the violation shows its line up to a place where a word ends.
* `Violation.CutAt.pointsInto_iff` — it shows the whole line exactly if only carriage returns stand
  behind the place.
* `Rule.WordLength.cutAt_of_mem_reportsAt` — the rule cuts a line at the place of its report.
* `Rule.scanText_wordCut`          — so does every scan, for every short identifier.
-/

namespace StyleScan

open Lexical (State Step lastLine)

/-! ## The line of a place -/

namespace Text

/-- The first line of a text. -/
def firstLine (text : List Char) : List Char := text.takeWhile (· != '\n')

/-- The line of a place up to the place, which is included unless the line ends there. -/
def lineTo (text : List Char) (i : Nat) : List Char :=
  lastLine (text.take i) ++ (firstLine (text.drop i)).take 1

/-- What stands behind a place on its line. -/
def lineBehind (text : List Char) (i : Nat) : List Char := (firstLine (text.drop i)).tail

theorem head?_fields (text : List Char) :
    (fields '\n' text).head? = some (firstLine text) := by
  induction text with
  | nil => rfl
  | cons c cs ih =>
    rw [fields]
    by_cases hc : c = '\n'
    · simp [hc, firstLine]
    · rw [if_neg hc]
      cases hfields : fields '\n' cs with
      | nil => simp [hfields] at ih
      | cons piece pieces =>
        rw [hfields, List.head?_cons, Option.some.injEq] at ih
        rw [ih]
        simp [firstLine, hc]

theorem firstLine_append {as : List Char} (h : '\n' ∉ as) (bs : List Char) :
    firstLine (as ++ bs) = as ++ firstLine bs := by
  refine List.takeWhile_append_of_pos ?_
  intro c hc
  have hne : c ≠ '\n' := fun hnewline => h (hnewline ▸ hc)
  simpa using hne

theorem fields_at (text : List Char) (i : Nat) :
    (fields '\n' text)[(text.take i).count '\n']? = some (lineTo text i ++ lineBehind text i) := by
  obtain ⟨pieces, hlength, hfields⟩ := fields_lastLine (text.take i)
  have hsplit := hfields (text.drop i)
  rw [List.take_append_drop] at hsplit
  rw [hsplit, ← hlength, List.getElem?_append_right (Nat.le_refl _), Nat.sub_self,
    ← List.head?_eq_getElem?, head?_fields, firstLine_append (not_mem_lastLine _), lineTo,
    lineBehind, List.append_assoc, ← List.drop_one, List.take_append_drop]

theorem lineTo_eq (text : List Char) (i : Nat) :
    lineTo text i = lastLine (text.take i) ++ text[i]?.toList.filter (· != '\n') := by
  rw [lineTo, ← List.head?_drop]
  cases text.drop i with
  | nil => rfl
  | cons c cs => by_cases hc : c = '\n' <;> simp [firstLine, hc]

end Text

open Text (fields lineTo lineBehind)

/-- What is dropped behind a list reaches into a front part of it exactly if all behind that part is
dropped. -/
theorem rdropWhile_append_eq_iff {p : Char → Bool} (front rest : List Char) :
    front.rdropWhile p = (front ++ rest).rdropWhile p ↔ ∀ c ∈ rest, p c = true := by
  induction rest using List.reverseRecOn with
  | nil => simp
  | append_singleton rest c ih =>
    rw [← List.append_assoc, List.rdropWhile_concat]
    cases hc : p c with
    | true => simp [ih, hc, or_imp, forall_and]
    | false =>
      have hle : (front.rdropWhile p).length ≤ front.length :=
        (List.rdropWhile_prefix p front).length_le
      constructor
      · intro h
        have hlength := congrArg List.length h
        simp only [Bool.false_eq_true, if_false, List.length_append, List.length_singleton]
          at hlength
        omega
      · intro h
        have hlast := h c (by simp)
        rw [hc] at hlast
        cases hlast

/-- The violation has the number of the line of a place, and shows that line up to the place. A word
ends there: with the line, or at a blank of code outside literals. -/
structure Violation.CutAt (text : List Char) (i : Nat) (v : Violation) : Prop where
  line : v.line = some (1 + (text.take i).count '\n')
  shown : v.sourceLine.toList = (lineTo text i).rdropWhile (· == '\r')
  wordEnd : ∀ c ∈ text[i]?, c ≠ '\n' →
    let s := (({} : State).run (text.take i)).enter c
    s.step = .code ∧ s.inLiteral = false ∧ Text.isBlank c = true

theorem Violation.CutAt.pointsInto_iff {text : List Char} {i : Nat} {v : Violation}
    (h : v.CutAt text i) (hkind : v.kind ≠ .lineTooWide) :
    v.PointsInto (fields '\n' text) ↔ ∀ c ∈ lineBehind text i, c = '\r' := by
  have hline := Text.fields_at text i
  have hwhole : (∀ c ∈ lineBehind text i, c = '\r') ↔
      v.sourceLine.toList = (lineTo text i ++ lineBehind text i).rdropWhile (· == '\r') := by
    rw [h.shown, rdropWhile_append_eq_iff]
    simp
  rw [hwhole]
  constructor
  · rintro ⟨n, line, hn, -, -, hget, hshown⟩
    rw [h.line, Option.some.injEq] at hn
    rw [← hn, Nat.add_sub_cancel_left, hline, Option.some.injEq] at hget
    rwa [shownLine, if_neg hkind, ← hget] at hshown
  · intro hshown
    have hlt := (List.getElem?_eq_some_iff.mp hline).1
    refine ⟨1 + (text.take i).count '\n', lineTo text i ++ lineBehind text i, h.line, by omega,
      by omega, ?_, ?_⟩
    · rw [Nat.add_sub_cancel_left]
      exact hline
    · rw [shownLine, if_neg hkind]
      exact hshown

/-! ## Where the rule reports -/

theorem toList_strip_lineTo {text : List Char} {i : Nat} {line : String}
    (h : line.toList = lastLine (text.take i) ++ text[i]?.toList) :
    (Violation.stripLineEnding line).toList = (lineTo text i).rdropWhile (· == '\r') := by
  have hline := not_mem_lastLine (text.take i)
  rw [Violation.toList_stripLineEnding, h, Text.lineTo_eq]
  cases text[i]? with
  | none => simp [Violation.rdropWhile_isLineEnding hline]
  | some c =>
    by_cases hc : c = '\n'
    · subst hc
      simp [Violation.isLineEnding, Violation.rdropWhile_isLineEnding hline]
    · have hmore : '\n' ∉ lastLine (text.take i) ++ [c] := by simp [hline, Ne.symm hc]
      simpa [hc] using Violation.rdropWhile_isLineEnding hmore

namespace Rule
namespace WordLength

theorem ends_of_mem_check {r : WordLength} {c : Char} {s : State} {v : Violation}
    (hv : v ∈ (r.check c s).2) (h : s.step ≠ .lineEnd) :
    s.step = .code ∧ s.inLiteral = false ∧ Text.isBlank c = true := by
  rw [check] at hv
  cases hs : s.step with
  | lineEnd => exact absurd hs h
  | skip => simp [hs] at hv
  | code =>
    cases hl : s.inLiteral with
    | true => simp [hs, hl] at hv
    | false =>
      cases hc : Text.isBlank c with
      | true => exact ⟨rfl, rfl, rfl⟩
      | false => cases ha : Text.isAlphanumeric c <;> simp [hs, hl, hc, ha] at hv

theorem cutAt_of_mem_reportsAt {r : WordLength} {text : List Char} {i : Nat} {v : Violation}
    (hv : v ∈ (wordLength r).reportsAt text i) : v.CutAt text i := by
  have hrepresents := State.represents_run (text.take i)
  have hseen : (wordLength r).fresh.observe {} (text.take i) =
      wordLength (r.reading (Line.code ⟨text.take i⟩)) := upTo_eq r ⟨text.take i⟩
  simp only [reportsAt, hseen] at hv
  cases hget : text[i]? with
  | none =>
    rw [hget] at hv
    obtain rfl := mem_flush hv
    refine ⟨congrArg some hrepresents.lineNumber, toList_strip_lineTo ?_, by simp [hget]⟩
    rw [hrepresents.currentLine, hget]
    simp
  | some c =>
    rw [hget] at hv
    obtain rfl := mem_check hv
    refine ⟨?_, toList_strip_lineTo ?_, ?_⟩
    · exact congrArg some ((State.lineNumber_enter _ c).trans hrepresents.lineNumber)
    · rw [State.currentLine_enter, hrepresents.currentLine, hget]
      simp
    · intro d hd hne
      obtain rfl : c = d := Option.some.inj (hget.symm.trans hd)
      refine ends_of_mem_check hv ?_
      rwa [Ne, State.step_enter_eq_lineEnd_iff]

end WordLength

theorem reportsAt_observer (kind : Kind) (text : List Char) (i : Nat) :
    (observer kind).reportsAt text i = [] := by
  have hobserve (s : State) (cs : List Char) : (observer kind).observe s cs = observer kind := by
    induction cs generalizing s with
    | nil => rfl
    | cons c cs ih => exact ih (s.advance c)
  simp only [reportsAt, fresh, hobserve]
  cases text[i]? <;> rfl

/-- **A short identifier shows its line up to the place where its word ends.** Every violation of
this kind is found where a blank of code ends the word, or at the end of the line. It has the number
of that line, and shows the line up to there without the carriage returns behind it. So it shows the
whole line exactly if nothing but carriage returns stands behind that place. -/
theorem scanText_wordCut {rules : List Rule} {text : List Char} {v : Violation}
    (hv : v ∈ scanText rules text) (hkind : v.kind = .identifierTooShort) :
    ∃ i ≤ text.length, v ∈ foundAt rules text i ∧ v.CutAt text i ∧
      (v.PointsInto (fields '\n' text) ↔ ∀ c ∈ lineBehind text i, c = '\r') := by
  obtain ⟨i, hi, r, hr, hv⟩ := mem_scanText_iff_reportsAt.mp hv
  have hfound : v ∈ foundAt rules text i := by
    rw [foundAt_eq rules text hi]
    exact List.mem_flatMap.mpr ⟨r, hr, hv⟩
  have hcut : v.CutAt text i := by
    cases r with
    | wordLength r => exact WordLength.cutAt_of_mem_reportsAt hv
    | observer kind =>
      rw [reportsAt_observer] at hv
      cases hv
    | _ =>
      rw [kind_of_mem_reportsAt hv] at hkind
      cases hkind
  exact ⟨i, hi, hfound, hcut, hcut.pointsInto_iff (by simp [hkind])⟩

/-- A carriage return ends the word, and another one stands behind it: the whole line is shown. -/
theorem scanText_wordCut_return :
    let text := ['i', 'f', ' ', 'a', 'b', '\r', '\r', '\n', 'c', 'd', ' ', '=', ' ', '1']
    let v : Violation := WordLength.wordViolation {} 1 "if ab" ['a', 'b']
    v ∈ scanText [wordLength {}] text ∧ v.kind = .identifierTooShort ∧
      ∃ i ≤ text.length, v ∈ foundAt [wordLength {}] text i ∧ v.CutAt text i ∧
        (v.PointsInto (fields '\n' text) ↔ ∀ c ∈ lineBehind text i, c = '\r') := by
  intro text v
  have hv : v ∈ scanText [wordLength {}] text := by decide +kernel
  exact ⟨hv, rfl, scanText_wordCut hv rfl⟩

/-- Of its line the identifier shows nothing behind the blank that ends it. -/
theorem wordCut_hides_rest :
    ¬ ∀ (rules : List Rule) (text : List Char), ∀ v ∈ scanText rules text,
      v.kind = .identifierTooShort → v.PointsInto (fields '\n' text) := by
  intro h
  have hv : WordLength.wordViolation {} 1 "ab " ['a', 'b'] ∈
      scanText [wordLength {}] "ab = 1;".toList := by decide +kernel
  have hline : (fields '\n' "ab = 1;".toList)[0]? = some "ab = 1;".toList := by decide +kernel
  obtain ⟨n, line, hn, -, -, hget, hshown⟩ := h _ _ _ hv rfl
  obtain rfl : n = 1 := (Option.some.inj hn).symm
  obtain rfl : line = "ab = 1;".toList := Option.some.inj (hget.symm.trans hline)
  revert hshown
  decide +kernel

end Rule
end StyleScan
