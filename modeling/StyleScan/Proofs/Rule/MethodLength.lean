import StyleScan.Proofs.Scan.LineEnding

/-!
# StyleScan.Proofs.Rule.MethodLength

What the rule about the length of methods reports. A method of a text is a pair of places: the end
of the line that opens it, and the brace that closes it.

* `MethodLength.OpensAt`  — a line that opens a method, said without the rule's fields.
* `MethodLength.ClosesAt` — a method, from its opening line to its closing brace.
* `MethodLength.Tracks`   — what the rule's fields mean at a place of a text.
* `Tracks.endLine`, `Tracks.check` — the meaning is kept by line feeds and by all other characters.
* `Rule.scanText_methodLength` — the reports of a scan are those of the methods that are too long.
-/

namespace StyleScan
namespace Rule
namespace MethodLength

open Lexical (State Step lastLine)
open Lexical.State (lastLineTrace significant)

/-! ## Methods of a text -/

/-- The state in which a character is observed that stands at place `i` of a text. -/
def observed (text : List Char) (i : Nat) (c : Char) : State :=
  (({} : State).run (text.take i)).enter c

/-- The code character `c` stands at place `i` of a text. -/
def CodeAt (text : List Char) (c : Char) (i : Nat) : Prop :=
  text[i]? = some c ∧ (observed text i c).isSignificant c = true

/-- The code characters in front of a place. -/
def codeBefore (text : List Char) (i : Nat) : List Char :=
  ((({} : State).trace (text.take i)).filter fun p => p.2.isSignificant p.1).map Prod.fst

/-- Braces opened minus braces closed in front of a place. -/
def depthAt (text : List Char) (i : Nat) : Int :=
  (codeBefore text i).count '{' - (codeBefore text i).count '}'

/-- Place `i` is on the line that ends at place `e`. -/
def OnLine (text : List Char) (i e : Nat) : Prop := i < e ∧ '\n' ∉ (text.take e).drop i

/-- The closing brace at place `c` takes the depth below that at place `o`. -/
def DropsBelow (text : List Char) (o c : Nat) : Prop :=
  CodeAt text '}' c ∧ depthAt text (c + 1) < depthAt text o

-- Both look at earlier places only; the bounds are bound as proofs for the recursion to see them.
mutual

/-- The line that ends at place `o` opens a method: none is open at its end, its last code character
is an opening brace, its parentheses are in balance, and it holds one of either sort where no method
is open. -/
def OpensAt (text : List Char) (o : Nat) : Prop :=
  text[o]? = some '\n' ∧ ¬ OpenAt text o ∧
    (significant (text.take o)).getLast? = some '{' ∧
    (significant (text.take o)).count '(' = (significant (text.take o)).count ')' ∧
    (∃ i, ∃ _ : OnLine text i o, CodeAt text '(' i ∧ ¬ OpenAt text i) ∧
    ∃ i, ∃ _ : OnLine text i o, CodeAt text ')' i ∧ ¬ OpenAt text i
termination_by (o, 1)
decreasing_by
  · exact Prod.Lex.right _ (by omega)
  · next h => exact Prod.Lex.left _ _ h.1
  · next h => exact Prod.Lex.left _ _ h.1

/-- A method is open at place `i`: a line before has opened one, and no closing brace since then has
taken the depth below that at the end of the line. -/
def OpenAt (text : List Char) (i : Nat) : Prop :=
  ∃ o, ∃ _ : o < i, OpensAt text o ∧ ∀ c, o < c → c < i → ¬ DropsBelow text o c
termination_by (i, 0)
decreasing_by exact Prod.Lex.left _ _ (by assumption)

end

/-- The method that the line ending at place `o` opens is open at place `i`. -/
def OpenedBy (text : List Char) (o i : Nat) : Prop :=
  o < i ∧ OpensAt text o ∧ ∀ c, o < c → c < i → ¬ DropsBelow text o c

/-- The method that the line ending at place `o` opens is closed by the brace at place `c`, the
first one to take the depth below that at the end of the line. -/
def ClosesAt (text : List Char) (o c : Nat) : Prop := OpenedBy text o c ∧ DropsBelow text o c

/-- A line ends at place `i` that is blank throughout or holds code, in literals or not. -/
def countedLine (text : List Char) (i : Nat) : Bool :=
  text[i]? == some '\n' &&
    ((lastLine (text.take i)).all Text.isBlank ||
      (lastLineTrace (text.take i)).any fun p => p.2.step == .code && !Text.isBlank p.1)

/-- The number of such lines behind the one that ends at place `o` and before the one that holds
place `i`. -/
def bodyLength (text : List Char) (o i : Nat) : Nat :=
  (List.range i).countP fun e => decide (o < e) && countedLine text e

/-- The violation of a method that is too long. -/
def bodyViolation (maxLines : Nat) (text : List Char) (o c : Nat) : Violation :=
  .make .methodTooLong (some (1 + (text.take o).count '\n'))
    ("Method is " ++ toString (bodyLength text o c) ++ " lines long (max: " ++ toString maxLines ++
      ")")
    (String.ofList (lastLine (text.take o)))
    (some "Extract parts of the body into methods")

/-- What is reported of a method that is closed. -/
def bodyReport (maxLines : Nat) (text : List Char) (o c : Nat) : List Violation :=
  if maxLines < bodyLength text o c then [bodyViolation maxLines text o c] else []

theorem openAt_iff (text : List Char) (i : Nat) : OpenAt text i ↔ ∃ o, OpenedBy text o i := by
  rw [OpenAt]
  simp only [OpenedBy, exists_prop]

/-- The line in front of place `i` holds the code character `p` where no method is open. -/
def Shows (text : List Char) (p : Char) (i : Nat) : Prop :=
  ∃ j, OnLine text j i ∧ CodeAt text p j ∧ ¬ OpenAt text j

theorem opensAt_iff (text : List Char) (o : Nat) :
    OpensAt text o ↔
      text[o]? = some '\n' ∧ ¬ OpenAt text o ∧
        (significant (text.take o)).getLast? = some '{' ∧
        (significant (text.take o)).count '(' = (significant (text.take o)).count ')' ∧
        Shows text '(' o ∧ Shows text ')' o := by
  rw [OpensAt]
  simp only [Shows, exists_prop]

theorem OpenedBy.of_le {text : List Char} {o i j : Nat} (h : OpenedBy text o i) (ho : o < j)
    (hj : j ≤ i) : OpenedBy text o j := by
  refine ⟨ho, h.2.1, ?_⟩
  intro c hoc hcj
  exact h.2.2 c hoc (by omega)

/-- Inside a method no line opens another one. -/
theorem OpenedBy.le {text : List Char} {o o' i : Nat} (h : OpenedBy text o i)
    (h' : OpenedBy text o' i) : o' ≤ o := by
  by_contra hlt
  have hopen : OpenAt text o' := (openAt_iff text o').mpr ⟨o, h.of_le (by omega) h'.1.le⟩
  exact ((opensAt_iff text o').mp h'.2.1).2.1 hopen

theorem OpenedBy.unique {text : List Char} {o o' i : Nat} (h : OpenedBy text o i)
    (h' : OpenedBy text o' i) : o = o' :=
  Nat.le_antisymm (h'.le h) (h.le h')

/-! ## One place further -/

/-- One character more, if it is code, in a list of code characters. -/
theorem count_code_succ {before after : List Char} {code : Bool} {c : Char}
    (hafter : after = if code then before ++ [c] else before) (p : Char) :
    (after.count p : Int) = before.count p + if code ∧ c = p then 1 else 0 := by
  rw [hafter]
  cases code with
  | false => simp
  | true => by_cases hp : c = p <;> simp [hp]

section Succ

variable {text : List Char} {k : Nat} {c : Char} (h : text[k]? = some c)
include h

theorem take_succ_eq : text.take (k + 1) = text.take k ++ [c] := by
  rw [List.take_add_one, h]
  rfl

theorem codeAt_iff (p : Char) :
    CodeAt text p k ↔ c = p ∧ (observed text k c).isSignificant c = true := by
  rw [CodeAt, h, Option.some.injEq]
  constructor
  · rintro ⟨rfl, hcode⟩
    exact ⟨rfl, hcode⟩
  · rintro ⟨rfl, hcode⟩
    exact ⟨rfl, hcode⟩

theorem codeBefore_succ :
    codeBefore text (k + 1) =
      if (observed text k c).isSignificant c then codeBefore text k ++ [c]
      else codeBefore text k := by
  rw [codeBefore, take_succ_eq h, State.trace_append, List.filter_append, List.map_append]
  simp only [State.trace, ← observed.eq_1]
  cases hcode : (observed text k c).isSignificant c <;> simp [hcode, codeBefore]

theorem depthAt_succ :
    depthAt text (k + 1) =
      depthAt text k + (if (observed text k c).isSignificant c ∧ c = '{' then 1 else 0) -
        (if (observed text k c).isSignificant c ∧ c = '}' then 1 else 0) := by
  rw [depthAt, count_code_succ (codeBefore_succ h), count_code_succ (codeBefore_succ h), depthAt]
  omega

theorem significant_succ (hc : c ≠ '\n') :
    significant (text.take (k + 1)) =
      if (observed text k c).isSignificant c then significant (text.take k) ++ [c]
      else significant (text.take k) := by
  rw [take_succ_eq h, State.significant_concat, if_neg hc, observed]

theorem onLine_succ (i : Nat) :
    OnLine text i (k + 1) ↔ c ≠ '\n' ∧ (OnLine text i k ∨ i = k) := by
  have hk : k < text.length := (List.getElem?_eq_some_iff.mp h).1
  by_cases hi : i ≤ k
  · have hdrop : (text.take (k + 1)).drop i = (text.take k).drop i ++ [c] := by
      rw [take_succ_eq h, List.drop_append_of_le_length]
      rw [List.length_take]
      omega
    have hself : '\n' ∉ (text.take k).drop k := by simp
    rw [OnLine, OnLine, hdrop, List.mem_append, List.mem_singleton, eq_comm (a := '\n')]
    rcases Nat.lt_or_eq_of_le hi with hlt | rfl
    · constructor
      · rintro ⟨-, hline⟩
        exact ⟨fun hc => hline (.inr hc), .inl ⟨hlt, fun hmem => hline (.inl hmem)⟩⟩
      · rintro ⟨hc, ⟨-, hline⟩ | rfl⟩
        · exact ⟨by omega, fun hmem => hmem.elim hline hc⟩
        · omega
    · constructor
      · rintro ⟨-, hline⟩
        exact ⟨fun hc => hline (.inr hc), .inr rfl⟩
      · rintro ⟨hc, -⟩
        exact ⟨by omega, fun hmem => hmem.elim hself hc⟩
  · rw [OnLine, OnLine]
    omega

theorem shows_succ (p : Char) :
    Shows text p (k + 1) ↔
      c ≠ '\n' ∧ (Shows text p k ∨ CodeAt text p k ∧ ¬ OpenAt text k) := by
  simp only [Shows, onLine_succ h]
  constructor
  · rintro ⟨j, ⟨hc, hj | rfl⟩, hcode, hopen⟩
    · exact ⟨hc, .inl ⟨j, hj, hcode, hopen⟩⟩
    · exact ⟨hc, .inr ⟨hcode, hopen⟩⟩
  · rintro ⟨hc, ⟨j, hj, hcode, hopen⟩ | ⟨hcode, hopen⟩⟩
    · exact ⟨j, ⟨hc, .inl hj⟩, hcode, hopen⟩
    · exact ⟨k, ⟨hc, .inr rfl⟩, hcode, hopen⟩

end Succ

theorem openedBy_succ (text : List Char) (o k : Nat) :
    OpenedBy text o (k + 1) ↔
      OpenedBy text o k ∧ ¬ DropsBelow text o k ∨ o = k ∧ OpensAt text k := by
  constructor
  · intro h
    by_cases ho : o = k
    · exact .inr ⟨ho, ho ▸ h.2.1⟩
    · have hlt : o < k := by have := h.1; omega
      exact .inl ⟨h.of_le hlt (by omega), h.2.2 k hlt (by omega)⟩
  · rintro (⟨h, hdrop⟩ | ⟨rfl, hopens⟩)
    · refine ⟨by have := h.1; omega, h.2.1, ?_⟩
      intro c hoc hck
      by_cases hc : c = k
      · exact hc ▸ hdrop
      · exact h.2.2 c hoc (by omega)
    · exact ⟨by omega, hopens, by omega⟩

theorem bodyLength_succ (text : List Char) (o k : Nat) :
    bodyLength text o (k + 1) =
      bodyLength text o k + if o < k ∧ countedLine text k = true then 1 else 0 := by
  simp [bodyLength, List.range_succ, List.countP_append]

/-! ## One character -/

section Check

variable (q : MethodLength) (c : Char) (s : State)

/-- The character is a closing brace that ends the open method. -/
def ends : Bool :=
  s.isSignificant c && decide (c = '}') && q.inMethod && decide (q.braces - 1 < q.start)

theorem count_eq (hcode : s.isSignificant c = true) :
    q.count c =
      ({ q with
          braces := q.braces + (if c = '{' then 1 else 0) - (if c = '}' then 1 else 0)
          depth := q.depth + (if c = '(' then 1 else 0) - (if c = ')' then 1 else 0)
          opened := q.opened || (decide (c = '(') && !q.inMethod)
          closed := q.closed || (decide (c = ')') && !q.inMethod)
          inMethod := q.inMethod && !q.ends c s
          length := if q.ends c s then 0 else q.length
          start := if q.ends c s then 0 else q.start },
        if q.ends c s && decide (q.maxLines < q.length) then [q.violation] else []) := by
  rw [count]
  split
  · next h => simp [h, ends]
  split
  · next h => simp [h, ends]
  split
  · next h => simp [h, ends]
  split
  · next h =>
    rw [closeBrace]
    cases hin : q.inMethod <;> by_cases hdrop : q.braces - 1 < q.start <;>
      simp [h, ends, hin, hdrop, h ▸ hcode]
  · next hopen hclose _ hother => simp [hopen, hclose, hother, ends]

theorem check_eq (h : s.step ≠ .lineEnd) :
    q.check c s =
      ({ q with
          braces := q.braces + (if s.isSignificant c ∧ c = '{' then 1 else 0) -
            (if s.isSignificant c ∧ c = '}' then 1 else 0)
          depth := q.depth + (if s.isSignificant c ∧ c = '(' then 1 else 0) -
            (if s.isSignificant c ∧ c = ')' then 1 else 0)
          opened := q.opened || (s.isSignificant c && decide (c = '(') && !q.inMethod)
          closed := q.closed || (s.isSignificant c && decide (c = ')') && !q.inMethod)
          hasCode := q.hasCode || (s.step == .code && !Text.isBlank c)
          inMethod := q.inMethod && !q.ends c s
          length := if q.ends c s then 0 else q.length
          start := if q.ends c s then 0 else q.start },
        if q.ends c s && decide (q.maxLines < q.length) then [q.violation] else []) := by
  cases hcode : s.isSignificant c with
  | true =>
    have hstep : s.step = .code ∧ Text.isBlank c = false ∧ s.inLiteral = false := by
      simpa [State.isSignificant, and_assoc] using hcode
    rw [check, hstep.1]
    simp only [hstep.2.1, hstep.2.2, if_false, Bool.false_eq_true]
    rw [count_eq _ c s hcode]
    simp [ends, hcode, violation]
  | false =>
    rw [check]
    cases hs : s.step with
    | lineEnd => exact absurd hs h
    | skip => simp [ends, hcode, show (Step.skip == Step.code) = false from rfl]
    | code =>
      cases hblank : Text.isBlank c <;> cases hlit : s.inLiteral <;>
        simp_all [ends, State.isSignificant]

theorem endLine_eq :
    q.endLine s =
      { q with
        opened := false
        closed := false
        hasCode := false
        depth := 0
        length := if q.inMethod && (s.blankLine || q.hasCode) then q.length + 1 else q.length
        inMethod := q.inMethod || q.opensMethod s
        start := if !q.inMethod && q.opensMethod s then q.braces else q.start
        openingLine := if !q.inMethod && q.opensMethod s then s.currentLine else q.openingLine
        openingNumber :=
          if !q.inMethod && q.opensMethod s then s.lineNumber else q.openingNumber } := by
  rw [endLine]
  cases hin : q.inMethod with
  | true => cases hcounts : s.blankLine || q.hasCode <;> simp [nextLine, hin]
  | false => cases hopens : q.opensMethod s <;> simp [nextLine, hin]

end Check

theorem check_newline (q : MethodLength) (text : List Char) (k : Nat) :
    q.check '\n' (observed text k '\n') = (q.endLine (observed text k '\n'), []) := by
  have hstep : (observed text k '\n').step = .lineEnd := by
    rw [observed, State.step_enter_eq_lineEnd_iff]
  rw [check, hstep]

/-! ## The rule on its way through a text -/

/-- What the rule knows at place `k` of the method that the line ending at place `o` has opened. -/
structure Body (text : List Char) (o k : Nat) (q : MethodLength) : Prop where
  openedBy : OpenedBy text o k
  start : q.start = depthAt text o
  length : q.length = bodyLength text o k
  openingNumber : q.openingNumber = 1 + (text.take o).count '\n'
  openingLine : Violation.stripLineEnding q.openingLine =
    Violation.stripLineEnding (String.ofList (lastLine (text.take o)))

/-- What the fields of the rule say at place `k` of a text. -/
structure Tracks (maxLines : Nat) (text : List Char) (k : Nat) (q : MethodLength) : Prop where
  maxLines : q.maxLines = maxLines
  braces : q.braces = depthAt text k
  depth : q.depth =
    (significant (text.take k)).count '(' - (significant (text.take k)).count ')'
  hasCode : q.hasCode =
    (lastLineTrace (text.take k)).any fun p => p.2.step == .code && !Text.isBlank p.1
  opened : q.opened = true ↔ Shows text '(' k
  closed : q.closed = true ↔ Shows text ')' k
  inside : q.inMethod = true → ∃ o, Body text o k q
  outside : q.inMethod = false → q.length = 0 ∧ ¬ OpenAt text k

theorem tracks_start (r : MethodLength) (text : List Char) :
    Tracks r.maxLines text 0 r.fresh where
  maxLines := rfl
  braces := rfl
  depth := rfl
  hasCode := rfl
  opened := by simp [fresh, Shows, OnLine]
  closed := by simp [fresh, Shows, OnLine]
  inside := by simp [fresh]
  outside := by simp [fresh, openAt_iff, OpenedBy]

section Tracks

variable {maxLines : Nat} {text : List Char} {k : Nat} {q : MethodLength}

theorem Tracks.inMethod_iff (h : Tracks maxLines text k q) :
    q.inMethod = true ↔ OpenAt text k := by
  constructor
  · intro hin
    obtain ⟨o, hbody⟩ := h.inside hin
    exact (openAt_iff text k).mpr ⟨o, hbody.openedBy⟩
  · intro hopen
    by_contra hout
    exact (h.outside (by simpa using hout)).2 hopen

/-! ### The end of a line -/

theorem Tracks.opensMethod_iff (h : Tracks maxLines text k q) (hk : text[k]? = some '\n') :
    q.inMethod = false ∧ q.opensMethod (observed text k '\n') = true ↔ OpensAt text k := by
  have hlast : (observed text k '\n').lastSignificant = '{' ↔
      (significant (text.take k)).getLast? = some '{' := by
    rw [observed, State.enter_newline]
    change (({} : State).run (text.take k)).lastSignificant = '{' ↔ _
    rw [(State.represents_run (text.take k)).lastSignificant]
    -- what stands for a line without code is no brace
    cases (significant (text.take k)).getLast? <;> simp [Lexical.lineStart]
  have hdepth : q.depth = 0 ↔
      (significant (text.take k)).count '(' = (significant (text.take k)).count ')' := by
    rw [h.depth]
    omega
  rw [opensAt_iff, ← h.inMethod_iff, Bool.not_eq_true, opensMethod]
  simp only [Bool.and_eq_true, beq_iff_eq, hlast, hdepth, h.opened, h.closed, hk, true_and]
  tauto

theorem not_dropsBelow_of_newline (hk : text[k]? = some '\n') (o : Nat) :
    ¬ DropsBelow text o k := by
  intro hdrop
  have hbrace := hdrop.1.1
  rw [hk] at hbrace
  cases hbrace

theorem countedLine_newline (h : Tracks maxLines text k q) (hk : text[k]? = some '\n') :
    countedLine text k = ((observed text k '\n').blankLine || q.hasCode) := by
  have hblank : (observed text k '\n').blankLine = (lastLine (text.take k)).all Text.isBlank := by
    rw [observed, State.blankLine_enter, (State.represents_run (text.take k)).blankLine]
    simp [show Text.isBlank '\n' = true by decide]
  rw [countedLine, hk, hblank, h.hasCode]
  simp

/-- A body goes on below the line that ends here. -/
theorem Body.endLine (h : Tracks maxLines text k q) {o : Nat} (hbody : Body text o k q)
    (hin : q.inMethod = true) (hk : text[k]? = some '\n') :
    Body text o (k + 1) (q.endLine (observed text k '\n')) := by
  rw [endLine_eq, hin]
  constructor
  case openedBy =>
    exact (openedBy_succ text o k).mpr (.inl ⟨hbody.openedBy, not_dropsBelow_of_newline hk o⟩)
  case start => exact hbody.start
  case length =>
    have hlt : o < k := hbody.openedBy.1
    rw [bodyLength_succ, countedLine_newline h hk, ← hbody.length]
    simp only [hlt, true_and, Bool.true_and]
    split <;> rfl
  case openingNumber => exact hbody.openingNumber
  case openingLine => exact hbody.openingLine

/-- A body starts below a line that opens a method. -/
theorem body_of_opensAt (h : Tracks maxLines text k q) (hk : text[k]? = some '\n')
    (hopens : OpensAt text k) : Body text k (k + 1) (q.endLine (observed text k '\n')) := by
  obtain ⟨hin, hline⟩ := (h.opensMethod_iff hk).mpr hopens
  have hstate := State.represents_run (text.take k)
  rw [endLine_eq, hin, hline]
  constructor
  case openedBy => exact (openedBy_succ text k k).mpr (.inr ⟨rfl, hopens⟩)
  case start => exact h.braces
  case length =>
    have hzero : bodyLength text k k = 0 := by
      rw [bodyLength, List.countP_eq_zero]
      intro e he
      have hlt : ¬ k < e := Nat.lt_asymm (List.mem_range.mp he)
      simp [hlt]
    rw [bodyLength_succ, hzero]
    simp [(h.outside hin).1]
  case openingNumber =>
    change (observed text k '\n').lineNumber = _
    rw [observed, State.enter_newline]
    exact hstate.lineNumber
  case openingLine =>
    change Violation.stripLineEnding (observed text k '\n').currentLine = _
    rw [observed, State.currentLine_enter, Violation.stripLineEnding_push (by decide),
      hstate.currentLine]

theorem Tracks.endLine (h : Tracks maxLines text k q) (hk : text[k]? = some '\n') :
    Tracks maxLines text (k + 1) (q.endLine (observed text k '\n')) := by
  have htake := take_succ_eq hk
  constructor
  case maxLines =>
    rw [endLine_eq]
    exact h.maxLines
  case braces =>
    rw [endLine_eq, depthAt_succ hk]
    simp [h.braces]
  case depth => simp [endLine_eq, htake, State.significant_concat]
  case hasCode => simp [endLine_eq, htake, State.lastLineTrace_concat]
  case opened => simp [endLine_eq, shows_succ hk]
  case closed => simp [endLine_eq, shows_succ hk]
  case inside =>
    intro hin'
    cases hin : q.inMethod with
    | true =>
      obtain ⟨o, hbody⟩ := h.inside hin
      exact ⟨o, hbody.endLine h hin hk⟩
    | false =>
      have hline : q.opensMethod (observed text k '\n') = true := by
        simpa [endLine_eq, hin] using hin'
      exact ⟨k, body_of_opensAt h hk ((h.opensMethod_iff hk).mp ⟨hin, hline⟩)⟩
  case outside =>
    intro hout
    obtain ⟨hin, hline⟩ :
        q.inMethod = false ∧ q.opensMethod (observed text k '\n') = false := by
      simpa [endLine_eq] using hout
    refine ⟨by simpa [endLine_eq, hin] using (h.outside hin).1, ?_⟩
    intro hopen
    obtain ⟨o, ho⟩ := (openAt_iff text (k + 1)).mp hopen
    rcases (openedBy_succ text o k).mp ho with ⟨ho, -⟩ | ⟨-, hopens⟩
    · exact (h.outside hin).2 ((openAt_iff text k).mpr ⟨o, ho⟩)
    · rw [((h.opensMethod_iff hk).mpr hopens).2] at hline
      cases hline

/-! ### Any other character -/

theorem step_observed_ne (text : List Char) (k : Nat) {c : Char} (hc : c ≠ '\n') :
    (observed text k c).step ≠ .lineEnd := by
  rw [observed, Ne, State.step_enter_eq_lineEnd_iff]
  exact hc

section Other

variable {c : Char} (hc : c ≠ '\n') (hk : text[k]? = some c)
include hc hk

theorem openedBy_succ_of_ne (o : Nat) :
    OpenedBy text o (k + 1) ↔ OpenedBy text o k ∧ ¬ DropsBelow text o k := by
  have hopens : ¬ OpensAt text k := by
    intro hopens
    have hline := ((opensAt_iff text k).mp hopens).1
    rw [hk, Option.some.injEq] at hline
    exact hc hline
  rw [openedBy_succ]
  simp [hopens]

theorem openAt_succ_of_ne :
    OpenAt text (k + 1) ↔ OpenAt text k ∧ ¬ ∃ o, ClosesAt text o k := by
  simp only [openAt_iff, openedBy_succ_of_ne hc hk]
  constructor
  · rintro ⟨o, ho, hdrop⟩
    refine ⟨⟨o, ho⟩, ?_⟩
    rintro ⟨o', ho', hdrop'⟩
    exact hdrop (ho'.unique ho ▸ hdrop')
  · rintro ⟨⟨o, ho⟩, hnone⟩
    exact ⟨o, ho, fun hdrop => hnone ⟨o, ho, hdrop⟩⟩

theorem Tracks.ends_iff (h : Tracks maxLines text k q) :
    q.ends c (observed text k c) = true ↔ ∃ o, ClosesAt text o k := by
  have hbelow : ∀ o, DropsBelow text o k ↔
      ((observed text k c).isSignificant c = true ∧ c = '}') ∧
        depthAt text k - 1 < depthAt text o := by
    intro o
    rw [DropsBelow, codeAt_iff hk, depthAt_succ hk, and_comm (a := c = '}')]
    refine and_congr_right ?_
    rintro ⟨hcode, rfl⟩
    simp [hcode]
  constructor
  · intro hends
    obtain ⟨⟨⟨hcode, hbrace⟩, hin⟩, hdrop⟩ :
        (((observed text k c).isSignificant c = true ∧ c = '}') ∧ q.inMethod = true) ∧
          q.braces - 1 < q.start := by
      simpa [ends] using hends
    obtain ⟨o, hbody⟩ := h.inside hin
    rw [h.braces, hbody.start] at hdrop
    exact ⟨o, hbody.openedBy, (hbelow o).mpr ⟨⟨hcode, hbrace⟩, hdrop⟩⟩
  · rintro ⟨o, hopen, hdrop⟩
    have hin : q.inMethod = true := h.inMethod_iff.mpr ((openAt_iff text k).mpr ⟨o, hopen⟩)
    obtain ⟨o', hbody⟩ := h.inside hin
    obtain rfl := hbody.openedBy.unique hopen
    obtain ⟨⟨hcode, rfl⟩, hdrop⟩ := (hbelow o').mp hdrop
    rw [← h.braces, ← hbody.start] at hdrop
    simp [ends, hcode, hin, hdrop]

/-- A body goes on behind a character that does not close it. -/
theorem Body.check (h : Tracks maxLines text k q) {o : Nat} (hbody : Body text o k q)
    (hends : q.ends c (observed text k c) = false) :
    Body text o (k + 1) (q.check c (observed text k c)).1 := by
  rw [check_eq q c _ (step_observed_ne text k hc), hends]
  constructor
  case openedBy =>
    refine (openedBy_succ_of_ne hc hk o).mpr ⟨hbody.openedBy, ?_⟩
    intro hdrop
    rw [(h.ends_iff hc hk).mpr ⟨o, hbody.openedBy, hdrop⟩] at hends
    cases hends
  case start => exact hbody.start
  case length =>
    have hline : countedLine text k = false := by simp [countedLine, hk, hc]
    rw [bodyLength_succ, hline, ← hbody.length]
    simp
  case openingNumber => exact hbody.openingNumber
  case openingLine => exact hbody.openingLine

/-- A parenthesis is noted on a line exactly if the line shows it. -/
theorem Tracks.noted_iff (h : Tracks maxLines text k q) (p : Char) {noted : Bool}
    (hnoted : noted = true ↔ Shows text p k) :
    (noted || ((observed text k c).isSignificant c && decide (c = p) && !q.inMethod)) = true ↔
      Shows text p (k + 1) := by
  rw [shows_succ hk, codeAt_iff hk, ← h.inMethod_iff, ← hnoted]
  simp [hc, and_comm (a := c = p)]

theorem Tracks.check (h : Tracks maxLines text k q) :
    Tracks maxLines text (k + 1) (q.check c (observed text k c)).1 := by
  have hcheck := check_eq q c _ (step_observed_ne text k hc)
  constructor
  case maxLines =>
    rw [hcheck]
    exact h.maxLines
  case braces => rw [hcheck, depthAt_succ hk, h.braces]
  case depth =>
    rw [hcheck, count_code_succ (significant_succ hk hc), count_code_succ (significant_succ hk hc),
      h.depth]
    dsimp only
    omega
  case hasCode =>
    rw [hcheck, take_succ_eq hk, State.lastLineTrace_concat, if_neg hc, h.hasCode]
    simp [observed]
  case opened =>
    rw [hcheck]
    exact h.noted_iff hc hk '(' h.opened
  case closed =>
    rw [hcheck]
    exact h.noted_iff hc hk ')' h.closed
  case inside =>
    intro hin'
    obtain ⟨hin, hends⟩ : q.inMethod = true ∧ q.ends c (observed text k c) = false := by
      simpa [hcheck] using hin'
    obtain ⟨o, hbody⟩ := h.inside hin
    exact ⟨o, hbody.check hc hk h hends⟩
  case outside =>
    intro hout
    have hclosed : ¬ OpenAt text (k + 1) := by
      rw [openAt_succ_of_ne hc hk, ← h.inMethod_iff, ← h.ends_iff hc hk, Bool.not_eq_true,
        ← Bool.not_eq_true', ← Bool.and_eq_true, Bool.not_eq_true]
      simpa [hcheck] using hout
    cases hends : q.ends c (observed text k c) with
    | true => exact ⟨by simp [hcheck, hends], hclosed⟩
    | false =>
      have hin : q.inMethod = false := by simpa [hcheck, hends] using hout
      exact ⟨by simpa [hcheck, hends] using (h.outside hin).1, hclosed⟩

end Other

/-! ### Every character -/

theorem Tracks.step (h : Tracks maxLines text k q) {c : Char} (hk : text[k]? = some c) :
    Tracks maxLines text (k + 1) (q.check c (observed text k c)).1 := by
  by_cases hc : c = '\n'
  · subst hc
    rw [check_newline]
    exact h.endLine hk
  · exact h.check hc hk

theorem Body.violation_eq (h : Tracks maxLines text k q) {o : Nat} (hbody : Body text o k q) :
    q.violation = bodyViolation maxLines text o k := by
  rw [violation, bodyViolation, hbody.length, hbody.openingNumber, h.maxLines]
  simp only [Violation.make, hbody.openingLine]

theorem Tracks.report_eq_nil (h : Tracks maxLines text k q) {c : Char} (hk : text[k]? = some c)
    (hnone : ¬ ∃ o, ClosesAt text o k) : (q.check c (observed text k c)).2 = [] := by
  by_cases hc : c = '\n'
  · subst hc
    rw [check_newline]
  · have hends : q.ends c (observed text k c) = false := by
      rw [← Bool.not_eq_true, h.ends_iff hc hk]
      exact hnone
    simp [check_eq q c _ (step_observed_ne text k hc), hends]

theorem Tracks.report_eq (h : Tracks maxLines text k q) {o : Nat} {c : Char}
    (hk : text[k]? = some c) (hcloses : ClosesAt text o k) :
    (q.check c (observed text k c)).2 = bodyReport maxLines text o k := by
  have hc : c ≠ '\n' := by
    rintro rfl
    exact not_dropsBelow_of_newline hk o hcloses.2
  have hin : q.inMethod = true :=
    h.inMethod_iff.mpr ((openAt_iff text k).mpr ⟨o, hcloses.1⟩)
  obtain ⟨o', hbody⟩ := h.inside hin
  obtain rfl := hbody.openedBy.unique hcloses.1
  have hends : q.ends c (observed text k c) = true := (h.ends_iff hc hk).mpr ⟨o', hcloses⟩
  rw [check_eq q c _ (step_observed_ne text k hc), hends, hbody.violation_eq h, hbody.length,
    h.maxLines, bodyReport]
  simp

end Tracks

/-! ## The whole text -/

section Text

variable (r : MethodLength) (text : List Char)

theorem tracks_observe {k : Nat} (hk : k ≤ text.length) :
    ∃ q, (methodLength r).fresh.observe {} (text.take k) = methodLength q ∧
      Tracks r.maxLines text k q := by
  induction k with
  | zero => exact ⟨r.fresh, rfl, tracks_start r text⟩
  | succ k ih =>
    obtain ⟨q, hq, htracks⟩ := ih (by omega)
    have hc : text[k]? = some text[k] := List.getElem?_eq_getElem (by omega)
    refine ⟨_, ?_, htracks.step hc⟩
    rw [take_succ_eq hc, observe_append, hq]
    rfl

theorem foundAt_eq_nil {i : Nat} (hi : i ≤ text.length) (hnone : ¬ ∃ o, ClosesAt text o i) :
    foundAt [methodLength r] text i = [] := by
  obtain ⟨q, hq, htracks⟩ := tracks_observe r text hi
  rw [foundAt_eq _ text hi, List.flatMap_singleton, reportsAt, hq]
  cases hc : text[i]? with
  | none => rfl
  | some c => exact htracks.report_eq_nil hc hnone

theorem ClosesAt.lt_length {text : List Char} {o c : Nat} (h : ClosesAt text o c) :
    c < text.length :=
  (List.getElem?_eq_some_iff.mp h.2.1.1).1

theorem foundAt_eq_bodyReport {o c : Nat} (h : ClosesAt text o c) :
    foundAt [methodLength r] text c = bodyReport r.maxLines text o c := by
  have hc := h.lt_length.le
  obtain ⟨q, hq, htracks⟩ := tracks_observe r text hc
  rw [foundAt_eq _ text hc, List.flatMap_singleton, reportsAt, hq, h.2.1.1]
  exact htracks.report_eq h.2.1.1 h

end Text

/-- The next method opens behind the brace that closes the one before. -/
theorem ClosesAt.lt {text : List Char} {o c o' c' : Nat} (h : ClosesAt text o c)
    (h' : ClosesAt text o' c') (hlt : c < c') : c < o' := by
  by_contra hle
  -- the second method is open at `c` then, so it is the first one, which ends there
  have hne : o' ≠ c := by
    rintro rfl
    exact not_dropsBelow_of_newline ((opensAt_iff text o').mp h'.1.2.1).1 o h.2
  have hopen : OpenedBy text o' c := h'.1.of_le (by omega) hlt.le
  obtain rfl := hopen.unique h.1
  exact h'.1.2.2 c h.1.1 hlt h.2

theorem exists_methods (r : MethodLength) (text : List Char) {k : Nat}
    (hk : k ≤ text.length + 1) :
    ∃ methods : List (Nat × Nat),
      (∀ o c, (o, c) ∈ methods ↔ ClosesAt text o c ∧ c < k) ∧
      methods.Pairwise (fun m m' => m.2 < m'.1) ∧
      (List.range k).flatMap (foundAt [methodLength r] text) =
        methods.flatMap fun m => bodyReport r.maxLines text m.1 m.2 := by
  induction k with
  | zero => exact ⟨[], by simp, .nil, rfl⟩
  | succ k ih =>
    obtain ⟨methods, hmem, hordered, hfound⟩ := ih (by omega)
    by_cases hcloses : ∃ o, ClosesAt text o k
    · obtain ⟨o, ho⟩ := hcloses
      refine ⟨methods ++ [(o, k)], ?_, ?_, ?_⟩
      · intro o' c
        rw [List.mem_append, hmem, List.mem_singleton, Prod.mk.injEq]
        constructor
        · rintro (⟨h, hlt⟩ | ⟨rfl, rfl⟩)
          · exact ⟨h, by omega⟩
          · exact ⟨ho, by omega⟩
        · rintro ⟨h, hlt⟩
          rcases Nat.lt_succ_iff_lt_or_eq.mp hlt with hlt | rfl
          · exact .inl ⟨h, hlt⟩
          · exact .inr ⟨h.1.unique ho.1, rfl⟩
      · rw [List.pairwise_append]
        refine ⟨hordered, List.pairwise_singleton _ _, ?_⟩
        rintro ⟨o', c⟩ hm m' hm'
        obtain rfl := List.mem_singleton.mp hm'
        obtain ⟨h, hlt⟩ := (hmem o' c).mp hm
        exact h.lt ho hlt
      · rw [List.range_succ, List.flatMap_append, hfound, List.flatMap_append,
          List.flatMap_singleton, List.flatMap_singleton, foundAt_eq_bodyReport r text ho]
    · refine ⟨methods, ?_, hordered, ?_⟩
      · intro o c
        rw [hmem]
        constructor
        · rintro ⟨h, hlt⟩
          exact ⟨h, by omega⟩
        · rintro ⟨h, hlt⟩
          rcases Nat.lt_succ_iff_lt_or_eq.mp hlt with hlt | rfl
          · exact ⟨h, hlt⟩
          · exact absurd ⟨o, h⟩ hcloses
      · rw [List.range_succ, List.flatMap_append, hfound, List.flatMap_singleton,
          foundAt_eq_nil r text (by omega) hcloses, List.append_nil]

end MethodLength

open MethodLength (ClosesAt bodyReport)

/-- **Exactly the long methods are reported, each where it closes.** The brace that closes a method
makes the rule report the method, once, if its body is longer than the limit; no other place of a
text makes it report anything, the end included. A text has its methods one behind the other, and
what a scan finds are their reports, in this order. -/
theorem scanText_methodLength (r : MethodLength) (text : List Char) :
    (∀ o c, ClosesAt text o c →
      foundAt [methodLength r] text c = bodyReport r.maxLines text o c) ∧
    (∀ i, i ≤ text.length → (¬ ∃ o, ClosesAt text o i) → foundAt [methodLength r] text i = []) ∧
    ∃ methods : List (Nat × Nat),
      (∀ o c, (o, c) ∈ methods ↔ ClosesAt text o c) ∧
      methods.Pairwise (fun m m' => m.2 < m'.1) ∧
      scanText [methodLength r] text =
        methods.flatMap fun m => bodyReport r.maxLines text m.1 m.2 := by
  refine ⟨fun o c => MethodLength.foundAt_eq_bodyReport r text,
    fun i => MethodLength.foundAt_eq_nil r text, ?_⟩
  obtain ⟨methods, hmem, hordered, hfound⟩ :=
    MethodLength.exists_methods r text (Nat.le_refl (text.length + 1))
  refine ⟨methods, ?_, hordered, ?_⟩
  · intro o c
    rw [hmem]
    constructor
    · rintro ⟨h, -⟩
      exact h
    · intro h
      exact ⟨h, Nat.lt_succ_of_lt h.lt_length⟩
  · rw [scanText_eq, hfound]

/-- A body with a comment, a block and a blank line in it. The line that closes the method opens
another one, whose body is short enough. -/
theorem scanText_methodLength_block :
    let text := "\x7dm() \x7b\n// c\n\x7b\n\n\x7d\n\x7d n() \x7b\n;\n\x7d".toList
    (∃ o, ClosesAt text o 17) ∧
      scanText [methodLength { maxLines := 1 }] text =
        [.make .methodTooLong (some 1) "Method is 3 lines long (max: 1)" "\x7dm() \x7b"
          (some "Extract parts of the body into methods")] := by
  intro text
  have hfound : foundAt [methodLength { maxLines := 1 }] text 17 ≠ [] := by decide +kernel
  refine ⟨?_, by decide +kernel⟩
  by_contra hnone
  exact hfound ((scanText_methodLength { maxLines := 1 } text).2.1 17 (by decide) hnone)

end Rule
end StyleScan
