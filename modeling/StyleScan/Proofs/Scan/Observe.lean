import StyleScan.Scan

/-!
# StyleScan.Proofs.Scan.Observe

A scan seen rule by rule, and place by place.

* `Rule.observe`       — a rule that follows a text on its own.
* `Rule.reportsAt`     — what a rule on its own reports at a place of a text.
* `Rule.foundAt`       — what a scan finds when it takes the character at a place, or at the end.
* `Rule.foundAt_eq`    — a scan finds what each of its rules reports on its own, in their order.
* `Rule.scanText_eq`   — a scan finds its violations place by place.
* `Rule.foundFrom`     — what a scan finds in a text that starts in some state, and at its end.
* `Rule.reportsAlong`  — what a rule on its own reports along a text, its end left out.
* `Rule.scanText_alone` — the scan under one rule: what it reports along the text, and at its end.
-/

namespace StyleScan

open Lexical (State)

namespace Rule

/-- A rule after it has observed a text that starts in the lexical state `s`. -/
def observe (r : Rule) (s : State) : List Char → Rule
  | [] => r
  | c :: cs => observe (r.check c (s.enter c)).1 (s.advance c) cs

/-- What a rule reports at a place of a text: on the character there, or on the end of the text at
the place behind its last character. -/
def reportsAt (r : Rule) (text : List Char) (i : Nat) : List Violation :=
  let seen := r.fresh.observe {} (text.take i)
  let s := ({} : State).run (text.take i)
  match text[i]? with
  | some c => (seen.check c (s.enter c)).2
  | none => (seen.close s).2

/-- The scan of a text up to a place. -/
def scanUpTo (rules : List Rule) (text : List Char) (i : Nat) : Scan :=
  (Scan.start (rules.map fresh)).feedText (text.take i)

/-- The violations that a scan adds when it takes the character at place `i` of a text. At the place
behind the last character, those that it adds at the end. -/
def foundAt (rules : List Rule) (text : List Char) (i : Nat) : List Violation :=
  let before := (scanUpTo rules text i).found.size
  if i < text.length then (scanUpTo rules text (i + 1)).found.toList.drop before
  else (scanText rules text).drop before

@[simp] theorem kind_observe (r : Rule) (s : State) (cs : List Char) :
    (r.observe s cs).kind = r.kind := by
  induction cs generalizing r s with
  | nil => rfl
  | cons c cs ih => rw [observe, ih, kind_check]

theorem checkAll_eq (c : Char) (s : State) (rules : List Rule) :
    checkAll c s rules =
      (rules.map fun r => (r.check c s).1, rules.flatMap fun r => (r.check c s).2) := by
  induction rules with
  | nil => rfl
  | cons r rs ih => simp [checkAll, ih]

theorem checkAll_congr {c c' : Char} {s s' : State} {rules : List Rule}
    (h : ∀ r ∈ rules, r.check c s = r.check c' s') : checkAll c s rules = checkAll c' s' rules := by
  induction rules with
  | nil => rfl
  | cons r rules ih =>
    rw [List.forall_mem_cons] at h
    simp only [checkAll, h.1, ih h.2]

theorem closeAll_eq (s : State) (rules : List Rule) :
    closeAll s rules = (rules.map fun r => (r.close s).1, rules.flatMap fun r => (r.close s).2) := by
  induction rules with
  | nil => rfl
  | cons r rs ih => simp [closeAll, ih]

end Rule

namespace Scan

theorem rules_feedText (scan : Scan) (cs : List Char) :
    (scan.feedText cs).rules = scan.rules.map fun r => r.observe scan.state cs := by
  induction cs generalizing scan with
  | nil => simp [Rule.observe]
  | cons c cs ih =>
    rw [feedText_cons, ih]
    simp [feed, Rule.checkAll_eq, Rule.observe, State.advance]

theorem found_feed (scan : Scan) (c : Char) :
    (scan.feed c).found.toList =
      scan.found.toList ++ scan.rules.flatMap fun r => (r.check c (scan.state.enter c)).2 := by
  simp [feed, Rule.checkAll_eq]

theorem finish_eq (scan : Scan) :
    scan.finish = scan.found.toList ++ scan.rules.flatMap fun r => (r.close scan.state).2 := by
  simp [finish, close, Rule.closeAll_eq]

end Scan

namespace Rule

variable (rules : List Rule) (text : List Char)

theorem state_scanUpTo (i : Nat) :
    (scanUpTo rules text i).state = ({} : State).run (text.take i) :=
  Scan.state_feedText _ _

theorem rules_scanUpTo (i : Nat) :
    (scanUpTo rules text i).rules = rules.map fun r => r.fresh.observe {} (text.take i) := by
  rw [scanUpTo, Scan.rules_feedText]
  simp [Scan.start]

theorem found_scanUpTo_succ {i : Nat} (h : i < text.length) :
    (scanUpTo rules text (i + 1)).found.toList =
      (scanUpTo rules text i).found.toList ++ rules.flatMap fun r => r.reportsAt text i := by
  have hfeed : scanUpTo rules text (i + 1) = (scanUpTo rules text i).feed text[i] := by
    rw [scanUpTo, List.take_succ_eq_append_getElem h, Scan.feedText_append]
    rfl
  rw [hfeed, Scan.found_feed, rules_scanUpTo, state_scanUpTo, List.flatMap_map]
  simp only [reportsAt, List.getElem?_eq_getElem h]

theorem scanText_eq_found_append :
    scanText rules text =
      (scanUpTo rules text text.length).found.toList ++
        rules.flatMap fun r => r.reportsAt text text.length := by
  have hscan : scanText rules text = (scanUpTo rules text text.length).finish := by
    rw [scanUpTo, List.take_length]
    rfl
  rw [hscan, Scan.finish_eq, rules_scanUpTo, state_scanUpTo, List.flatMap_map]
  simp only [reportsAt, List.getElem?_eq_none (Nat.le_refl _)]

theorem foundAt_eq {i : Nat} (h : i ≤ text.length) :
    foundAt rules text i = rules.flatMap fun r => r.reportsAt text i := by
  rw [foundAt]
  by_cases hlt : i < text.length
  · rw [if_pos hlt, found_scanUpTo_succ rules text hlt]
    simp
  · have hi : i = text.length := by omega
    subst hi
    rw [if_neg hlt, scanText_eq_found_append]
    simp

theorem found_scanUpTo {k : Nat} (h : k ≤ text.length) :
    (scanUpTo rules text k).found.toList = (List.range k).flatMap (foundAt rules text) := by
  induction k with
  | zero => rfl
  | succ k ih =>
    rw [found_scanUpTo_succ rules text (by omega), ih (by omega), List.range_succ,
      List.flatMap_append, List.flatMap_singleton, foundAt_eq rules text (by omega)]

theorem scanText_eq :
    scanText rules text = (List.range (text.length + 1)).flatMap (foundAt rules text) := by
  rw [scanText_eq_found_append, found_scanUpTo rules text (Nat.le_refl _), List.range_succ,
    List.flatMap_append, List.flatMap_singleton, foundAt_eq rules text (Nat.le_refl _)]

/-! ## What is still ahead -/

/-- What rules that run together find in a text that starts in the lexical state `s`, its end
included. -/
def foundFrom (rules : List Rule) (s : State) : List Char → List Violation
  | [] => (closeAll s rules).2
  | c :: cs =>
    (checkAll c (s.enter c) rules).2 ++
      foundFrom (checkAll c (s.enter c) rules).1 (s.advance c) cs

theorem finish_feedText (scan : Scan) (cs : List Char) :
    (scan.feedText cs).finish = scan.found.toList ++ foundFrom scan.rules scan.state cs := by
  induction cs generalizing scan with
  | nil => simp [Scan.finish, Scan.close, foundFrom]
  | cons c cs ih =>
    rw [Scan.feedText_cons, ih, foundFrom, ← List.append_assoc]
    simp [Scan.feed, State.advance]

theorem scanText_eq_foundFrom : scanText rules text = foundFrom (rules.map fresh) {} text := by
  rw [scanText, finish_feedText]
  rfl

/-! ## One rule -/

/-- What a rule reports on the characters of a text that starts in the lexical state `s`. -/
def reportsAlong (r : Rule) (s : State) : List Char → List Violation
  | [] => []
  | c :: cs => (r.check c (s.enter c)).2 ++ reportsAlong (r.check c (s.enter c)).1 (s.advance c) cs

theorem observe_append (r : Rule) (s : State) (as bs : List Char) :
    r.observe s (as ++ bs) = (r.observe s as).observe (s.run as) bs := by
  induction as generalizing r s with
  | nil => rfl
  | cons c cs ih => rw [List.cons_append, observe, ih, observe, State.run_cons]

theorem reportsAlong_append (r : Rule) (s : State) (as bs : List Char) :
    r.reportsAlong s (as ++ bs) =
      r.reportsAlong s as ++ (r.observe s as).reportsAlong (s.run as) bs := by
  induction as generalizing r s with
  | nil => rfl
  | cons c cs ih =>
    rw [List.cons_append, reportsAlong, ih, reportsAlong, observe, State.run_cons,
      List.append_assoc]

theorem found_feedText_alone (r : Rule) (scan : Scan) (h : scan.rules = [r]) (cs : List Char) :
    (scan.feedText cs).found.toList = scan.found.toList ++ r.reportsAlong scan.state cs := by
  induction cs generalizing r scan with
  | nil => simp [reportsAlong]
  | cons c cs ih =>
    have hrules : (scan.feed c).rules = [(r.check c (scan.state.enter c)).1] := by
      simp [Scan.feed, checkAll_eq, h]
    rw [Scan.feedText_cons, ih _ _ hrules, Scan.found_feed, h, List.flatMap_singleton,
      List.append_assoc, reportsAlong]
    rfl

theorem scanText_alone (r : Rule) (text : List Char) :
    scanText [r] text =
      r.fresh.reportsAlong {} text ++
        ((r.fresh.observe {} text).close (({} : State).run text)).2 := by
  rw [scanText, Scan.finish_eq, found_feedText_alone r.fresh _ rfl, Scan.rules_feedText,
    Scan.state_feedText]
  simp [Scan.start]

end Rule
end StyleScan
