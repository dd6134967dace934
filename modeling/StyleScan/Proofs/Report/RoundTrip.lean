import StyleScan.Report.Stored

/-!
# StyleScan.Proofs.Report.RoundTrip

Reports survive being stored. A report is read back as it was written if its numbers fit into the
64 bits of a stored number, and whatever is read at all has such numbers.

* `Json.list?_map`, `Json.mem_of_list?` — lists of records, from what holds of one record.
* `Json.Overlooks`          — fields of other names play no part.
* `BatchReport.Storable`    — the numbers of a report fit.
* `BatchReport.stored_roundTrip` — a batch is read back as it was written.
-/

namespace StyleScan
namespace Json

/-! ## Numbers, options and lists -/

theorem count?_int {n : Nat} (h : n ≤ maxCount) : count? (.int n) = some n := by
  rw [count?, if_pos]
  · rfl
  · omega

theorem le_of_count? {value : Json} {n : Nat} (h : value.count? = some n) : n ≤ maxCount := by
  cases value with
  | int m =>
    rw [count?] at h
    split at h
    · next hm =>
      cases h
      omega
    · cases h
  | _ => cases h

theorem optional_eq_some_none {α : Type} (read : Json → Option α) (value : Option Json) :
    optional read value = some none ↔ value = none ∨ value = some .null := by
  rcases value with _ | value
  · simp [optional]
  · cases value <;> simp [optional]

theorem optional_eq_some_some {α : Type} {read : Json → Option α} {value : Option Json} {x : α}
    (h : optional read value = some (some x)) : ∃ stored, read stored = some x := by
  rcases value with _ | value
  · cases h
  · cases value with
    | null => cases h
    | _ => exact ⟨_, by simpa [optional] using h⟩

/-- The reader of one item need only succeed on the items that are there. -/
theorem list?_map {α : Type} (read : Json → Option α) (write : α → Json) {xs : List α}
    (h : ∀ x ∈ xs, read (write x) = some x) : list? read (.arr (xs.map write)) = some xs := by
  rw [list?]
  induction xs with
  | nil => rfl
  | cons x xs ih =>
    rw [List.forall_mem_cons] at h
    rw [List.map_cons, List.mapM_cons, h.1, ih h.2]
    rfl

theorem mem_of_list? {α : Type} {read : Json → Option α} {value : Json} {xs : List α}
    (h : list? read value = some xs) {x : α} (hx : x ∈ xs) : ∃ item, read item = some x := by
  cases value with
  | arr items =>
    rw [list?] at h
    induction items generalizing xs with
    | nil =>
      cases h
      cases hx
    | cons item items ih =>
      rw [List.mapM_cons] at h
      obtain ⟨y, hy, h⟩ := Option.bind_eq_some_iff.mp h
      obtain ⟨ys, hys, h⟩ := Option.bind_eq_some_iff.mp h
      cases h
      rcases List.mem_cons.mp hx with rfl | hx
      · exact ⟨item, hy⟩
      · exact ih hx hys
  | _ => cases h

/-! ## Fields that are not known -/

/-- A field of any name but the given ones can stand anywhere in an object and plays no part in how
the object is read. -/
def Overlooks {α : Type} (read : Json → Option α) (names : List String) : Prop :=
  ∀ (before after : List (String × Json)) (name : String) (value : Json), name ∉ names →
    read (.obj (before ++ (name, value) :: after)) = read (.obj (before ++ after))

theorem lookup_append_cons {name key : String} (h : key ≠ name) (value : Json)
    (before after : List (String × Json)) :
    lookup name (before ++ (key, value) :: after) = lookup name (before ++ after) := by
  induction before with
  | nil => rw [List.nil_append, lookup, if_neg h, List.nil_append]
  | cons field before ih =>
    simp only [List.cons_append, lookup]
    rw [ih]

theorem record_append_cons {names : List String} {key : String} (h : key ∉ names) (value : Json)
    (before after : List (String × Json)) :
    record names (.obj (before ++ (key, value) :: after)) =
      record names (.obj (before ++ after)) := by
  simp only [record, Option.some.injEq, List.map_inj_left]
  intro name hname
  refine lookup_append_cons ?_ value before after
  rintro rfl
  exact h hname

end Json

open Json (Overlooks)

/-! ## Violations -/

namespace Violation

/-- The number of the violation's line fits into a stored number. -/
def Storable (v : Violation) : Prop := ∀ line ∈ v.line, line ≤ Json.maxCount

theorem optional_line {line : Option Nat} (h : ∀ n ∈ line, n ≤ Json.maxCount) :
    Json.optional Json.count? (some (lineJson line)) = some line := by
  cases line with
  | none => rfl
  | some n => simp [lineJson, Json.optional, Json.count?_int (h n rfl)]

theorem optional_suggestion (text : String) :
    Json.optional suggestionOf? (some (suggestionJson text)) = some (some text) := rfl

theorem ofJson?_toJson {v : Violation} (h : v.Storable) : ofJson? v.toJson = some v := by
  obtain ⟨kind, severity, line, message, sourceLine, suggestion⟩ := v
  have hkind := Kind.ofTag?_tag kind
  have hseverity := Severity.ofName?_name severity
  have hline := optional_line h
  have hnone : Json.optional suggestionOf? none = some none := rfl
  cases suggestion with
  | none =>
    simp [ofJson?, toJson, Json.record, Json.lookup, Json.name?, Json.text?, hkind, hseverity,
      hline, hnone]
  | some text =>
    simp [ofJson?, toJson, Json.record, Json.lookup, Json.name?, Json.text?, hkind, hseverity,
      hline, optional_suggestion]

/-- What a stored violation is read from: its fields by name, or in order. -/
theorem ofJson?_cases {value : Json} {v : Violation} (h : ofJson? value = some v) :
    ∃ kind severity line message sourceLine suggestion,
      value.record ["kind", "severity", "line", "message", "source_line", "suggestion"] =
        some [kind, severity, line, message, sourceLine, suggestion] ∧
      Json.optional Json.count? line = some v.line ∧
      Json.optional suggestionOf? suggestion = some v.suggestion := by
  rw [ofJson?] at h
  split at h
  · next kind severity line message sourceLine suggestion hrecord =>
    simp only [Option.bind_eq_bind, Option.bind_eq_some_iff, Option.pure_def, Option.some.injEq]
      at h
    obtain ⟨_, _, _, _, line', hline, _, _, _, _, suggestion', hsuggestion, rfl⟩ := h
    exact ⟨_, _, line, _, _, suggestion, hrecord, hline, hsuggestion⟩
  · cases h

theorem storable_of_ofJson? {value : Json} {v : Violation} (h : ofJson? value = some v) :
    v.Storable := by
  obtain ⟨_, _, line, _, _, _, _, hline, _⟩ := ofJson?_cases h
  intro n hn
  rw [Option.mem_def.mp hn] at hline
  obtain ⟨stored, hstored⟩ := Json.optional_eq_some_some hline
  exact Json.le_of_count? hstored

/-- A line or a suggestion is absent exactly if its field is missing or null. -/
theorem absent_iff {fields : List (String × Json)} {v : Violation}
    (h : ofJson? (.obj fields) = some v) :
    (v.line = none ↔ Json.lookup "line" fields = none ∨ Json.lookup "line" fields = some .null) ∧
      (v.suggestion = none ↔
        Json.lookup "suggestion" fields = none ∨ Json.lookup "suggestion" fields = some .null) := by
  obtain ⟨_, _, line, _, _, suggestion, hrecord, hline, hsuggestion⟩ := ofJson?_cases h
  simp only [Json.record, List.map_cons, List.map_nil, Option.some.injEq, List.cons.injEq,
    and_true] at hrecord
  obtain ⟨_, _, rfl, _, _, rfl⟩ := hrecord
  constructor
  · rw [← Json.optional_eq_some_none Json.count?, hline, Option.some.injEq]
  · rw [← Json.optional_eq_some_none suggestionOf?, hsuggestion, Option.some.injEq]

end Violation

/-! ## Reports -/

namespace FileReport

/-- The lines of all violations fit into stored numbers. -/
def Storable (r : FileReport) : Prop := ∀ v ∈ r.violations, v.Storable

theorem ofJson?_toJson {r : FileReport} (h : r.Storable) : ofJson? r.toJson = some r := by
  have hviolations := Json.list?_map Violation.ofJson? Violation.toJson fun v hv =>
    Violation.ofJson?_toJson (h v hv)
  simp [ofJson?, toJson, Json.record, Json.lookup, Json.text?, hviolations]

theorem storable_of_ofJson? {value : Json} {r : FileReport} (h : ofJson? value = some r) :
    r.Storable := by
  rw [ofJson?] at h
  split at h
  · simp only [Option.bind_eq_bind, Option.bind_eq_some_iff, Option.pure_def, Option.some.injEq]
      at h
    obtain ⟨_, _, violations, hviolations, rfl⟩ := h
    intro v hv
    obtain ⟨item, hitem⟩ := Json.mem_of_list? hviolations hv
    exact Violation.storable_of_ofJson? hitem
  · cases h

end FileReport

namespace BatchReport

/-- The numbers of a report, of files and of lines, fit into stored numbers. -/
structure Storable (b : BatchReport) : Prop where
  filesChecked : b.filesChecked ≤ Json.maxCount
  results : ∀ r ∈ b.results, r.Storable

theorem ofJson?_toJson {b : BatchReport} (h : b.Storable) : ofJson? b.toJson = some b := by
  have hresults := Json.list?_map FileReport.ofJson? FileReport.toJson fun r hr =>
    FileReport.ofJson?_toJson (h.results r hr)
  simp [ofJson?, toJson, Json.record, Json.lookup, hresults, Json.count?_int h.filesChecked]

theorem storable_of_ofJson? {value : Json} {b : BatchReport} (h : ofJson? value = some b) :
    b.Storable := by
  rw [ofJson?] at h
  split at h
  · simp only [Option.bind_eq_bind, Option.bind_eq_some_iff, Option.pure_def, Option.some.injEq]
      at h
    obtain ⟨results, hresults, count, hcount, rfl⟩ := h
    refine ⟨Json.le_of_count? hcount, ?_⟩
    intro r hr
    obtain ⟨item, hitem⟩ := Json.mem_of_list? hresults hr
    exact FileReport.storable_of_ofJson? hitem
  · cases h

/-- **A report is read back as it was written.** A batch whose numbers fit into stored numbers is
read back from its stored form. Whatever value is read as a batch, the batch has such numbers, so
that it can be stored and read again. At every level fields of other names play no part, and a line
or a suggestion is absent exactly if its field is missing or null. -/
theorem stored_roundTrip :
    (∀ b : BatchReport, b.Storable → ofJson? b.toJson = some b) ∧
      (∀ (value : Json) (b : BatchReport), ofJson? value = some b →
        b.Storable ∧ ofJson? b.toJson = some b) ∧
      (Overlooks ofJson? ["results", "files_checked"] ∧
        Overlooks FileReport.ofJson? ["file", "violations"] ∧
        Overlooks Violation.ofJson?
          ["kind", "severity", "line", "message", "source_line", "suggestion"] ∧
        Overlooks Violation.suggestionOf? ["message"]) ∧
      ∀ (fields : List (String × Json)) (v : Violation), Violation.ofJson? (.obj fields) = some v →
        (v.line = none ↔
          Json.lookup "line" fields = none ∨ Json.lookup "line" fields = some .null) ∧
        (v.suggestion = none ↔
          Json.lookup "suggestion" fields = none ∨
            Json.lookup "suggestion" fields = some .null) := by
  refine ⟨fun b hb => ofJson?_toJson hb, ?_, ⟨?_, ?_, ?_, ?_⟩, ?_⟩
  · intro value b h
    have hb := storable_of_ofJson? h
    exact ⟨hb, ofJson?_toJson hb⟩
  · intro before after name value hname
    simp only [ofJson?, Json.record_append_cons hname]
  · intro before after name value hname
    simp only [FileReport.ofJson?, Json.record_append_cons hname]
  · intro before after name value hname
    simp only [Violation.ofJson?, Json.record_append_cons hname]
  · intro before after name value hname
    simp only [Violation.suggestionOf?, Json.record_append_cons hname]
  · intro fields v h
    exact Violation.absent_iff h

/-- A value with a field that is not known, a severity as an object, a line that is null and no
suggestion; and a report with the largest line that can be stored. -/
theorem stored_roundTrip_sparse :
    let value : Json := .obj [("version", .int 2), ("files_checked", .int 1), ("results", .arr [
      .arr [.str "a.cs", .arr [.obj [("message", .str "m"), ("kind", .str "variable-too-short"),
        ("severity", .obj [("info", .null)]), ("line", .null), ("source_line", .str "")]]]])]
    let violation : Violation :=
      { kind := .identifierTooShort, severity := .info, line := none, message := "m",
        sourceLine := "" }
    let read : BatchReport :=
      { results := [{ file := "a.cs", violations := [violation] }], filesChecked := 1 }
    let written : BatchReport :=
      { results := [{
          file := "a.cs"
          violations := [{ violation with
            line := some Json.maxCount, suggestion := some "help" }] }] }
    (ofJson? value = some read ∧ ofJson? read.toJson = some read) ∧
      (written.Storable ∧ ofJson? written.toJson = some written) := by
  intro value violation read written
  have hread : ofJson? value = some read := by decide +kernel
  have hwritten : written.Storable := by
    refine ⟨by decide, ?_⟩
    simp [written, FileReport.Storable, Violation.Storable]
  exact ⟨⟨hread, (stored_roundTrip.2.1 value read hread).2⟩,
    hwritten, stored_roundTrip.1 written hwritten⟩

end BatchReport
end StyleScan
