/-!
# StyleScan.Text.Search

Texts inside texts.

* `Text.contains` — whether a text stands somewhere inside another.
* `Text.fields`   — a text cut at every occurrence of a separator.
* `Text.tails`    — what is left of a text at every place of it.
* `Text.sameLetters` — equality up to the case of ASCII letters.
-/

namespace StyleScan
namespace Text

/-- Whether `part` stands somewhere inside a text. -/
def contains (part : List Char) : List Char → Bool
  | [] => part.isEmpty
  | c :: cs => part.isPrefixOf (c :: cs) || contains part cs

/-- The pieces between the occurrences of a separator; there is always one more piece than
separators. -/
def fields {α : Type} [DecidableEq α] (sep : α) : List α → List (List α)
  | [] => [[]]
  | c :: cs =>
    if c = sep then [] :: fields sep cs
    else match fields sep cs with
      | [] => [[c]]
      | piece :: rest => (c :: piece) :: rest

theorem fields_of_not_mem {α : Type} [DecidableEq α] {sep : α} {cs : List α} (h : sep ∉ cs) :
    fields sep cs = [cs] := by
  induction cs with
  | nil => rfl
  | cons c cs ih =>
    rw [List.mem_cons, not_or] at h
    rw [fields, if_neg (Ne.symm h.1), ih h.2]

theorem fields_append_cons {α : Type} [DecidableEq α] {sep : α} {piece : List α}
    (h : sep ∉ piece) (cs : List α) :
    fields sep (piece ++ sep :: cs) = piece :: fields sep cs := by
  induction piece with
  | nil => rw [List.nil_append, fields, if_pos rfl]
  | cons c piece ih =>
    rw [List.mem_cons, not_or] at h
    rw [List.cons_append, fields, if_neg (Ne.symm h.1), ih h.2]

/-- The pieces of a string between the occurrences of a separator. -/
def split (sep : Char) (s : String) : List String := (fields sep s.toList).map String.ofList

/-- What is left of a list at every place of it, the whole list first and its end last. -/
def tails {α : Type} : List α → List (List α)
  | [] => [[]]
  | a :: as => (a :: as) :: tails as

/-- Equality up to the case of ASCII letters. -/
def sameLetters (a b : String) : Bool :=
  a.toList.map Char.toLower == b.toList.map Char.toLower

end Text
end StyleScan
