import StyleScan.Text.Search

/-!
# StyleScan.Glob

Patterns of the files to leave out. A pattern is matched against a whole path, letters in their
case, and a slash is a character like any other.

* `Glob.Token`   — a character, `?`, `*`, `**`, or a class in square brackets.
* `Glob.parse?`  — the tokens of a pattern; `**` must be a whole component of it.
* `Glob.accepts` — whether a pattern matches a text.
-/

namespace StyleScan
namespace Glob

/-- A part of a pattern. -/
inductive Token where
  | char (c : Char)
  | anyChar
  /-- Any number of characters. -/
  | anySequence
  /-- Any number of directories, or all that is left. -/
  | anyDirectories
  /-- One character inside the ranges, or outside all of them if `negated`. -/
  | oneOf (negated : Bool) (ranges : List (Char × Char))
deriving DecidableEq, Repr, Inhabited

/-! ## Reading -/

/-- The ranges of a class: `a-z`, or single characters. -/
def ranges : List Char → List (Char × Char)
  | low :: '-' :: high :: rest => (low, high) :: ranges rest
  | c :: rest => (c, c) :: ranges rest
  | [] => []

/-- What stands before the bracket that closes a class, and behind it. The first character belongs
to the class, a closing bracket included. -/
def classBody : List Char → Option (List Char × List Char)
  | [] => none
  | first :: rest =>
    match rest.dropWhile (· != ']') with
    | [] => none
    | _ :: after => some (first :: rest.takeWhile (· != ']'), after)

theorem length_of_classBody {cs body after : List Char} (h : classBody cs = some (body, after)) :
    after.length < cs.length := by
  cases cs with
  | nil => simp [classBody] at h
  | cons first rest =>
    rw [classBody] at h
    split at h
    · simp at h
    · next c others hd =>
      simp only [Option.some.injEq, Prod.mk.injEq] at h
      obtain ⟨-, rfl⟩ := h
      have hlen : (rest.dropWhile (· != ']')).length ≤ rest.length :=
        (List.dropWhile_suffix _).length_le
      rw [hd] at hlen
      simp only [List.length_cons] at hlen ⊢
      omega

/-- Whether a class is negated, and what follows the mark. -/
def classMark : List Char → Bool × List Char
  | '!' :: rest => (true, rest)
  | cs => (false, cs)

theorem length_classMark (cs : List Char) : (classMark cs).2.length ≤ cs.length := by
  unfold classMark
  split <;> simp

/-- Reads tokens; `fresh` says that a component of the path starts here. -/
def tokens? (fresh : Bool) (cs : List Char) : Option (List Token) :=
  match cs with
  | [] => some []
  | '*' :: '*' :: '*' :: _ => none
  | ['*', '*'] => if fresh then some [.anyDirectories] else none
  | '*' :: '*' :: c :: rest =>
    if fresh && c == '/' then (tokens? true rest).map (.anyDirectories :: ·) else none
  | '*' :: rest => (tokens? false rest).map (.anySequence :: ·)
  | '?' :: rest => (tokens? false rest).map (.anyChar :: ·)
  | '[' :: rest =>
    match h : classBody (classMark rest).2 with
    | none => none
    | some (body, after) =>
      have := length_of_classBody h
      have := length_classMark rest
      (tokens? false after).map (.oneOf (classMark rest).1 (ranges body) :: ·)
  | c :: rest => (tokens? (c == '/') rest).map (.char c :: ·)
termination_by cs.length

end Glob

/-- A pattern of the files to leave out. -/
abbrev Glob := List Glob.Token

namespace Glob

/-- The tokens of a pattern, if it is well formed. -/
def parse? (pattern : String) : Option Glob := tokens? true pattern.toList

/-! ## Matching -/

/-- What is left of a text behind each of its slashes. -/
def afterSlashes : List Char → List (List Char)
  | [] => []
  | c :: cs => if c = '/' then cs :: afterSlashes cs else afterSlashes cs

/-- Whether a class holds a character. -/
def inRanges (ranges : List (Char × Char)) (c : Char) : Bool :=
  ranges.any fun range => range.1 ≤ c && c ≤ range.2

/-- What can be left of a text once a token has taken its share from the front. -/
def Token.rests : Token → List Char → List (List Char)
  | anySequence, cs => Text.tails cs
  | anyDirectories, cs => cs :: afterSlashes cs ++ [[]]
  | _, [] => []
  | char c, d :: cs => if c = d then [cs] else []
  | anyChar, _ :: cs => [cs]
  | oneOf negated ranges, c :: cs => if inRanges ranges c != negated then [cs] else []

/-- Whether a pattern matches the whole of a text. -/
def matchesAll : Glob → List Char → Bool
  | [], cs => cs.isEmpty
  | token :: tokens, cs => (token.rests cs).any (matchesAll tokens)

/-- Whether a pattern matches a text. -/
def accepts (g : Glob) (text : String) : Bool := matchesAll g text.toList

end Glob
end StyleScan
