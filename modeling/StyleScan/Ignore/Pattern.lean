import StyleScan.Encoding.Utf8
import StyleScan.Text.Blank
import StyleScan.Text.Ranges
import StyleScan.Text.Search

/-!
# StyleScan.Ignore.Pattern

The patterns of ignore files. A pattern is matched against the bytes of a path below the directory
of its file, and only `**` goes across slashes.

* `Token`            — a character, `?`, `*`, a form of `**`, a class, or alternatives in braces.
* `Token.parse?`     — the tokens of a pattern.
* `Pattern.accepts`  — whether a pattern matches a path.
* `Pattern.ofLine`   — the pattern of a line: `!` keeps what was left out before, a slash in front
  ties the pattern to the directory, and a slash behind restricts it to directories.
-/

namespace StyleScan
namespace Ignore

/-- A part of a pattern. -/
inductive Token where
  | char (c : Char)
  | anyByte
  /-- Any number of bytes inside one component. -/
  | anySequence
  /-- `**` in front: nothing, or any number of directories. -/
  | leading
  /-- `**` between two slashes: any number of directories. -/
  | between
  /-- `**` at the end: everything inside a directory. -/
  | trailing
  /-- One byte inside the ranges, or outside all of them if `negated`. -/
  | oneOf (negated : Bool) (ranges : List (Nat × Nat))
  /-- One of several patterns. -/
  | alternatives (branches : List (List Token))
deriving Repr, Inhabited

/-! ## Classes -/

/-- How a class of characters ends. -/
inductive ClassEnd where
  /-- No bracket closes it. -/
  | unclosed
  /-- A range whose first character comes after its last. -/
  | backwards
  | closed (ranges : List (Char × Char)) (rest : List Char)
deriving Repr, Inhabited

/-- Reads the ranges of a class; `dash` says that the last one is waiting for its end. A bracket or
a dash in front stands for itself, and so does a dash behind. -/
def readClass (first dash : Bool) (ranges : List (Char × Char)) : List Char → ClassEnd
  | [] => .unclosed
  | c :: rest =>
    if c = ']' ∧ first = false then
      .closed (if dash then ('-', '-') :: ranges else ranges).reverse rest
    else if c = '-' ∧ first = false ∧ dash = false then readClass false true ranges rest
    else
      match dash, ranges with
      | true, (low, _) :: more =>
        if c < low then .backwards else readClass false false ((low, c) :: more) rest
      | _, _ => readClass false false ((c, c) :: ranges) rest

theorem length_of_readClass {first dash : Bool} {ranges found : List (Char × Char)}
    {cs rest : List Char} (h : readClass first dash ranges cs = .closed found rest) :
    rest.length < cs.length := by
  fun_induction readClass first dash ranges cs with
  | case1 => simp at h
  | case2 =>
    simp only [ClassEnd.closed.injEq] at h
    simp [h.2]
  | case3 _ _ _ _ _ _ _ ih => exact Nat.lt_trans (ih h) (Nat.lt_succ_self _)
  | case4 => simp at h
  | case5 _ _ _ _ _ _ _ _ _ ih => exact Nat.lt_trans (ih h) (Nat.lt_succ_self _)
  | case6 _ _ _ _ _ _ _ _ ih => exact Nat.lt_trans (ih h) (Nat.lt_succ_self _)

/-- The ranges of bytes that a range of characters stands for. A character of several bytes stands
for each of them. -/
def byteRanges (range : Char × Char) : List (Nat × Nat) :=
  let single := fun b : Nat => (b, b)
  let low := Utf8.encode range.1
  let high := Utf8.encode range.2
  if range.1 = range.2 then low.map single
  else low.dropLast.map single ++ [(low.getLastD 0, high.headD 0)] ++ high.tail.map single

/-- Whether a class is negated, and what follows the mark. -/
def classMark : List Char → Bool × List Char
  | '!' :: rest => (true, rest)
  | '^' :: rest => (true, rest)
  | cs => (false, cs)

theorem length_classMark (cs : List Char) : (classMark cs).2.length ≤ cs.length := by
  unfold classMark
  split <;> simp

/-! ## Reading -/

/-- What is known of a pattern on the way through it. -/
structure Reading where
  /-- The tokens of the branch under way, the last one first. -/
  branch : List Token := []
  /-- The finished branches of the innermost braces, the last one first. -/
  finished : List (List Token) := []
  /-- The branches around the innermost braces. -/
  around : List (List Token × List (List Token)) := []
  /-- The character before. -/
  previous : Option Char := none
  /-- Whether a class was found that no bracket closes; brackets are plain from there on. -/
  plainBrackets : Bool := false

namespace Reading

/-- Adds a token, read up to a character. -/
def push (r : Reading) (last : Char) (token : Token) : Reading :=
  { r with branch := token :: r.branch, previous := some last }

/-- Opens braces. -/
def openBrace (r : Reading) : Reading :=
  { r with branch := [], finished := [], around := (r.branch, r.finished) :: r.around,
           previous := some '\x7b' }

/-- Starts the next branch; outside of braces a comma is plain. -/
def comma (r : Reading) : Reading :=
  if r.around.isEmpty then r.push ',' (.char ',')
  else { r with branch := [], finished := r.branch.reverse :: r.finished, previous := some ',' }

/-- Closes braces. Empty branches are left out. -/
def closeBrace? (r : Reading) : Option Reading :=
  match r.around with
  | [] => none
  | (branch, finished) :: around =>
    let branches := (r.branch.reverse :: r.finished).reverse.filter fun b => !b.isEmpty
    let branch := if branches.isEmpty then branch else .alternatives branches :: branch
    some { r with branch, finished, around, previous := some '\x7d' }

/-- Takes two stars that are followed by `next`. They go across directories when they make up a
whole component; the slash behind them then belongs to them. -/
def twoStars (r : Reading) (next : Option Char) : Reading × Bool :=
  let plain := (r.push '*' .anySequence).push '*' .anySequence
  let inBraces := !r.around.isEmpty
  match r.branch with
  | [] =>
    match next with
    | none => (r.push '*' .leading, false)
    | some '/' => (r.push '/' .leading, true)
    | some _ => (plain, false)
  | last :: before =>
    if r.previous != some '/' then (plain, false)
    else
      let replace := fun (c : Char) (token : Token) =>
        match last with
        | .leading => { r with previous := some c }
        | .trailing => { r with previous := some c }
        | _ => { r with branch := token :: before, previous := some c }
      match next with
      | none => (replace '*' .trailing, false)
      | some '/' => (replace '/' .between, true)
      | some c =>
        if inBraces && (c == ',' || c == '\x7d') then (replace '*' .trailing, false)
        else (plain, false)

/-- Reads a pattern to its end. -/
def run? (r : Reading) (cs : List Char) : Option (List Token) :=
  match cs with
  | [] => if r.around.isEmpty then some r.branch.reverse else none
  | '?' :: rest => run? (r.push '?' .anyByte) rest
  | '*' :: '*' :: rest =>
    match rest with
    | [] => run? (r.twoStars none).1 []
    | c :: after =>
      let taken := r.twoStars (some c)
      if taken.2 then run? taken.1 after else run? taken.1 (c :: after)
  | '*' :: rest => run? (r.push '*' .anySequence) rest
  | '[' :: rest =>
    if r.plainBrackets then run? (r.push '[' (.char '[')) rest
    else
      match h : readClass true false [] (classMark rest).2 with
      | .backwards => none
      | .unclosed => run? ({ r with plainBrackets := true }.push '[' (.char '[')) rest
      | .closed ranges after =>
        have := length_of_readClass h
        have := length_classMark rest
        run? (r.push ']' (.oneOf (classMark rest).1 (ranges.flatMap byteRanges))) after
  | '\x7b' :: rest => run? r.openBrace rest
  | '\x7d' :: rest =>
    match r.closeBrace? with
    | none => none
    | some r => run? r rest
  | ',' :: rest => run? r.comma rest
  | ['\\'] => none
  | '\\' :: c :: rest => run? (r.push c (.char c)) rest
  | c :: rest => run? (r.push c (.char c)) rest
termination_by cs.length

end Reading

/-- The tokens of a pattern, if it is well formed. -/
def Token.parse? (pattern : List Char) : Option (List Token) := Reading.run? {} pattern

/-! ## Matching -/

/-- A slash, as a byte. -/
def slash : Nat := 0x2F

/-- What is left of a path behind each of its slashes. -/
def afterSlashes : List Nat → List (List Nat)
  | [] => []
  | b :: bs => if b = slash then bs :: afterSlashes bs else afterSlashes bs

/-- What is left of a path at every place up to its first slash. -/
def componentTails : List Nat → List (List Nat)
  | [] => [[]]
  | b :: bs => (b :: bs) :: if b = slash then [] else componentTails bs

mutual

/-- What can be left of a path once a token has taken its share from the front. -/
def Token.rests : Token → List Nat → List (List Nat)
  | .char c, bs =>
    if (Utf8.encode c).isPrefixOf bs then [bs.drop (Utf8.encode c).length] else []
  | .anySequence, bs => componentTails bs
  | .leading, bs => bs :: afterSlashes bs
  | .alternatives branches, bs => restsOfAny branches bs
  | _, [] => []
  | .anyByte, b :: bs => if b = slash then [] else [bs]
  | .between, b :: bs => if b = slash then bs :: afterSlashes bs else []
  | .trailing, b :: bs => if b = slash then Text.tails bs else []
  | .oneOf negated ranges, b :: bs => if Text.inRanges ranges b != negated then [bs] else []

/-- What can be left of a path once all tokens have taken their shares. -/
def restsOfAll : List Token → List Nat → List (List Nat)
  | [], bs => [bs]
  | token :: tokens, bs => (token.rests bs).flatMap (restsOfAll tokens)

/-- What can be left of a path once one of several branches has taken its share. -/
def restsOfAny : List (List Token) → List Nat → List (List Nat)
  | [], _ => []
  | branch :: branches, bs => restsOfAll branch bs ++ restsOfAny branches bs

end

/-- One line of an ignore file. -/
structure Pattern where
  tokens : List Token
  /-- Whether what matches is kept. -/
  keeps : Bool := false
  /-- Whether only directories can match. -/
  directoriesOnly : Bool := false
deriving Repr, Inhabited

namespace Pattern

/-- Whether a pattern matches a path. A single `**` matches every path. -/
def accepts (p : Pattern) (path : List Nat) : Bool :=
  match p.tokens with
  | [.leading] => true
  | tokens => (restsOfAll tokens path).any List.isEmpty

/-! ## Lines -/

/-- What a line of an ignore file is. -/
inductive Line where
  /-- Empty, or a comment. -/
  | blank
  | malformed
  | pattern (p : Pattern)

/-- Drops the blanks behind a line, unless the last of them is escaped. -/
def trimLine (line : List Char) : List Char :=
  if ['\\', ' '].isSuffixOf line then line
  else (line.reverse.dropWhile Text.isBlank).reverse

/-- Splits off the slash behind a pattern, and the backslash that may stand before it. -/
def splitDirectory (line : List Char) : List Char × Bool :=
  match line.reverse with
  | '/' :: '\\' :: rest => (rest.reverse, true)
  | '/' :: rest => (rest.reverse, true)
  | _ => (line, false)

/-- The pattern that a body stands for, read from the directory of the file. A body without a
slash matches at every depth, and `**` behind a slash does not match the directory itself. -/
def whole (tied : Bool) (body : List Char) : List Char :=
  let deep := body == ['*', '*'] || ['*', '*', '/'].isPrefixOf body
  let body := if tied || body.contains '/' || deep then body else ['*', '*', '/'] ++ body
  if ['/', '*', '*'].isSuffixOf body then body ++ ['/', '*'] else body

/-- The pattern of a body. -/
def ofBody (keeps tied : Bool) (body : List Char) : Line :=
  let (body, directoriesOnly) := splitDirectory body
  match Token.parse? (whole tied body) with
  | none => .malformed
  | some tokens => .pattern { tokens, keeps, directoriesOnly }

/-- Splits off the slash that ties a pattern to its directory. -/
def ofAnchored (keeps : Bool) : List Char → Line
  | '/' :: body => ofBody keeps true body
  | body => ofBody keeps false body

/-- The pattern of a line. A backslash in front makes a `!` or a `#` plain. -/
def ofLine (line : List Char) : Line :=
  match line with
  | '#' :: _ => .blank
  | _ =>
    match trimLine line with
    | [] => .blank
    | '\\' :: '!' :: body => ofBody false false ('!' :: body)
    | '\\' :: '#' :: body => ofBody false false ('#' :: body)
    | '!' :: body => ofAnchored true body
    | body => ofAnchored false body

end Pattern
end Ignore
end StyleScan
