import StyleScan.Text.Ranges
import StyleScan.Text.Search

/-!
# StyleScan.Markup.Lexeme

The parts that markup is made of. Each reader takes its part from the front of a text and gives
what follows it, or nothing where the text has no such part.

* `name?`      — a name with an optional qualifier, `qualifier:name`.
* `upTo?`      — what stands before a marker.
* `reference?` — a character reference or one of the five predefined entities.
* `unescape?`  — a text with its references replaced and its line breaks and tabs made spaces.
* `attribute?` — a name, an equals sign, and a value between quotes.
-/

namespace StyleScan
namespace Markup

/-! ## Characters -/

/-- The blanks of markup. -/
def isSpace (c : Char) : Bool := c == ' ' || c == '\t' || c == '\n' || c == '\r'

/-- The characters that markup may hold. -/
def isAllowed (c : Char) : Bool :=
  if c.toNat < 0x20 then isSpace c else c.toNat != 0xFFFE && c.toNat != 0xFFFF

/-- Ranges of the characters beyond ASCII that can start a name. -/
def nameStarts : List (Nat × Nat) :=
  [(0xC0, 0xD6), (0xD8, 0xF6), (0xF8, 0x2FF), (0x370, 0x37D), (0x37F, 0x1FFF), (0x200C, 0x200D),
    (0x2070, 0x218F), (0x2C00, 0x2FEF), (0x3001, 0xD7FF), (0xF900, 0xFDCF), (0xFDF0, 0xFFFD),
    (0x10000, 0xEFFFF)]

/-- Ranges of the further characters beyond ASCII that a name can hold. -/
def nameMarks : List (Nat × Nat) := [(0xB7, 0xB7), (0x300, 0x36F), (0x203F, 0x2040)]

/-- The characters that can start a name. -/
def isNameStart (c : Char) : Bool :=
  c.isAlpha || c == ':' || c == '_' || Text.inRanges nameStarts c.toNat

/-- The characters of a name. -/
def isNameChar (c : Char) : Bool :=
  isNameStart c || c.isDigit || c == '-' || c == '.' || Text.inRanges nameMarks c.toNat

/-! ## Names and markers -/

/-- What follows a given text. -/
def strip? (text cs : List Char) : Option (List Char) :=
  if text.isPrefixOf cs then some (cs.drop text.length) else none

/-- What stands before a marker, and what follows it. Every character before it must be allowed. -/
def upTo? (marker : List Char) : List Char → Option (List Char × List Char)
  | [] => none
  | c :: cs =>
    if marker.isPrefixOf (c :: cs) then some ([], (c :: cs).drop marker.length)
    else if isAllowed c then
      match upTo? marker cs with
      | some (before, rest) => some (c :: before, rest)
      | none => none
    else none

/-- A name, with the qualifier in front of its colon or an empty one. -/
structure Name where
  qualifier : String
  text : String
deriving DecidableEq, Repr, Inhabited

/-- Whether a part of a name starts as it must. -/
def startsName (part : List Char) : Bool :=
  match part with
  | [] => false
  | c :: _ => isNameStart c

/-- Takes a name with at most one colon. A qualifier may be empty, the name behind it not. -/
def name? (cs : List Char) : Option (Name × List Char) :=
  let rest := cs.dropWhile isNameChar
  match Text.fields ':' (cs.takeWhile isNameChar) with
  | [text] => if startsName text then some (⟨"", String.ofList text⟩, rest) else none
  | [qualifier, text] =>
    if (qualifier.isEmpty || startsName qualifier) && startsName text then
      some (⟨String.ofList qualifier, String.ofList text⟩, rest)
    else none
  | _ => none

/-! ## References -/

/-- The value of a digit, whatever the base. -/
def digitValue (c : Char) : Nat :=
  if c.isDigit then c.toNat - 48 else if 97 ≤ c.toNat then c.toNat - 87 else c.toNat - 55

/-- Whether a character is a hexadecimal digit. -/
def isHexDigit (c : Char) : Bool :=
  c.isDigit || ('a' ≤ c && c ≤ 'f') || ('A' ≤ c && c ≤ 'F')

/-- The character that the digits of a reference name. A number that names none gives U+FFFD. -/
def numbered? (base : Nat) (digits : List Char) : Option Char :=
  let n := digits.foldl (fun n c => n * base + digitValue c) 0
  let c := if n.isValidChar then Char.ofNat n else '\ufffd'
  if digits.isEmpty || 0x100000000 ≤ n || !isAllowed c then none else some c

/-- The character that an entity's name stands for. -/
def predefined? (name : List Char) : Option Char :=
  match String.ofList name with
  | "quot" => some '"'
  | "amp" => some '&'
  | "apos" => some '\''
  | "lt" => some '<'
  | "gt" => some '>'
  | _ => none

/-- Takes what follows the ampersand of a reference, and gives the character it stands for. -/
def reference? (cs : List Char) : Option (Char × List Char) :=
  let (found, rest) := match cs with
    | '#' :: 'x' :: rest => (numbered? 16 (rest.takeWhile isHexDigit), rest.dropWhile isHexDigit)
    | '#' :: rest => (numbered? 10 (rest.takeWhile Char.isDigit), rest.dropWhile Char.isDigit)
    | _ =>
      if startsName cs then (predefined? (cs.takeWhile isNameChar), cs.dropWhile isNameChar)
      else (none, cs)
  match found, rest with
  | some c, ';' :: rest => some (c, rest)
  | _, _ => none

/-- A text with its references replaced. Tabs and line breaks become single spaces, those that a
reference stands for do not. -/
def unescape? (cs : List Char) : Option (List Char) :=
  match cs with
  | [] => some []
  | '&' :: rest =>
    match reference? rest with
    | none => none
    | some (c, after) =>
      if after.length ≤ rest.length then (unescape? after).map (c :: ·) else none
  | '\r' :: '\n' :: rest => (unescape? rest).map (' ' :: ·)
  | c :: rest =>
    (unescape? rest).map ((if c == '\r' || c == '\n' || c == '\t' then ' ' else c) :: ·)
termination_by cs.length

/-! ## Attributes -/

/-- An attribute with its value as written. -/
structure Attribute where
  name : Name
  value : List Char
deriving DecidableEq, Repr, Inhabited

/-- Takes a value between quotes; it must not hold a `<`. -/
def quoted? : List Char → Option (List Char × List Char)
  | [] => none
  | quote :: cs =>
    if quote != '"' && quote != '\'' then none
    else
      let inside := fun c => c != quote && c != '<'
      let value := cs.takeWhile inside
      match cs.dropWhile inside with
      | c :: rest => if c == quote && value.all isAllowed then some (value, rest) else none
      | [] => none

/-- Takes an attribute. -/
def attribute? (cs : List Char) : Option (Attribute × List Char) :=
  match name? cs with
  | none => none
  | some (name, rest) =>
    match rest.dropWhile isSpace with
    | '=' :: rest =>
      match quoted? (rest.dropWhile isSpace) with
      | some (value, rest) => some (⟨name, value⟩, rest)
      | none => none
    | _ => none

end Markup
end StyleScan
