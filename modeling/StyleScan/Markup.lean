import StyleScan.Markup.Lexeme

/-!
# StyleScan.Markup

Well-formed markup as a list of its elements. Qualifiers must be declared, attributes must differ,
every element must be closed by its own name, and document types are refused.

* `Element`             — an element's name and its attributes without a qualifier.
* `Scope`               — the qualifiers that are declared at an element.
* `Markup.elements?`    — the elements of a document in the order in which they start.
-/

namespace StyleScan
namespace Markup

/-! ## Qualifiers -/

/-- The address to which the qualifier `xml` is bound. -/
def xmlAddress : String := "http://www.w3.org/XML/1998/namespace"

/-- The address to which the qualifier `xmlns` is bound. -/
def xmlnsAddress : String := "http://www.w3.org/2000/xmlns/"

/-- The declared qualifiers with their addresses; the empty qualifier is the default. -/
abbrev Scope := List (String × String)

/-- An attribute with its value unescaped. -/
structure Setting where
  name : Name
  value : String
deriving DecidableEq, Repr, Inhabited

/-- Unescapes the values of attributes. -/
def settings? : List Attribute → Option (List Setting)
  | [] => some []
  | a :: rest =>
    match unescape? a.value, settings? rest with
    | some value, some others => some (⟨a.name, String.ofList value⟩ :: others)
    | _, _ => none

/-- The declarations among the attributes of an element, in addition to those `own` before. The
addresses of `xml` and `xmlns` are reserved, and a qualifier is declared once. -/
def declared? (own : Scope) : List Setting → Option Scope
  | [] => some own
  | s :: rest =>
    if s.name.qualifier == "xmlns" then
      if s.value == xmlnsAddress || (s.name.text == "xml") != (s.value == xmlAddress) then none
      else if own.any fun entry => entry.1 == s.name.text then none
      else if s.name.text == "xml" then declared? own rest
      else declared? (own ++ [(s.name.text, s.value)]) rest
    else if s.name.text == "xmlns" then
      if s.value == xmlAddress || s.value == xmlnsAddress then none
      else declared? (own ++ [("", s.value)]) rest
    else declared? own rest

/-- Whether an attribute is a declaration. -/
def isDeclaration (s : Setting) : Bool := s.name.qualifier == "xmlns" || s.name.text == "xmlns"

/-- The address and the name of an attribute. One without a qualifier has no address. -/
def expanded? (scope : Scope) (s : Setting) : Option (Option String × String) :=
  if s.name.qualifier == "" then some (none, s.name.text)
  else if s.name.qualifier == "xml" then some (some xmlAddress, s.name.text)
  else (scope.lookup s.name.qualifier).map fun address => (some address, s.name.text)

/-! ## Elements -/

/-- An element: its name without the qualifier, and its attributes that have none. -/
structure Element where
  name : String
  attributes : List (String × String)
deriving DecidableEq, Repr, Inhabited

/-- The value of an attribute. -/
def Element.attribute? (e : Element) (name : String) : Option String := e.attributes.lookup name

/-- The start of an element. -/
structure Tag where
  name : Name
  attributes : List Attribute
  /-- Whether the element ends where it starts. -/
  isEmpty : Bool
deriving Repr, Inhabited

/-- Takes the attributes of a tag up to its end. -/
def attributes? (cs : List Char) : Option (List Attribute × Bool × List Char) :=
  match cs.dropWhile isSpace with
  | '/' :: '>' :: rest => some ([], true, rest)
  | '>' :: rest => some ([], false, rest)
  | start =>
    if start.length < cs.length then
      match attribute? start with
      | none => none
      | some (a, rest) =>
        if rest.length < cs.length then
          match attributes? rest with
          | some (others, isEmpty, rest) => some (a :: others, isEmpty, rest)
          | none => none
        else none
    else none
termination_by cs.length

/-- Takes a tag behind its `<`. -/
def tag? (cs : List Char) : Option (Tag × List Char) :=
  match name? cs with
  | none => none
  | some (name, rest) =>
    match attributes? rest with
    | some (attributes, isEmpty, rest) => some (⟨name, attributes, isEmpty⟩, rest)
    | none => none

/-- The element that a tag starts inside a scope, and the scope inside the element. -/
def start? (outer : Scope) (tag : Tag) : Option (Element × Scope) := do
  let settings ← settings? tag.attributes
  let own ← declared? [] settings
  let scope := own ++ outer
  let plain := settings.filter fun s => !isDeclaration s
  let names ← plain.mapM (expanded? scope)
  let qualifier := tag.name.qualifier
  if !decide names.Nodup || qualifier == "xmlns" then none
  else if qualifier != "" && (scope.lookup qualifier).isNone then none
  else
    let bare := plain.filter fun s => s.name.qualifier == ""
    return (⟨tag.name.text, bare.map fun s => (s.name.text, s.value)⟩, scope)

/-! ## Documents -/

/-- Takes a comment behind its `<!--`. It must not hold two dashes nor end in one. -/
def comment? (cs : List Char) : Option (List Char) :=
  match upTo? ['-', '-', '>'] cs with
  | none => none
  | some (text, rest) =>
    if Text.contains ['-', '-'] text || text.getLast? == some '-' then none else some rest

/-- Takes an instruction behind its `<?`. Declarations are refused. -/
def instruction? (cs : List Char) : Option (List Char) :=
  if ['x', 'm', 'l', ' '].isPrefixOf cs || !startsName cs then none
  else (upTo? ['?', '>'] ((cs.dropWhile isNameChar).dropWhile isSpace)).map Prod.snd

/-- Takes the characters in front of the next markup. They must not hold `]]>`, and their
references must be sound. -/
def characters? (cs : List Char) : Option (List Char) :=
  let text := cs.takeWhile (· != '<')
  if text.all isAllowed && !Text.contains [']', ']', '>'] text && (unescape? text).isSome then
    some (cs.dropWhile (· != '<'))
  else none

/-- An element that is not closed yet. -/
structure Open where
  name : Name
  scope : Scope
deriving Repr, Inhabited

/-- What one step through the content of an element gives: the elements still open, the elements
that started, and what follows. -/
abbrev Step := List Open × List Element × List Char

/-- Takes the start of an element behind its `<`. -/
def startStep? (opened : List Open) (cs : List Char) : Option Step :=
  match tag? cs with
  | none => none
  | some (tag, rest) =>
    match start? ((opened.head?.map Open.scope).getD []) tag with
    | none => none
    | some (element, scope) =>
      if tag.isEmpty then some (opened, [element], rest)
      else some (⟨tag.name, scope⟩ :: opened, [element], rest)

/-- Takes the end of the innermost element behind its `</`. -/
def endStep? (opened : List Open) (cs : List Char) : Option Step :=
  match name? cs, opened with
  | some (name, rest), last :: outer =>
    match rest.dropWhile isSpace with
    | '>' :: rest => if name = last.name then some (outer, [], rest) else none
    | _ => none
  | _, _ => none

/-- Takes the next markup or the next characters inside an element. -/
def step? (opened : List Open) (cs : List Char) : Option Step :=
  match cs with
  | '<' :: '!' :: '-' :: '-' :: rest => (comment? rest).map fun rest => (opened, [], rest)
  | '<' :: '!' :: rest =>
    match strip? ['[', 'C', 'D', 'A', 'T', 'A', '['] rest with
    | some rest => (upTo? [']', ']', '>'] rest).map fun found => (opened, [], found.2)
    | none => none
  | '<' :: '?' :: rest => (instruction? rest).map fun rest => (opened, [], rest)
  | '<' :: '/' :: rest => endStep? opened rest
  | '<' :: rest => startStep? opened rest
  | _ => (characters? cs).map fun rest => (opened, [], rest)

/-- Takes the content of the open elements until the last of them is closed. -/
def content? (opened : List Open) (cs : List Char) : Option (List Element × List Char) :=
  if opened.isEmpty then some ([], cs)
  else
    match step? opened cs with
    | none => none
    | some (opened, started, rest) =>
      if rest.length < cs.length then
        match content? opened rest with
        | some (others, rest) => some (started ++ others, rest)
        | none => none
      else none
termination_by cs.length

/-- Takes the comments, instructions and blanks around the outermost element. -/
def surroundings? (cs : List Char) : Option (List Char) :=
  let start := cs.dropWhile isSpace
  let found := match start with
    | '<' :: '!' :: '-' :: '-' :: rest => some (comment? rest)
    | '<' :: '?' :: rest => some (instruction? rest)
    | _ => none
  match found with
  | none => some start
  | some none => none
  | some (some rest) => if rest.length < cs.length then surroundings? rest else none
termination_by cs.length

/-- Takes an attribute of the declaration that starts with a word, and the blanks behind it, which
may be missing only at the end. -/
def declarationPart? (word cs : List Char) : Option (List Char) :=
  match strip? word cs with
  | none => some cs
  | some _ =>
    match attribute? cs with
    | none => none
    | some (_, rest) =>
      let after := rest.dropWhile isSpace
      if after.length < rest.length || ['?', '>'].isPrefixOf rest then some after else none

/-- Takes the declaration behind its `<?xml`: a version, and optionally an encoding and whether
the document stands alone. -/
def declaration? (cs : List Char) : Option (List Char) := do
  let cs := cs.dropWhile isSpace
  let _ ← strip? "version".toList cs
  let cs ← declarationPart? "version".toList cs
  let cs ← declarationPart? "encoding".toList cs
  let cs ← declarationPart? "standalone".toList cs
  strip? ['?', '>'] cs

/-- Takes what may stand in front of a document: a byte-order mark and the declaration. -/
def opening? (cs : List Char) : Option (List Char) :=
  let cs := if cs.head? == some '\ufeff' then cs.tail else cs
  match strip? "<?xml ".toList cs with
  | some rest => declaration? rest
  | none => some cs

/-- The elements of a document in the order in which they start, if it is well formed. -/
def elements? (text : String) : Option (List Element) := do
  let cs ← opening? text.toList
  let cs ← surroundings? cs
  let rest ← strip? ['<'] cs
  let (opened, started, rest) ← startStep? [] rest
  let (others, rest) ← content? opened rest
  let rest ← surroundings? rest
  if rest.isEmpty then some (started ++ others) else none

end Markup
end StyleScan
