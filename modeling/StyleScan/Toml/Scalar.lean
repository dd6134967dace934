import StyleScan.Toml.Value

/-!
# StyleScan.Toml.Scalar

The numbers, dates, texts and keys of a TOML document. Every reader takes a text and gives what it
read together with the rest, or nothing when the text does not start that way.

* `Toml.number?`   — a date, a time, a float or an integer of 64 bits.
* `Toml.quoted?`   — a text in any of the four forms of quotes.
* `Toml.key?`      — a key, or several joined by dots.
* `Toml.blank`, `Toml.lineEnd?`, `Toml.filler?` — blanks, the end of a line, and what may stand
  between the items of an array.
-/

namespace StyleScan
namespace Toml

/-! ## Blanks and line ends -/

/-- A space or a tab. -/
def isSpace (c : Char) : Bool := c == ' ' || c == '\t'

/-- Drops spaces and tabs. -/
def blank (cs : List Char) : List Char := cs.dropWhile isSpace

/-- A character that may stand in a comment and in a text of one line: no control character but the
tab. -/
def isPlain (c : Char) : Bool := c == '\t' || (0x20 ≤ c.toNat && c != '\x7f')

/-- Drops a comment up to the end of its line. -/
def comment : List Char → List Char
  | '#' :: cs => cs.dropWhile isPlain
  | cs => cs

/-- Drops a line feed, with or without a carriage return before it. -/
def newline? : List Char → Option (List Char)
  | '\n' :: cs => some cs
  | '\r' :: '\n' :: cs => some cs
  | _ => none

/-- Drops what may stand behind a value or a header: blanks, a comment, and the end of the line or
of the document. -/
def lineEnd? (cs : List Char) : Option (List Char) :=
  match comment (blank cs) with
  | [] => some []
  | rest => newline? rest

/-- Drops blanks, comments and line ends between the items of an array. A comment must be ended by
a line end. -/
def filler? : Nat → List Char → Option (List Char)
  | 0, cs => some cs
  | fuel + 1, cs =>
    match blank cs with
    | '#' :: rest =>
      match newline? (comment ('#' :: rest)) with
      | some rest => filler? fuel rest
      | none => none
    | '\n' :: rest => filler? fuel rest
    | '\r' :: rest =>
      match newline? ('\r' :: rest) with
      | some rest => filler? fuel rest
      | none => none
    | rest => some rest

/-! ## Digits -/

/-- The value of a digit in any base up to sixteen. -/
def digitValue (c : Char) : Nat :=
  if c.isDigit then c.toNat - 48
  else if 'a' ≤ c ∧ c ≤ 'f' then c.toNat - 87
  else if 'A' ≤ c ∧ c ≤ 'F' then c.toNat - 55
  else 16

/-- Whether a character is a digit of a base. -/
def isDigitOf (base : Nat) (c : Char) : Bool := digitValue c < base

/-- The number that digits spell in a base. -/
def ofDigits (base : Nat) (ds : List Char) : Nat :=
  ds.foldl (fun n d => n * base + digitValue d) 0

/-- Digits of a base, where one underscore may stand between two of them. The underscores are
dropped. -/
def digits (base : Nat) : List Char → List Char × List Char
  | [] => ([], [])
  | '_' :: d :: cs =>
    if isDigitOf base d then
      let more := digits base cs
      (d :: more.1, more.2)
    else ([], '_' :: d :: cs)
  | d :: cs =>
    if isDigitOf base d then
      let more := digits base cs
      (d :: more.1, more.2)
    else ([], d :: cs)

/-- At least one digit of a base, with underscores between digits only. -/
def digits? (base : Nat) : List Char → Option (List Char × List Char)
  | d :: cs => if isDigitOf base d then some (digits base (d :: cs)) else none
  | [] => none

/-- A sign, if there is one; the flag tells a minus. -/
def sign : List Char → Bool × List Char
  | '+' :: cs => (false, cs)
  | '-' :: cs => (true, cs)
  | cs => (false, cs)

/-- The decimal digits of an integer: a single zero, or digits that start with another one. -/
def wholeDigits? : List Char → Option (List Char × List Char)
  | '0' :: cs => some (['0'], cs)
  | cs => digits? 10 cs

/-- The integers of 64 bits. -/
def fits (n : Int) : Bool := -0x8000000000000000 ≤ n && n < 0x8000000000000000

/-- An integer: decimal with an optional sign, or with a base in front. -/
def integer? (cs : List Char) : Option (Value × List Char) :=
  let based (base : Nat) (rest : List Char) : Option (Value × List Char) :=
    match digits? base rest with
    | some (ds, rest) =>
      let n : Int := ofDigits base ds
      if fits n then some (.int n, rest) else none
    | none => none
  match cs with
  | '0' :: 'x' :: rest => based 16 rest
  | '0' :: 'o' :: rest => based 8 rest
  | '0' :: 'b' :: rest => based 2 rest
  | cs =>
    let (negative, rest) := sign cs
    match wholeDigits? rest with
    | some (ds, rest) =>
      let magnitude : Int := ofDigits 10 ds
      let n := if negative then -magnitude else magnitude
      if fits n then some (.int n, rest) else none
    | none => none

/-- The digits behind a decimal point, if there is one. -/
def fraction? : List Char → Option (List Char × List Char)
  | '.' :: cs => digits? 10 cs
  | _ => none

/-- An exponent of ten, if there is one. -/
def exponent? : List Char → Option (Int × List Char)
  | 'e' :: cs | 'E' :: cs =>
    let (negative, rest) := sign cs
    match digits? 10 rest with
    | some (ds, rest) =>
      let n : Int := ofDigits 10 ds
      some (if negative then -n else n, rest)
    | none => none
  | _ => none

/-- A decimal with a fraction, an exponent or both. One that is too large is refused; one that is
too small, and below zero, is not. -/
def decimal? (cs : List Char) : Option (Value × List Char) :=
  let (negative, rest) := sign cs
  match wholeDigits? rest with
  | none => none
  | some (whole, rest) =>
    let read (fraction : List Char) (exponent : Int) (rest : List Char) :=
      let value := Binary64.ofDecimal negative (ofDigits 10 (whole ++ fraction))
        (exponent - fraction.length)
      if value = .infinite false then none else some (Value.float value, rest)
    match fraction? rest with
    | some (fraction, rest) =>
      match exponent? rest with
      | some (exponent, rest) => read fraction exponent rest
      | none => read fraction 0 rest
    | none =>
      match exponent? rest with
      | some (exponent, rest) => read [] exponent rest
      | none => none

/-- An infinity or not a number, with an optional sign. -/
def special? (cs : List Char) : Option (Value × List Char) :=
  match sign cs with
  | (negative, 'i' :: 'n' :: 'f' :: rest) => some (.float (.infinite negative), rest)
  | (_, 'n' :: 'a' :: 'n' :: rest) => some (.float .nan, rest)
  | _ => none

/-! ## Dates and times -/

/-- Exactly `count` decimal digits. -/
def fixed? (count : Nat) (cs : List Char) : Option (Nat × List Char) :=
  let ds := cs.take count
  if ds.length = count ∧ ds.all Char.isDigit then some (ofDigits 10 ds, cs.drop count) else none

/-- The number of days of a month. -/
def daysIn (year month : Nat) : Nat :=
  if month = 2 then
    if year % 4 = 0 ∧ (year % 100 ≠ 0 ∨ year % 400 = 0) then 29 else 28
  else if month = 4 ∨ month = 6 ∨ month = 9 ∨ month = 11 then 30
  else 31

/-- Drops a character that must come next. -/
def expect (c : Char) : List Char → Option (List Char)
  | d :: cs => if d = c then some cs else none
  | [] => none

/-- A day: year, month and day joined by dashes. -/
def date? (cs : List Char) : Option (Date × List Char) := do
  let (year, cs) ← fixed? 4 cs
  let cs ← expect '-' cs
  let (month, cs) ← fixed? 2 cs
  let cs ← expect '-' cs
  let (day, cs) ← fixed? 2 cs
  if 1 ≤ month ∧ month ≤ 12 ∧ 1 ≤ day ∧ day ≤ daysIn year month then
    some ({ year, month, day }, cs)
  else none

/-- The nanoseconds of a fraction of a second; digits beyond the ninth are dropped. -/
def nanoseconds (ds : List Char) : Nat :=
  let kept := ds.take 9
  ofDigits 10 kept * Nat.pow 10 (9 - kept.length)

/-- A time of day: hour, minute and second joined by colons, and a fraction of a second. -/
def time? (cs : List Char) : Option (Time × List Char) := do
  let (hour, cs) ← fixed? 2 cs
  let cs ← expect ':' cs
  let (minute, cs) ← fixed? 2 cs
  let cs ← expect ':' cs
  let (second, cs) ← fixed? 2 cs
  if hour ≤ 23 ∧ minute ≤ 59 ∧ second ≤ 60 then
    match cs with
    | '.' :: rest =>
      let ds := rest.takeWhile Char.isDigit
      let after := rest.dropWhile Char.isDigit
      if ds.isEmpty then none
      else some ({ hour, minute, second, nanosecond := nanoseconds ds }, after)
    | cs => some ({ hour, minute, second, nanosecond := 0 }, cs)
  else none

/-- An offset: `Z`, or a sign, hours and minutes. -/
def offset? (cs : List Char) : Option (Offset × List Char) :=
  let signed (negative : Bool) (cs : List Char) : Option (Offset × List Char) := do
    let (hour, cs) ← fixed? 2 cs
    let cs ← expect ':' cs
    let (minute, cs) ← fixed? 2 cs
    let n : Int := hour * 60 + minute
    if hour ≤ 23 ∧ minute ≤ 59 then some (.minutes (if negative then -n else n), cs) else none
  match cs with
  | 'Z' :: rest | 'z' :: rest => some (.universal, rest)
  | '+' :: rest => signed false rest
  | '-' :: rest => signed true rest
  | _ => none

/-- The time behind a date, if there is one. -/
def timeAfter? : List Char → Option (Time × List Char)
  | 'T' :: cs | 't' :: cs | ' ' :: cs => time? cs
  | _ => none

/-- A date, a time, or both with an optional offset. -/
def dateTime? (cs : List Char) : Option (Value × List Char) :=
  match date? cs with
  | some (date, rest) =>
    match timeAfter? rest with
    | some (time, rest) =>
      match offset? rest with
      | some (offset, rest) => some (.dateTime (.both date time (some offset)), rest)
      | none => some (.dateTime (.both date time none), rest)
    | none => some (.dateTime (.date date), rest)
  | none =>
    match time? cs with
    | some (time, rest) => some (.dateTime (.time time), rest)
    | none => none

/-- A date, a time or a number. -/
def number? (cs : List Char) : Option (Value × List Char) :=
  dateTime? cs <|> decimal? cs <|> special? cs <|> integer? cs

/-! ## Texts -/

/-- The character of a number of hexadecimal digits. -/
def unicode? (count : Nat) (cs : List Char) : Option (Char × List Char) :=
  let ds := cs.take count
  let n := ofDigits 16 ds
  if ds.length = count ∧ ds.all (isDigitOf 16) ∧ n.isValidChar then
    some (Char.ofNat n, cs.drop count)
  else none

/-- The character of an escape, behind its backslash. -/
def escape? : List Char → Option (Char × List Char)
  | 'b' :: cs => some ('\x08', cs)
  | 'f' :: cs => some ('\x0c', cs)
  | 'n' :: cs => some ('\n', cs)
  | 'r' :: cs => some ('\r', cs)
  | 't' :: cs => some ('\t', cs)
  | '"' :: cs => some ('"', cs)
  | '\\' :: cs => some ('\\', cs)
  | 'u' :: cs => unicode? 4 cs
  | 'U' :: cs => unicode? 8 cs
  | _ => none

/-- A text of one line behind its opening quote; `quote` ends it, and escapes are read if `escapes`
is set. -/
def line? (quote : Char) (escapes : Bool) : Nat → List Char → Option (List Char × List Char)
  | 0, _ => none
  | _ + 1, [] => none
  | fuel + 1, c :: cs =>
    if c = quote then some ([], cs)
    else if c = '\\' ∧ escapes = true then
      match escape? cs with
      | some (d, rest) => (line? quote escapes fuel rest).map fun more => (d :: more.1, more.2)
      | none => none
    else if isPlain c then (line? quote escapes fuel cs).map fun more => (c :: more.1, more.2)
    else none

/-- Drops the blanks and line ends behind a backslash that ends a line. -/
def continuation? (cs : List Char) : Option (List Char) :=
  match newline? (blank cs) with
  | some rest => some (gaps rest)
  | none => none
where
  /-- Drops blanks and line ends. -/
  gaps : List Char → List Char
    | '\r' :: '\n' :: cs => gaps cs
    | c :: cs => if isSpace c || c == '\n' then gaps cs else c :: cs
    | [] => []

/-- A text of several lines behind its opening quotes. Three quotes end it, after up to two that
belong to the text; a line end is read as a line feed. -/
def block? (quote : Char) (escapes : Bool) : Nat → List Char → Option (List Char × List Char)
  | 0, _ => none
  | _ + 1, [] => none
  | fuel + 1, c :: cs =>
    if c = quote then
      let run := (c :: cs).takeWhile (· == quote)
      if run.length < 3 then
        (block? quote escapes fuel cs).map fun more => (c :: more.1, more.2)
      else
        let used := min run.length 5
        some (List.replicate (used - 3) quote, (c :: cs).drop used)
    else if c = '\\' ∧ escapes = true then
      match continuation? cs with
      | some rest => block? quote escapes fuel rest
      | none =>
        match escape? cs with
        | some (d, rest) => (block? quote escapes fuel rest).map fun more => (d :: more.1, more.2)
        | none => none
    else if isPlain c then (block? quote escapes fuel cs).map fun more => (c :: more.1, more.2)
    else
      match newline? (c :: cs) with
      | some rest => (block? quote escapes fuel rest).map fun more => ('\n' :: more.1, more.2)
      | none => none

/-- A text in quotes, of one line. -/
def quotedLine? : List Char → Option (String × List Char)
  | '"' :: cs => (line? '"' true (cs.length + 1) cs).map fun r => (String.ofList r.1, r.2)
  | '\'' :: cs => (line? '\'' false (cs.length + 1) cs).map fun r => (String.ofList r.1, r.2)
  | _ => none

/-- A text of several lines; a line end right behind the opening quotes is dropped. -/
def quotedBlock? (quote : Char) (escapes : Bool) (cs : List Char) :
    Option (String × List Char) :=
  let body := (newline? cs).getD cs
  (block? quote escapes (body.length + 1) body).map fun r => (String.ofList r.1, r.2)

/-- A text in any of the four forms of quotes. -/
def quoted? : List Char → Option (String × List Char)
  | '"' :: '"' :: '"' :: cs => quotedBlock? '"' true cs
  | '\'' :: '\'' :: '\'' :: cs => quotedBlock? '\'' false cs
  | cs => quotedLine? cs

/-! ## Keys -/

/-- A character of a key without quotes. -/
def isKeyChar (c : Char) : Bool := c.isAlphanum || c == '_' || c == '-'

/-- One part of a key. -/
def keyPart? (cs : List Char) : Option (String × List Char) :=
  match cs with
  | '"' :: _ | '\'' :: _ => quotedLine? cs
  | cs =>
    let name := cs.takeWhile isKeyChar
    if name.isEmpty then none else some (String.ofList name, cs.dropWhile isKeyChar)

/-- The parts of a key, joined by dots with blanks around them. -/
def keyParts? : Nat → List Char → Option (List String × List Char)
  | 0, _ => none
  | fuel + 1, cs =>
    match keyPart? (blank cs) with
    | none => none
    | some (part, rest) =>
      match blank rest with
      | '.' :: rest => (keyParts? fuel rest).map fun more => (part :: more.1, more.2)
      | rest => some ([part], rest)

/-- The most levels of nesting in a document. -/
def maxDepth : Nat := 80

/-- A key, of fewer than `maxDepth` parts. -/
def key? (cs : List Char) : Option (List String × List Char) := keyParts? (maxDepth - 1) cs

end Toml
end StyleScan
