/-!
# StyleScan.Json

Machine-readable values and their indented text.

* `Json`        — a value; numbers without fraction and exponent are integers of any size.
* `Json.pretty` — the text of a value, two spaces per level, fields in their order.
* `Json.quote`  — a text between double quotes, control characters escaped.
-/

namespace StyleScan

/-- A machine-readable value. The fields of an object keep their order. -/
inductive Json where
  | null
  | bool (b : Bool)
  | int (n : Int)
  /-- A number with a fraction or an exponent, by its text. -/
  | decimal (text : String)
  | str (s : String)
  | arr (items : List Json)
  | obj (fields : List (String × Json))
deriving Inhabited, Repr

namespace Json

/-- The value of the first field of a name, in a list of fields. -/
def lookup (name : String) : List (String × Json) → Option Json
  | [] => none
  | (key, value) :: rest => if key = name then some value else lookup name rest

/-- A hexadecimal digit, lower case. -/
def hexDigit (n : Nat) : Char :=
  if n < 10 then Char.ofNat (48 + n) else Char.ofNat (87 + n)

/-- The escaped form of a character inside quotes. -/
def escape (c : Char) : List Char :=
  if c = '"' then ['\\', '"']
  else if c = '\\' then ['\\', '\\']
  else if c = '\n' then ['\\', 'n']
  else if c = '\r' then ['\\', 'r']
  else if c = '\t' then ['\\', 't']
  else if c = '\x08' then ['\\', 'b']
  else if c = '\x0c' then ['\\', 'f']
  else if c.toNat < 0x20 then
    ['\\', 'u', '0', '0', hexDigit (c.toNat / 16), hexDigit (c.toNat % 16)]
  else [c]

/-- A text between double quotes. -/
def quote (s : String) : String :=
  String.ofList ('"' :: (s.toList.flatMap escape ++ ['"']))

/-- The spaces in front of a line at a level. -/
def margin (level : Nat) : String := String.ofList (List.replicate (2 * level) ' ')

mutual

/-- The text of a value whose first line stands at `level`. -/
def pretty (level : Nat) : Json → String
  | null => "null"
  | bool b => if b then "true" else "false"
  | int n => toString n
  | decimal text => text
  | str s => quote s
  | arr [] => "[]"
  | arr (item :: items) =>
    "[\n" ++ margin (level + 1) ++ pretty (level + 1) item ++ prettyItems (level + 1) items
      ++ "\n" ++ margin level ++ "]"
  | obj [] => "\x7b\x7d"
  | obj (field :: fields) =>
    "\x7b\n" ++ margin (level + 1) ++ prettyField (level + 1) field
      ++ prettyFields (level + 1) fields ++ "\n" ++ margin level ++ "\x7d"

/-- The further items of an array, each on a line of its own. -/
def prettyItems (level : Nat) : List Json → String
  | [] => ""
  | item :: items => ",\n" ++ margin level ++ pretty level item ++ prettyItems level items

/-- One field of an object. -/
def prettyField (level : Nat) : String × Json → String
  | (key, value) => quote key ++ ": " ++ pretty level value

/-- The further fields of an object, each on a line of its own. -/
def prettyFields (level : Nat) : List (String × Json) → String
  | [] => ""
  | field :: fields => ",\n" ++ margin level ++ prettyField level field ++ prettyFields level fields

end

end Json
end StyleScan
