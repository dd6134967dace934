import StyleScan.Decimal.Binary64

/-!
# StyleScan.Toml.Value

The values of a settings document in TOML.

* `Toml.Value`    — a value of any type.
* `Toml.DateTime` — a date, a time of day, or both, with an offset if one was given.
* `Toml.DateTime.text` — its normal form.
-/

namespace StyleScan
namespace Toml

/-- A day of the calendar. -/
structure Date where
  year : Nat
  month : Nat
  day : Nat
deriving DecidableEq, Repr, Inhabited

/-- A time of day. -/
structure Time where
  hour : Nat
  minute : Nat
  second : Nat
  nanosecond : Nat
deriving DecidableEq, Repr, Inhabited

/-- The distance of a local time from universal time. -/
inductive Offset where
  | universal
  | minutes (n : Int)
deriving DecidableEq, Repr, Inhabited

/-- A date, a time of day, or both. -/
inductive DateTime where
  | date (d : Date)
  | time (t : Time)
  | both (d : Date) (t : Time) (offset : Option Offset)
deriving DecidableEq, Repr, Inhabited

/-- The decimal digits of a number, with zeros in front up to a width. -/
def padded (width n : Nat) : String :=
  let digits := Nat.toDigits 10 n
  String.ofList (List.replicate (width - digits.length) '0' ++ digits)

/-- The text of a day. -/
def Date.text (d : Date) : String :=
  padded 4 d.year ++ "-" ++ padded 2 d.month ++ "-" ++ padded 2 d.day

/-- The text of a time; a fraction of a second is written without zeros behind it. -/
def Time.text (t : Time) : String :=
  let fraction := (padded 9 t.nanosecond).toList
  padded 2 t.hour ++ ":" ++ padded 2 t.minute ++ ":" ++ padded 2 t.second ++
    if t.nanosecond = 0 then ""
    else "." ++ String.ofList (fraction.reverse.dropWhile (· == '0')).reverse

/-- The text of an offset. -/
def Offset.text : Offset → String
  | universal => "Z"
  | minutes n =>
    (if n < 0 then "-" else "+") ++ padded 2 (n.natAbs / 60) ++ ":" ++ padded 2 (n.natAbs % 60)

/-- The text of a date, a time or both. -/
def DateTime.text : DateTime → String
  | date d => d.text
  | time t => t.text
  | both d t offset => d.text ++ "T" ++ t.text ++ ((offset.map Offset.text).getD "")

/-- A value of a settings document. -/
inductive Value where
  | str (s : String)
  | int (n : Int)
  | float (x : Binary64)
  | bool (b : Bool)
  | dateTime (t : DateTime)
  | array (items : List Value)
  | table (fields : List (String × Value))
deriving Inhabited, Repr

/-- The fields of a table, in the order in which they were given. -/
abbrev Table := List (String × Value)

namespace Table

/-- The value of a key. -/
def get? (key : String) : Table → Option Value
  | [] => none
  | (name, value) :: rest => if name = key then some value else get? key rest

end Table
end Toml
end StyleScan
